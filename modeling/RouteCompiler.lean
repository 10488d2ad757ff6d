import RouteCompiler.Console.Session
import RouteCompiler.Files.Tree
import RouteCompiler.Main
import RouteCompiler.Proofs.Reference.Expansion
import RouteCompiler.Proofs.Reference.Memory
import RouteCompiler.Proofs.Reference.Document
import RouteCompiler.Proofs.Reference.Cycles
import RouteCompiler.Proofs.Tree.SameKey
import RouteCompiler.Proofs.Reference.Splicing
import RouteCompiler.Proofs.Reference.Remains
import RouteCompiler.Proofs.Reference.Orphans
import RouteCompiler.Proofs.Schema.Level
import RouteCompiler.Proofs.Schema.Unlimited
import RouteCompiler.Proofs.Schema.Exposure
import RouteCompiler.Proofs.Reference.Sites
import RouteCompiler.Proofs.Reference.Settled
import RouteCompiler.Proofs.Route.Coverage
import RouteCompiler.Proofs.Reference.Reach
import RouteCompiler.Proofs.Route.Concatenation
import RouteCompiler.Proofs.Route.Leniency
import RouteCompiler.Proofs.Route.Required
import RouteCompiler.Proofs.Reference.Keyed
import RouteCompiler.Proofs.Reference.Stumble
import RouteCompiler.Proofs.Schema.References
import RouteCompiler.Proofs.Schema.Stumble
import RouteCompiler.Proofs.Route.SelfContained
import RouteCompiler.Proofs.Route.Stops
import RouteCompiler.Proofs.Route.FirstFault
import RouteCompiler.Proofs.Route.Stumble
import RouteCompiler.Proofs.Settings.Layers
import RouteCompiler.Proofs.Source.Keyed
import RouteCompiler.Proofs.Source.Stumble
import RouteCompiler.Proofs.Command.Failing
import RouteCompiler.Proofs.Schema.Depth
import RouteCompiler.Proofs.Schema.Paths
import RouteCompiler.Proofs.Route.Declaration
import RouteCompiler.Proofs.Route.Redeclaration
import RouteCompiler.Proofs.Schema.Commute
import RouteCompiler.Proofs.Schema.Refusal
import RouteCompiler.Proofs.Route.RequiredOrder
import RouteCompiler.Proofs.Route.Answers
import RouteCompiler.Proofs.Reference.Override
import RouteCompiler.Proofs.Reference.Calls
import RouteCompiler.Proofs.Reference.Once
import RouteCompiler.Proofs.Route.Segment
import RouteCompiler.Proofs.Reference.Order
import RouteCompiler.Proofs.Reference.Registration
