/-
**Inlining components.**

A reference stands for the body of its component with the references inside it replaced in turn. The
chain of pointers that are being resolved shows a circle: a pointer that is on the chain already is
not resolved again. Two definitions are given.

* `Registry.direct?` resolves the body anew at every reference;
* `Registry.inline?` remembers the resolved bodies and reports each component when it is resolved for
  the first time; what it remembers outlives a failure.

Both go down only through pointers that are registered and not yet on the chain, so both end. Neither
depends on the order in which references are met, the memory of the second aside.
-/

import RouteCompiler.Reference.Expansion
import RouteCompiler.Reference.Registry

namespace RouteCompiler

/-! ### Without a memory -/

/-- What a registered pointer stands for, resolved anew. Nothing for a pointer that is not
registered. -/
def Registry.direct? (registry : Registry) (chain : List Pointer) (pointer : Pointer) :
    Option (Except Failure Tree) :=
  match _ : registry.body? pointer with
  | none => none
  | some body =>
    some <|
      if _ : pointer ∈ chain then .error (.cyclic (chain ++ [pointer]))
      else expand (fun next => registry.direct? (chain ++ [pointer]) next) body
termination_by (registry.notOn chain).length
decreasing_by exact length_notOn_lt (mem_pointers_of_body? ‹_ = some body›) ‹pointer ∉ chain›

/-- A tree with its references resolved anew at every place. -/
def Registry.resolveDirect (registry : Registry) (tree : Tree) : Except Failure Tree :=
  expand (registry.direct? []) tree

/-! ### With a memory -/

/-- What is remembered: the resolved bodies, and the components reported so far in order. -/
structure Memo where
  resolved : List (Pointer × Tree)
  inlined : List Pointer
  deriving Repr

namespace Memo

/-- Nothing is remembered. -/
def empty : Memo :=
  ⟨[], []⟩

/-- The resolved body of a component. -/
def get? (memo : Memo) (pointer : Pointer) : Option Tree :=
  OrderedMap.get? memo.resolved pointer

/-- Reports that a component is resolved for the first time. -/
def start (memo : Memo) (pointer : Pointer) : Memo :=
  { memo with inlined := memo.inlined ++ [pointer] }

/-- Remembers the resolved body of a component. -/
def finish (memo : Memo) (pointer : Pointer) (body : Tree) : Memo :=
  { memo with resolved := OrderedMap.insert memo.resolved pointer body }

end Memo

/-- A computation with a memory that may fail. The memory is kept when it fails. -/
abbrev Resolving := ExceptT Failure (StateM Memo)

/-- What a registered pointer stands for, from the memory or resolved now. Nothing for a pointer that
is not registered. -/
def Registry.inline? (registry : Registry) (chain : List Pointer) (pointer : Pointer) :
    Option (Resolving Tree) :=
  match _ : registry.body? pointer with
  | none => none
  | some body =>
    some <|
      if _ : pointer ∈ chain then throw (.cyclic (chain ++ [pointer]))
      else do
        match (← get).get? pointer with
        | some resolved => return resolved
        | none =>
          modify (·.start pointer)
          let resolved ← expand (fun next => registry.inline? (chain ++ [pointer]) next) body
          modify (·.finish pointer resolved)
          return resolved
termination_by (registry.notOn chain).length
decreasing_by exact length_notOn_lt (mem_pointers_of_body? ‹_ = some body›) ‹pointer ∉ chain›

/-- A tree with its references resolved through the memory. -/
def Registry.resolve (registry : Registry) (tree : Tree) : Resolving Tree :=
  expand (registry.inline? []) tree

/-- The outcome of resolving a tree and the memory after it. -/
def Registry.step (registry : Registry) (memo : Memo) (tree : Tree) : Except Failure Tree × Memo :=
  (registry.resolve tree).run memo

/-- The outcomes of resolving trees one after another with one memory, also after failures. -/
def Registry.steps (registry : Registry) : Memo → List Tree → List (Except Failure Tree)
  | _, [] => []
  | memo, tree :: rest =>
    let (outcome, memo) := registry.step memo tree
    outcome :: registry.steps memo rest

end RouteCompiler
