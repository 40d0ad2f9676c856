import ScreenLogic.Logic.Eval
import ScreenLogic.Text.Quoted
import ScreenLogic.Validation.Rule

/-!
# Running rules

An engine knows the built-in checks and the functions that were registered with it. A
registered function comes before a built-in check of the same name, and if it fails the
run ends with its error. A run lists the calls of registered functions that it made.
-/

namespace ScreenLogic

/-- A function of the value and the resolved arguments; it may fail with a message. -/
abbrev CustomFunction := Option Value → Fields Value → Except String Bool

inductive ValidationError where
  | unknownFunction (name : String)
  | customFunction (name cause : String)
  deriving DecidableEq

def ValidationError.message : ValidationError → String
  | .unknownFunction name => "Unknown validation function: " ++ name
  | .customFunction name cause => "Custom validation function '" ++ name ++ "' failed: " ++ cause

/-- A call of a registered function. -/
structure CustomCall where
  function : String
  input : Option Value
  args : Fields Value
  deriving DecidableEq

structure Engine where
  custom : Fields CustomFunction

namespace Engine

def knows (engine : Engine) (name : String) : Bool :=
  Fields.has engine.custom name || (BuiltinCheck.ofName? name).isSome

/-- The error for the first check of a rule whose function is not known. -/
def lint (engine : Engine) (rule : Rule) : Except ValidationError Unit :=
  match rule.checks.find? fun check => !engine.knows check.function.name with
  | some check => .error (.unknownFunction check.function.name)
  | none => .ok ()

/-- The verdict of a check, and its call of a registered function if it made one. A
function that nobody knows accepts everything. -/
def verdict (engine : Engine) (check : Check) (value : Option Value) (model : Value) :
    Except ValidationError Bool × List CustomCall :=
  let name := check.function.name
  let args := Binding.resolveAll model check.args
  match Fields.get? engine.custom name with
  | some f => ((f value args).mapError (.customFunction name), [⟨name, value, args⟩])
  | none =>
    match check.function with
    | .builtin builtin => (.ok (builtin.run value args), [])
    | .custom _ => (.ok true, [])

def runCheck (engine : Engine) (check : Check) (value : Option Value) (model : Value) :
    Except ValidationError CheckResult × List CustomCall :=
  let (outcome, calls) := engine.verdict check value model
  (outcome.map fun valid => ⟨check.function.name, valid, check.message⟩, calls)

/-- All checks in order, up to the first that fails to give a verdict. -/
def runChecks (engine : Engine) (value : Option Value) (model : Value) :
    List Check → Except ValidationError (List CheckResult) × List CustomCall
  | [] => (.ok [], [])
  | check :: rest =>
    match engine.runCheck check value model with
    | (.error e, calls) => (.error e, calls)
    | (.ok result, calls) =>
      let (results, more) := runChecks engine value model rest
      (results.map (result :: ·), calls ++ more)

def run (engine : Engine) (rule : Rule) (value : Option Value) (model : Value) :
    Except ValidationError ValidationResult × List CustomCall :=
  if rule.enabled.all (Expr.eval model) then
    let (results, calls) := engine.runChecks value model rule.checks
    (results.map .ofChecks, calls)
  else (.ok .skipped, [])

/-- The engine as it is shown to a developer. -/
def describe (engine : Engine) : String :=
  "ValidationEngine \x7b custom: [" ++
    ", ".intercalate ((Fields.keys engine.custom).map Text.quote) ++ "] \x7d"

end Engine

end ScreenLogic
