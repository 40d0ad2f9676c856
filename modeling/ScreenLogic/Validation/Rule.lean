import ScreenLogic.Logic.Expr
import ScreenLogic.Validation.Builtin

/-!
# Validation rules

A rule is a list of checks with messages, perhaps an expression that switches it on, and
the event from which on it runs.
-/

namespace ScreenLogic

/-- What a check calls: a built-in one, or a function that is registered by name. -/
inductive CheckFunction where
  | builtin (check : BuiltinCheck)
  | custom (name : String)
  deriving DecidableEq

namespace CheckFunction

def name : CheckFunction → String
  | .builtin check => check.name
  | .custom name => name

def ofName (name : String) : CheckFunction :=
  match BuiltinCheck.ofName? name with
  | some check => .builtin check
  | none => .custom name

end CheckFunction

structure Check where
  function : CheckFunction
  args : Fields Binding
  message : String
  deriving DecidableEq

namespace Check

def withArg (c : Check) (name : String) (value : Binding) : Check :=
  { c with args := Fields.put c.args name value }

def builtin (check : BuiltinCheck) (message : String) : Check := ⟨.builtin check, [], message⟩

def required (message : String) : Check := builtin .required message

def email (message : String) : Check := builtin .email message

def numeric (message : String) : Check := builtin .numeric message

def minLength (min : Nat) (message : String) : Check :=
  (builtin .minLength message).withArg "min" (.literal (.int min))

def maxLength (max : Nat) (message : String) : Check :=
  (builtin .maxLength message).withArg "max" (.literal (.int max))

def pattern (source message : String) : Check :=
  (builtin .pattern message).withArg "pattern" (.literal (.str source))

/-- Equality with what the model holds at another path. -/
def sameAs (path message : String) : Check :=
  (builtin .matches message).withArg "other" (.reference path)

/-- A check by name: a built-in one if there is one of that name. -/
def ofName (name message : String) : Check := ⟨.ofName name, [], message⟩

/-- A check by a registered function, even if there is a built-in one of that name. -/
def custom (name : String) (args : Fields Binding) (message : String) : Check :=
  ⟨.custom name, args, message⟩

end Check

/-- The events on which an input is validated. -/
inductive Trigger where
  | change
  | blur
  | submit
  deriving DecidableEq

structure Rule where
  checks : List Check
  enabled : Option Expr
  validateOn : Trigger
  deriving DecidableEq

namespace Rule

def ofChecks (checks : List Check) : Rule := ⟨checks, none, .submit⟩

/-- A rule runs on its own event and on those that come after it. -/
def runsOn (rule : Rule) : Trigger → Bool
  | .submit => true
  | .blur => rule.validateOn != .submit
  | .change => rule.validateOn == .change

end Rule

structure CheckResult where
  function : String
  valid : Bool
  message : String
  deriving DecidableEq

structure ValidationResult where
  valid : Bool
  errors : List String
  checks : List CheckResult
  deriving DecidableEq

namespace ValidationResult

/-- The result of a rule that is switched off. -/
def skipped : ValidationResult := ⟨true, [], []⟩

/-- The errors are the messages of the checks that failed, in order. -/
def ofChecks (checks : List CheckResult) : ValidationResult :=
  let errors := (checks.filter (!·.valid)).map (·.message)
  ⟨errors.isEmpty, errors, checks⟩

end ValidationResult

end ScreenLogic
