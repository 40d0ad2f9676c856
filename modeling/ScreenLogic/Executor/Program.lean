import ScreenLogic.Executor.Config

/-!
# Handlers

A handler is the work behind an action. Given the parameters it is a program, which
writes into the model, looks at the executor, answers confirmations, runs other actions
and waits, and in the end succeeds or fails.
-/

namespace ScreenLogic

/-- Invocations are numbered in the order in which they begin. -/
abbrev InvocationId := Nat

/-- What a handler sees of the executor. -/
structure Observation where
  loading : List String
  /-- The action whose confirmation is waited for. -/
  pending : Option String
  model : Value
  deriving DecidableEq

/-- What a handler does next, and then after each answer that it may get. -/
inductive Program where
  | finish
  | fail (message : String)
  | write (path : String) (value : Value) (next : Program)
  | observe (next : Observation → Program)
  /-- Answer the pending confirmation, or only that of a certain invocation. -/
  | answer (id : Option InvocationId) (accepted : Bool) (next : Bool → Program)
  /-- Run an action by name and go on with its result. -/
  | execute (action : String) (next : ActionResult → Program)
  | sleep (ms : Nat) (next : Program)
  /-- Wait until released from outside. -/
  | park (next : Program)

abbrev Handler := Fields Value → Program

/-- The handlers of actions, and the definitions used when an action is run by name. -/
structure Registry where
  handlers : Fields Handler
  definitions : Fields Action

namespace Registry

def empty : Registry := ⟨[], []⟩

def register (r : Registry) (name : String) (handler : Handler) : Registry :=
  { r with handlers := Fields.put r.handlers name handler }

def define (r : Registry) (action : Action) : Registry :=
  { r with definitions := Fields.put r.definitions action.name action }

def handler? (r : Registry) (name : String) : Option Handler := Fields.get? r.handlers name

/-- An action that was not defined is a bare one. -/
def definition (r : Registry) (name : String) : Action :=
  (Fields.get? r.definitions name).getD (.bare name)

def contains (r : Registry) (name : String) : Bool := Fields.has r.handlers name

def names (r : Registry) : List String := Fields.keys r.handlers

end Registry

/-- What is fixed while an executor runs. -/
structure Executor where
  registry : Registry
  config : Config

def Executor.ofConfig (registry : Registry) (config : Config) : Except ActionError Executor :=
  match config.check with
  | .ok () => .ok ⟨registry, config⟩
  | .error cause => .error (.invalidConfig cause)

end ScreenLogic
