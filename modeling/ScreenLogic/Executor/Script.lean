import ScreenLogic.Executor.Program

/-!
# Scripts

A script is a handler written as a list of steps. It ends with success unless it fails on
the way.
-/

namespace ScreenLogic

inductive ScriptStep where
  | set (path : String) (value : Value)
  /-- Write a parameter, if there is one of that name. -/
  | copy (param path : String)
  | observe
  | answer (accepted : Bool)
  | execute (action : String)
  | sleep (ms : Nat)
  | wait
  | fail (message : String)
  deriving DecidableEq

namespace ScriptStep

/-- The program of a list of steps, for given parameters. -/
def program (params : Fields Value) : List ScriptStep → Program
  | [] => .finish
  | .set path value :: rest => .write path value (program params rest)
  | .copy param path :: rest =>
    match Fields.get? params param with
    | some value => .write path value (program params rest)
    | none => program params rest
  | .observe :: rest => .observe fun _ => program params rest
  | .answer accepted :: rest => .answer none accepted fun _ => program params rest
  | .execute action :: rest => .execute action fun _ => program params rest
  | .sleep ms :: rest => .sleep ms (program params rest)
  | .wait :: rest => .park (program params rest)
  | .fail message :: _ => .fail message

/-- A handler that follows a list of steps. -/
def handler (steps : List ScriptStep) : Handler := fun params => program params steps

end ScriptStep

end ScreenLogic
