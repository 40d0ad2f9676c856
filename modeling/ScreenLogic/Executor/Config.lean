import ScreenLogic.Action.Wire

/-!
# Configuration of an executor

How deeply actions may chain, how long a handler may take, and the text that stands for
the message of an error.
-/

namespace ScreenLogic

structure Config where
  errorMessageSentinel : String
  maxChainDepth : Nat
  /-- In milliseconds; without one a handler may take for ever. -/
  handlerTimeout : Option Nat
  deriving DecidableEq

inductive ConfigError where
  | emptySentinel
  | zeroDepth
  | depthTooLarge
  | zeroTimeout
  deriving DecidableEq

namespace Config

/-- The largest chain depth that may be configured. -/
def depthLimit : Nat := 1024

def initial : Config := ⟨"$error.message", 16, none⟩

/-- The first thing that is wrong with a configuration. -/
def check (c : Config) : Except ConfigError Unit :=
  if c.errorMessageSentinel = "" then .error .emptySentinel
  else if c.maxChainDepth = 0 then .error .zeroDepth
  else if depthLimit < c.maxChainDepth then .error .depthTooLarge
  else if c.handlerTimeout = some 0 then .error .zeroTimeout
  else .ok ()

def fields : List Decode.Field :=
  [.defaulted "error_message_sentinel" Decode.text,
   .defaulted "max_chain_depth" (Decode.count "usize"),
   .defaulted "handler_timeout_ms" (Decode.optional (Decode.count "u64"))]

def decode : Decoder Config := fun v => do
  let present ← Decode.record "ExecutorConfig" fields v
  return {
    errorMessageSentinel :=
      ← Decode.orElse present "error_message_sentinel" Decode.text initial.errorMessageSentinel
    maxChainDepth :=
      ← Decode.orElse present "max_chain_depth" (Decode.count "usize") initial.maxChainDepth
    handlerTimeout :=
      ← Decode.orElse present "handler_timeout_ms" (Decode.optional (Decode.count "u64"))
        initial.handlerTimeout }

def timeoutValue (c : Config) : Value :=
  match c.handlerTimeout with
  | some ms => .int ms
  | none => .null

def toValue (c : Config) : Value :=
  wireObject
    [("error_message_sentinel", .str c.errorMessageSentinel),
     ("max_chain_depth", .int c.maxChainDepth),
     ("handler_timeout_ms", c.timeoutValue)]

end Config

def ConfigError.message : ConfigError → String
  | .emptySentinel => "error_message_sentinel cannot be empty"
  | .zeroDepth => "max_chain_depth must be greater than 0"
  | .depthTooLarge => "max_chain_depth cannot exceed " ++ toString Config.depthLimit
  | .zeroTimeout => "handler_timeout_ms must be greater than 0 when set"

/-- What stops an action instead of or before its work. -/
inductive ActionError where
  | unknownAction (name : String)
  | chainTooDeep (name : String) (depth : Nat)
  | invalidConfig (cause : ConfigError)
  deriving DecidableEq

def ActionError.message : ActionError → String
  | .unknownAction name => "No handler registered for action '" ++ name ++ "'"
  | .chainTooDeep name depth =>
    "Action chain exceeded maximum depth " ++ toString depth ++ " at action '" ++ name ++ "'"
  | .invalidConfig cause => "Invalid executor configuration: " ++ cause.message

/-- How an action that was not stopped has ended. -/
inductive Outcome where
  | succeeded
  | failed (message : String)
  | cancelled
  deriving DecidableEq

abbrev ActionResult := Except ActionError Outcome

end ScreenLogic
