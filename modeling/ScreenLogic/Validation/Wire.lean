import ScreenLogic.Action.Wire
import ScreenLogic.Logic.Wire
import ScreenLogic.Validation.Engine

/-!
# Rules and results on the wire

Empty arguments and an absent switch are not written; the event always is.
-/

namespace ScreenLogic

def Expr.decode : Decoder Expr := Decode.expression Expr.ofValue

def CheckFunction.decode : Decoder CheckFunction := fun v => (Decode.text v).map .ofName

def CheckFunction.toValue (f : CheckFunction) : Value := .str f.name

namespace Check

def fields : List Decode.Field :=
  [.required "fn" CheckFunction.decode,
   .defaulted "args" Binding.decodeAll,
   .required "message" Decode.text]

def decode : Decoder Check := fun v => do
  let present ← Decode.record "ValidationCheck" fields v
  return {
    function := ← Decode.need present "fn" CheckFunction.decode
    args := ← Decode.orElse present "args" Binding.decodeAll []
    message := ← Decode.need present "message" Decode.text }

def toValue (c : Check) : Value :=
  wireObject <|
    [("fn", c.function.toValue)] ++
    wireField "args" (if c.args.isEmpty then none else some (Binding.toValues c.args)) ++
    [("message", .str c.message)]

end Check

namespace Trigger

def name : Trigger → String
  | .change => "change"
  | .blur => "blur"
  | .submit => "submit"

def decode : Decoder Trigger :=
  Decode.variant [("change", .change), ("blur", .blur), ("submit", .submit)]

def toValue (t : Trigger) : Value := .str t.name

end Trigger

namespace Rule

def fields : List Decode.Field :=
  [.required "checks" (Decode.list Check.decode),
   .defaulted "enabled" (Decode.optional Expr.decode),
   .defaulted "validateOn" Trigger.decode]

def decode : Decoder Rule := fun v => do
  let present ← Decode.record "ValidationRule" fields v
  return {
    checks := ← Decode.need present "checks" (Decode.list Check.decode)
    enabled := ← Decode.orElse present "enabled" (Decode.optional Expr.decode) none
    validateOn := ← Decode.orElse present "validateOn" Trigger.decode .submit }

def toValue (r : Rule) : Value :=
  wireObject <|
    [("checks", .arr (r.checks.map Check.toValue))] ++
    wireField "enabled" (r.enabled.map Expr.toValue) ++
    [("validateOn", r.validateOn.toValue)]

end Rule

namespace CheckResult

def fields : List Decode.Field :=
  [.required "fn" Decode.text, .required "valid" Decode.flag, .required "message" Decode.text]

def decode : Decoder CheckResult := fun v => do
  let present ← Decode.record "CheckResult" fields v
  return {
    function := ← Decode.need present "fn" Decode.text
    valid := ← Decode.need present "valid" Decode.flag
    message := ← Decode.need present "message" Decode.text }

def toValue (r : CheckResult) : Value :=
  wireObject [("fn", .str r.function), ("valid", .bool r.valid), ("message", .str r.message)]

end CheckResult

namespace ValidationResult

def fields : List Decode.Field :=
  [.required "valid" Decode.flag,
   .required "errors" (Decode.list Decode.text),
   .defaulted "checks" (Decode.list CheckResult.decode)]

def decode : Decoder ValidationResult := fun v => do
  let present ← Decode.record "ValidationResult" fields v
  return {
    valid := ← Decode.need present "valid" Decode.flag
    errors := ← Decode.need present "errors" (Decode.list Decode.text)
    checks := ← Decode.orElse present "checks" (Decode.list CheckResult.decode) [] }

def toValue (r : ValidationResult) : Value :=
  wireObject
    [("valid", .bool r.valid), ("errors", .ofStrings r.errors),
     ("checks", .arr (r.checks.map CheckResult.toValue))]

end ValidationResult

end ScreenLogic
