import ScreenLogic.Action.Basic
import ScreenLogic.Decode.Basic

/-!
# Actions on the wire

An effect is an object with an entry `navigate`, `set` or `action`; if it has several, the
first of these counts. Of an action, what is absent or empty is not written.
-/

namespace ScreenLogic

/-- An entry that is written only if there is a value. -/
def wireField (name : String) (value : Option Value) : List (String × Value) :=
  match value with
  | some v => [(name, v)]
  | none => []

/-- The object with the given entries. -/
def wireObject (entries : List (String × Value)) : Value := .obj (Fields.ofList entries)

namespace Binding

def decode : Decoder Binding := fun v => .ok (ofValue v)

def decodeAll : Decoder (Fields Binding) := Decode.entries decode

def toValues (bindings : Fields Binding) : Value := .obj (Fields.mapValues toValue bindings)

end Binding

namespace Emphasis

def name : Emphasis → String
  | .default => "default"
  | .danger => "danger"

def decode : Decoder Emphasis :=
  Decode.variant [("default", .default), ("danger", .danger)]

def toValue (e : Emphasis) : Value := .str e.name

end Emphasis

namespace ConfirmSpec

def fields : List Decode.Field :=
  [.required "title" Decode.text,
   .required "message" Decode.text,
   .defaulted "confirmLabel" (Decode.optional Decode.text),
   .defaulted "cancelLabel" (Decode.optional Decode.text),
   .defaulted "variant" (Decode.optional Emphasis.decode)]

def decode : Decoder ConfirmSpec := fun v => do
  let present ← Decode.record "ConfirmSpec" fields v
  return {
    title := ← Decode.need present "title" Decode.text
    message := ← Decode.need present "message" Decode.text
    confirmLabel := ← Decode.orElse present "confirmLabel" (Decode.optional Decode.text) none
    cancelLabel := ← Decode.orElse present "cancelLabel" (Decode.optional Decode.text) none
    variant := ← Decode.orElse present "variant" (Decode.optional Emphasis.decode) none }

def toValue (spec : ConfirmSpec) : Value :=
  wireObject <|
    [("title", .str spec.title), ("message", .str spec.message)] ++
    wireField "confirmLabel" (spec.confirmLabel.map .str) ++
    wireField "cancelLabel" (spec.cancelLabel.map .str) ++
    wireField "variant" (spec.variant.map Emphasis.toValue)

end ConfirmSpec

namespace Effect

def ofValue (v : Value) : Except ExprError Effect :=
  match v with
  | .obj fields =>
    match Fields.get? fields "navigate", Fields.get? fields "set", Fields.get? fields "action" with
    | some target, _, _ => .ok (.navigate (Binding.ofValue target))
    | none, some (.obj entries), _ => .ok (.set entries)
    | none, some other, _ =>
      .error (.invalidShape "set" ("expected an object of path -> value, got " ++ other.compact))
    | none, none, some (.str name) => .ok (.chain name)
    | none, none, some other =>
      .error (.invalidShape "action" ("expected an action name, got " ++ other.compact))
    | none, none, none =>
      .error (.invalidShape "effect" "expected one of 'navigate', 'set' or 'action'")
  | other => .error (.invalidShape "effect" ("expected an object, got " ++ other.compact))

def decode : Decoder Effect := Decode.expression ofValue

def toValue : Effect → Value
  | .navigate target => .obj [("navigate", target.toValue)]
  | .set entries => .obj [("set", .obj entries)]
  | .chain name => .obj [("action", .str name)]

end Effect

namespace Action

def fields : List Decode.Field :=
  [.required "name" Decode.text,
   .defaulted "params" Binding.decodeAll,
   .defaulted "confirm" (Decode.optional ConfirmSpec.decode),
   .defaulted "onSuccess" (Decode.optional Effect.decode),
   .defaulted "onError" (Decode.optional Effect.decode)]

def decode : Decoder Action := fun v => do
  let present ← Decode.record "Action" fields v
  return {
    name := ← Decode.need present "name" Decode.text
    params := ← Decode.orElse present "params" Binding.decodeAll []
    confirm := ← Decode.orElse present "confirm" (Decode.optional ConfirmSpec.decode) none
    onSuccess := ← Decode.orElse present "onSuccess" (Decode.optional Effect.decode) none
    onError := ← Decode.orElse present "onError" (Decode.optional Effect.decode) none }

def toValue (a : Action) : Value :=
  wireObject <|
    [("name", .str a.name)] ++
    wireField "params" (if a.params.isEmpty then none else some (Binding.toValues a.params)) ++
    wireField "confirm" (a.confirm.map ConfirmSpec.toValue) ++
    wireField "onSuccess" (a.onSuccess.map Effect.toValue) ++
    wireField "onError" (a.onError.map Effect.toValue)

end Action

/-- A resolved action always shows its parameters. -/
def ResolvedAction.toValue (a : ResolvedAction) : Value :=
  wireObject <|
    [("name", .str a.name), ("params", .obj a.params)] ++
    wireField "confirm" (a.confirm.map ConfirmSpec.toValue) ++
    wireField "onSuccess" (a.onSuccess.map Effect.toValue) ++
    wireField "onError" (a.onError.map Effect.toValue)

end ScreenLogic
