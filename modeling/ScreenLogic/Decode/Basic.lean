import ScreenLogic.Decode.Error

/-!
# Decoders

A decoder reads a wire value as a value of a type. A record may come as an object, with
its fields in any order and unknown ones ignored, or as an array of its fields in the
order of their declaration.

## Main definitions

* `Decode.text`, `Decode.flag`, `Decode.count`, `Decode.list`, `Decode.entries`,
  `Decode.optional`, `Decode.variant`: decoders of simple types.
* `Decode.record`: the fields of a record that are present.
-/

namespace ScreenLogic

abbrev Decoder (α : Type) := Value → Except DecodeError α

namespace Decode

variable {α : Type}

def text : Decoder String
  | .str s => .ok s
  | v => .error (.wrongKind v "a string")

def flag : Decoder Bool
  | .bool b => .ok b
  | v => .error (.wrongKind v "a boolean")

/-- A whole number that is not negative; `expected` is the name of its type. -/
def count (expected : String) : Decoder Nat
  | .num (.int n) => if 0 ≤ n then .ok n.toNat else .error (.negative n expected)
  | v => .error (.wrongKind v expected)

def items (decode : Decoder α) : List Value → Except DecodeError (List α)
  | [] => .ok []
  | v :: rest => do
    let a ← decode v
    let as ← items decode rest
    return a :: as

def list (decode : Decoder α) : Decoder (List α)
  | .arr vs => items decode vs
  | v => .error (.wrongKind v "a sequence")

def namedItems (decode : Decoder α) : List (String × Value) → Except DecodeError (Fields α)
  | [] => .ok []
  | (k, v) :: rest => do
    let a ← decode v
    let as ← namedItems decode rest
    return (k, a) :: as

def entries (decode : Decoder α) : Decoder (Fields α)
  | .obj fields => namedItems decode fields
  | v => .error (.wrongKind v "a map")

/-- Null stands for nothing. -/
def optional (decode : Decoder α) : Decoder (Option α)
  | .null => .ok none
  | v => (decode v).map some

/-- One of several names, alone or as the only key of an object with the value null. -/
def variant (variants : List (String × α)) : Decoder α
  | .str name =>
    match variants.lookup name with
    | some a => .ok a
    | none => .error (.unknownVariant name (variants.map (·.1)))
  | .obj [(name, v)] =>
    match variants.lookup name with
    | some a => if v = .null then .ok a else .error (.wrongKind v "unit")
    | none => .error (.unknownVariant name (variants.map (·.1)))
  | .obj _ => .error .notSingleKey
  | v => .error (.wrongKind v "string or map")

/-- A field of a record: its name, whether it has to be there, and what it accepts. -/
structure Field where
  name : String
  isRequired : Bool
  accepts : Value → Except DecodeError Unit

def Field.required (name : String) (decode : Decoder α) : Field :=
  ⟨name, true, fun v => (decode v).map fun _ => ()⟩

def Field.defaulted (name : String) (decode : Decoder α) : Field :=
  ⟨name, false, fun v => (decode v).map fun _ => ()⟩

/-- The entries of an object that are fields of a record, each accepted, in order. -/
def knownEntries (fields : List Field) : List (String × Value) → Except DecodeError (Fields Value)
  | [] => .ok []
  | (k, v) :: rest =>
    match fields.find? (·.name == k) with
    | some field => do
      field.accepts v
      let known ← knownEntries fields rest
      return (k, v) :: known
    | none => knownEntries fields rest

def firstMissing? (fields : List Field) (present : Fields Value) : Option String :=
  (fields.find? fun field => field.isRequired && !Fields.has present field.name).map (·.name)

/-- The elements of an array as the fields of a record, from the given position on. -/
def positional (record : String) (arity : Nat) :
    List Field → List Value → Nat → Except DecodeError (Fields Value)
  | field :: fields, v :: vs, position => do
    field.accepts v
    let present ← positional record arity fields vs (position + 1)
    return (field.name, v) :: present
  | field :: fields, [], position =>
    if field.isRequired then .error (.tooShort position record arity)
    else positional record arity fields [] (position + 1)
  | [], [], _ => .ok []
  | [], vs, position => .error (.tooLong (position + vs.length))

/-- The fields of a record that are present, each one accepted by its decoder. In an
object the first bad entry is the error, and only then a missing field. -/
def record (name : String) (fields : List Field) : Decoder (Fields Value)
  | .obj entries => do
    let present ← knownEntries fields entries
    match firstMissing? fields present with
    | some field => .error (.missingField field)
    | none => return present
  | .arr vs => positional name fields.length fields vs 0
  | v => .error (.wrongKind v ("struct " ++ name))

/-- A field that is required. -/
def need (present : Fields Value) (field : String) (decode : Decoder α) : Except DecodeError α :=
  match Fields.get? present field with
  | some v => decode v
  | none => .error (.missingField field)

/-- A field with a value to fall back on. -/
def orElse (present : Fields Value) (field : String) (decode : Decoder α) (fallback : α) :
    Except DecodeError α :=
  match Fields.get? present field with
  | some v => decode v
  | none => .ok fallback

/-- Read a value by a reader of expressions. -/
def expression (read : Value → Except ExprError α) : Decoder α := fun v =>
  (read v).mapError .expression

end Decode

end ScreenLogic
