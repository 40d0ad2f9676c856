import ScreenLogic.Fields
import ScreenLogic.Number.Basic

/-!
# Values

The values of a document: null, booleans, numbers, texts, lists and objects. An
object is a list of named entries in the order of their names, so that two objects
with the same entries are the same value.
-/

namespace ScreenLogic

inductive Value where
  | null
  | bool (value : Bool)
  | num (value : Number)
  | str (value : String)
  | arr (items : List Value)
  | obj (fields : List (String × Value))

namespace Value

instance : Inhabited Value := ⟨.null⟩

mutual

def decEq : (a b : Value) → Decidable (a = b)
  | .null, .null => isTrue rfl
  | .bool a, .bool b => if h : a = b then isTrue (h ▸ rfl) else isFalse (by simp [h])
  | .num a, .num b => if h : a = b then isTrue (h ▸ rfl) else isFalse (by simp [h])
  | .str a, .str b => if h : a = b then isTrue (h ▸ rfl) else isFalse (by simp [h])
  | .arr a, .arr b =>
    match decEqItems a b with
    | isTrue h => isTrue (h ▸ rfl)
    | isFalse h => isFalse (by simp [h])
  | .obj a, .obj b =>
    match decEqFields a b with
    | isTrue h => isTrue (h ▸ rfl)
    | isFalse h => isFalse (by simp [h])
  | .null, .bool _ | .null, .num _ | .null, .str _ | .null, .arr _ | .null, .obj _
  | .bool _, .null | .bool _, .num _ | .bool _, .str _ | .bool _, .arr _ | .bool _, .obj _
  | .num _, .null | .num _, .bool _ | .num _, .str _ | .num _, .arr _ | .num _, .obj _
  | .str _, .null | .str _, .bool _ | .str _, .num _ | .str _, .arr _ | .str _, .obj _
  | .arr _, .null | .arr _, .bool _ | .arr _, .num _ | .arr _, .str _ | .arr _, .obj _
  | .obj _, .null | .obj _, .bool _ | .obj _, .num _ | .obj _, .str _ | .obj _, .arr _ =>
    isFalse nofun
termination_by structural v => v

def decEqItems : (a b : List Value) → Decidable (a = b)
  | [], [] => isTrue rfl
  | a :: as, b :: bs =>
    match decEq a b, decEqItems as bs with
    | isTrue h, isTrue h' => isTrue (h ▸ h' ▸ rfl)
    | isFalse h, _ => isFalse (by simp [h])
    | _, isFalse h => isFalse (by simp [h])
  | [], _ :: _ | _ :: _, [] => isFalse nofun
termination_by structural v => v

def decEqFields : (a b : List (String × Value)) → Decidable (a = b)
  | [], [] => isTrue rfl
  | (k, a) :: as, (l, b) :: bs =>
    if hk : k = l then
      match decEq a b, decEqFields as bs with
      | isTrue h, isTrue h' => isTrue (hk ▸ h ▸ h' ▸ rfl)
      | isFalse h, _ => isFalse (by simp [h])
      | _, isFalse h => isFalse (by simp [h])
    else isFalse (by simp [hk])
  | [], _ :: _ | _ :: _, [] => isFalse nofun
termination_by structural v => v

end

instance : DecidableEq Value := decEq

def int (n : Int) : Value := .num (.int n)

def ofStrings (texts : List String) : Value := .arr (texts.map .str)

def asStr? : Value → Option String
  | .str s => some s
  | _ => none

def asNumber? : Value → Option Number
  | .num n => some n
  | _ => none

theorem asStr?_eq_some_iff {v : Value} {s : String} : v.asStr? = some s ↔ v = .str s := by
  cases v <;> simp [asStr?]

theorem asNumber?_eq_some_iff {v : Value} {n : Number} : v.asNumber? = some n ↔ v = .num n := by
  cases v <;> simp [asNumber?]

/-- The entry of an object under a name. -/
def field? : Value → String → Option Value
  | .obj fields, key => Fields.get? fields key
  | _, _ => none

mutual

/-- Every object, at any depth, lists its names in strictly increasing order. -/
def WellFormed : Value → Prop
  | .arr items => WellFormedItems items
  | .obj fields => Fields.WellFormed fields ∧ WellFormedFields fields
  | .null | .bool _ | .num _ | .str _ => True
termination_by structural v => v

def WellFormedItems : List Value → Prop
  | [] => True
  | v :: rest => WellFormed v ∧ WellFormedItems rest
termination_by structural v => v

def WellFormedFields : List (String × Value) → Prop
  | [] => True
  | (_, v) :: rest => WellFormed v ∧ WellFormedFields rest
termination_by structural v => v

end

end Value

end ScreenLogic
