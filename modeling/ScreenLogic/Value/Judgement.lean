import ScreenLogic.Value.Compact

/-!
# Judging values

Truth, equality, order and display of a value that may be absent. Nothing is
converted between kinds: only numbers compare across integers and doubles.
-/

namespace ScreenLogic

namespace Value

/-- Everything counts as true but null, false, zero and the empty text. -/
def isTruthy : Option Value → Bool
  | none | some .null => false
  | some (.bool b) => b
  | some (.num n) => !n.isZero
  | some (.str s) => s != ""
  | some (.arr _) | some (.obj _) => true

mutual

/-- Structural equality in which numbers compare by their numeric value. -/
def equals : Value → Value → Bool
  | .null, .null => true
  | .bool a, .bool b => a == b
  | .num a, .num b => a.same b
  | .str a, .str b => a == b
  | .arr a, .arr b => equalItems a b
  | .obj a, .obj b => equalFields a b
  | _, _ => false
termination_by structural v => v

def equalItems : List Value → List Value → Bool
  | [], [] => true
  | a :: as, b :: bs => equals a b && equalItems as bs
  | _, _ => false
termination_by structural v => v

def equalFields : List (String × Value) → List (String × Value) → Bool
  | [], [] => true
  | (k, a) :: as, (l, b) :: bs => k == l && equals a b && equalFields as bs
  | _, _ => false
termination_by structural v => v

end

/-- Absent equals absent and nothing else. -/
def strictEquals : Option Value → Option Value → Bool
  | none, none => true
  | some a, some b => equals a b
  | _, _ => false

/-- Two numbers or two texts are ordered, texts by code point. Nothing else is. -/
def order : Option Value → Option Value → Option Ordering
  | some (.num a), some (.num b) => some (a.compare b)
  | some (.str a), some (.str b) => some (compare a b)
  | _, _ => none

/-- The text a reader sees: a text as it is, a container as compact JSON, and nothing
for null and absent. -/
def display : Option Value → String
  | none | some .null => ""
  | some (.str s) => s
  | some (.bool b) => if b then "true" else "false"
  | some (.num n) => n.display
  | some (.arr items) => compact (.arr items)
  | some (.obj fields) => compact (.obj fields)

end Value

end ScreenLogic
