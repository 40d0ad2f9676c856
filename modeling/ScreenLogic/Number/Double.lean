/-!
# Double-precision numbers

A finite binary64 number is a sign and a whole number of units, where a unit is
`2 ^ (-1074)`, the smallest positive one. Order, equality and rounding are then
facts about whole numbers, and nothing is left to the hardware.
-/

namespace ScreenLogic

/-- How many units make one. -/
def unitsPerOne : Nat := Nat.pow 2 1074

/-- At most 53 significant bits, and below `2 ^ 1024` in value. -/
def Representable (units : Nat) : Prop :=
  units.log2 ≤ 2097 ∧ Nat.pow 2 (units.log2 - 52) ∣ units

instance (units : Nat) : Decidable (Representable units) :=
  inferInstanceAs (Decidable (_ ∧ _))

/-- A finite double. Zero has both signs. -/
structure Double where
  negative : Bool
  units : Nat
  representable : Representable units := by decide
  deriving DecidableEq

/-- The whole number nearest to `num / den`; a half goes to the even neighbour. -/
def roundDiv (num den : Nat) : Nat :=
  let q := num / den
  let r := num % den
  if den < 2 * r ∨ (2 * r = den ∧ q % 2 = 1) then q + 1 else q

/-- The whole number of at most 53 significant bits nearest to `num / den`. -/
def roundBits (num den : Nat) : Nat :=
  let shift := (num / den).log2 - 52
  roundDiv num (den <<< shift) <<< shift

namespace Double

def zero : Double := ⟨false, 0, by decide⟩

instance : Inhabited Double := ⟨zero⟩

/-- The signed number of units, which decides every comparison. -/
def signedUnits (d : Double) : Int := if d.negative then -d.units else d.units

def neg (d : Double) : Double := { d with negative := !d.negative }

def ofUnits? (negative : Bool) (units : Nat) : Option Double :=
  if h : Representable units then some ⟨negative, units, h⟩ else none

/-- The double nearest to `num / den` units, unless that is out of range. -/
def round? (negative : Bool) (num den : Nat) : Option Double :=
  ofUnits? negative (roundBits num den)

def ofNat? (n : Nat) : Option Double := round? false (n * unitsPerOne) 1

def mul? (a b : Double) : Option Double :=
  round? (a.negative != b.negative) (a.units * b.units) unitsPerOne

/-- Division by a nonzero double. -/
def div? (a b : Double) : Option Double :=
  round? (a.negative != b.negative) (a.units * unitsPerOne) b.units

end Double

end ScreenLogic
