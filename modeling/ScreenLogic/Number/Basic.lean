import ScreenLogic.Number.Decimal

/-!
# Numbers of a document

A number is an exact integer or a double, and keeps its kind. Comparison forgets
the kind: an integer is first rounded to the nearest double.
-/

namespace ScreenLogic

inductive Number where
  | int (value : Int)
  | double (value : Double)
  deriving DecidableEq

namespace Number

instance : Inhabited Number := ⟨.int 0⟩

/-- The units of an integer after rounding to 53 significant bits. -/
def unitsOfInt (n : Int) : Int := n.sign * (roundBits (n.natAbs * unitsPerOne) 1 : Nat)

/-- The numeric value, in units. -/
def units : Number → Int
  | .int n => unitsOfInt n
  | .double d => d.signedUnits

def isZero (n : Number) : Bool := n.units == 0

def same (a b : Number) : Bool := a.units == b.units

def compare (a b : Number) : Ordering := Ord.compare a.units b.units

def signed (negative : Bool) (text : String) : String := if negative then "-" ++ text else text

/-- Inside a document a double always shows that it is one: a whole number keeps
`.0`, and a number of magnitude below `-5` or above `15` is written with an exponent. -/
def compact : Number → String
  | .int n => toString n
  | .double d =>
    let decimal := Decimal.shortest .toEven d.units
    let magnitude := decimal.magnitude
    signed d.negative <|
      if -5 ≤ magnitude ∧ magnitude ≤ 15 then
        if 0 ≤ decimal.exponent then decimal.positional ++ ".0" else decimal.positional
      else decimal.scientific

/-- On its own a number is shown in full, without an exponent and without `.0`. -/
def display : Number → String
  | .int n => toString n
  | .double d => signed d.negative (Decimal.shortest .up d.units).positional

end Number

end ScreenLogic
