import ScreenLogic.Number.Double

/-!
# Shortest decimals

The decimals that round to a double fill an interval around it. The shortest of
them is a point of the coarsest decimal grid that meets the interval, and of the
points of that grid the one nearest to the double.
-/

namespace ScreenLogic

/-- The value `digits * 10 ^ exponent`. -/
structure Decimal where
  digits : Nat
  exponent : Int
  deriving DecidableEq

/-- Which of two equally near decimals is chosen. -/
inductive Tie where
  | up
  | toEven
  deriving DecidableEq

/-- An interval of whole numbers, with or without its two ends. -/
structure Interval where
  low : Nat
  high : Nat
  closed : Bool

namespace Interval

def contains (i : Interval) (n : Nat) : Bool :=
  if i.closed then i.low ≤ n && n ≤ i.high else i.low < n && n < i.high

def scale (i : Interval) (factor : Nat) : Interval :=
  { i with low := i.low * factor, high := i.high * factor }

/-- What rounds to the double of so many units, counted in quarter units. The gap
below a power of two is half the gap above it. -/
def roundingTo (units : Nat) : Interval :=
  let shift := units.log2 - 52
  let half := 2 <<< shift
  let below := if 0 < shift ∧ units = 1 <<< (shift + 52) then half / 2 else half
  { low := 4 * units - below
    high := 4 * units + half
    closed := units >>> shift % 2 == 0 }

/-- The multiple of `step` in the interval that is nearest to `value`. -/
def nearestMultiple (i : Interval) (tie : Tie) (value step : Nat) : Option Nat :=
  let q := value / step
  let r := value % step
  match i.contains (q * step), i.contains ((q + 1) * step) with
  | true, true =>
    if 2 * r < step then some q
    else if step < 2 * r then some (q + 1)
    else match tie with
      | .up => some (q + 1)
      | .toEven => some (if q % 2 = 0 then q else q + 1)
  | true, false => some q
  | false, true => some (q + 1)
  | false, false => none

/-- Search grids from coarse to fine; `step` is `10 ^ exponent` in the scale of `value`. -/
def coarsest (i : Interval) (tie : Tie) (value : Nat) : Nat → Nat → Int → Decimal
  | 0, step, exponent => ⟨value / step, exponent⟩
  | grids + 1, step, exponent =>
    match i.nearestMultiple tie value step with
    | some digits => ⟨digits, exponent⟩
    | none => coarsest i tie value grids (step / 10) (exponent - 1)

end Interval

/-- The shortest decimal that rounds to the double of so many units. Grids run from
`10 ^ 309`, beyond every double, to `10 ^ (-344)`, finer than every gap. -/
def Decimal.shortest (tie : Tie) (units : Nat) : Decimal :=
  if units = 0 then ⟨0, 0⟩
  else
    let fine := Nat.pow 10 344
    ((Interval.roundingTo units).scale fine).coarsest tie (4 * units * fine)
      653 (Nat.pow 10 653 * (4 * unitsPerOne)) 309

namespace Decimal

def text (d : Decimal) : String := toString d.digits

def zeros (n : Nat) : String := "".pushn '0' n

/-- The exponent of the first digit. -/
def magnitude (d : Decimal) : Int := d.text.length - 1 + d.exponent

/-- Whole part and fraction, without an exponent; a whole number has no point. -/
def positional (d : Decimal) : String :=
  let ds := d.text.toList
  if 0 ≤ d.exponent then d.text ++ zeros d.exponent.toNat
  else
    let places := (-d.exponent).toNat
    if places < ds.length then
      let whole := ds.length - places
      String.ofList (ds.take whole) ++ "." ++ String.ofList (ds.drop whole)
    else "0." ++ zeros (places - ds.length) ++ d.text

/-- One digit, the other digits as a fraction, and an exponent with its sign. -/
def scientific (d : Decimal) : String :=
  let exponent := d.magnitude
  let tail := if exponent < 0 then toString exponent else "+" ++ toString exponent
  match d.text.toList with
  | [] => "0"
  | [c] => String.ofList [c] ++ "e" ++ tail
  | c :: cs => String.ofList [c, '.'] ++ String.ofList cs ++ "e" ++ tail

end Decimal

end ScreenLogic
