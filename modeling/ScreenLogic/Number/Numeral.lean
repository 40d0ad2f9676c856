import ScreenLogic.Number.Basic

/-!
# Reading numerals

A numeral without fraction and exponent that fits in 64 bits is an integer. Any
other is a double, read from its leading digits as far as they fit in 64 bits: the
digits are rounded once, and the scaling by a power of ten is rounded once more.
-/

namespace ScreenLogic

/-- A numeral as written: digits are values from 0 to 9. -/
structure Numeral where
  negative : Bool
  whole : List Nat
  fraction : Option (List Nat)
  exponent : Option Int

/-- Digits taken into a 64-bit significand, and how many there were. The first digit
that does not fit ends it. -/
def takeSignificand : Nat → List Nat → Nat × Nat
  | s, [] => (s, 0)
  | s, d :: ds =>
    if s * 10 + d < UInt64.size then
      let (s', n) := takeSignificand (s * 10 + d) ds
      (s', n + 1)
    else (s, 0)

namespace Double

def pow10? (k : Nat) : Option Double := ofNat? (Nat.pow 10 k)

/-- Scaling by `10 ^ exponent`. Below `10 ^ (-308)` it takes two divisions, and beyond
twice that nothing is left. -/
def scale10? (d : Double) (exponent : Int) : Option Double :=
  if 0 ≤ exponent then
    if exponent ≤ 308 then do d.mul? (← pow10? exponent.toNat)
    else if d.units = 0 then some d
    else none
  else
    let k := (-exponent).toNat
    if k ≤ 308 then do d.div? (← pow10? k)
    else if k ≤ 616 then do (← d.div? (← pow10? 308)).div? (← pow10? (k - 308))
    else some zero

end Double

namespace Numeral

def double? (n : Numeral) : Option Double := do
  let (s, taken) := takeSignificand 0 n.whole
  let (s, places) := takeSignificand s (n.fraction.getD [])
  let exponent : Int := (n.whole.length - taken : Nat) - places + n.exponent.getD 0
  let d ← (← Double.ofNat? s).scale10? exponent
  return if n.negative then d.neg else d

/-- The number a numeral stands for; a double out of range has none. -/
def number? (n : Numeral) : Option Number :=
  let (s, taken) := takeSignificand 0 n.whole
  if n.fraction.isNone ∧ n.exponent.isNone ∧ taken = n.whole.length then
    if !n.negative then some (.int s)
    else if s = 0 ∨ UInt64.size / 2 < s then (n.double?).map .double
    else some (.int (-s))
  else (n.double?).map .double

end Numeral

end ScreenLogic
