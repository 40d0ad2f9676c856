import ScreenLogic.Text.CharSet

/-!
# Ranges of characters in UTF-8

The characters of a range are cut into ranges of equally long encodings, in which each byte
runs through a range of its own, whatever the others are.
-/

namespace ScreenLogic.Text

/-- The first and the last byte of a range of bytes. -/
abbrev ByteRange := UInt8 × UInt8

def utf8Bytes (n : Nat) : List UInt8 := String.utf8EncodeChar (Char.ofNat n)

/-- The last code points whose encodings have one, two and three bytes. -/
def lastOfLength : List Nat := [0x7f, 0x7ff, 0xffff]

/-- Where to cut a range whose encodings differ in bytes before the last of the given
number, but do not begin or do not end with a full run of the bytes behind. -/
def alignedCut? (first last : Nat) (count : Nat) : Option Nat :=
  let block := 1 <<< (6 * count)
  if first / block = last / block then none
  else if first % block ≠ 0 then some (first / block * block + block - 1)
  else if last % block ≠ block - 1 then some (last / block * block - 1)
  else none

/-- The last code point of the first piece of a range that has to be cut. -/
def cut? (first last : Nat) : Option Nat :=
  (lastOfLength.find? fun n => first ≤ n && n < last).or
    (if last ≤ 0x7f then none else [1, 2, 3].findSome? (alignedCut? first last))

/-- The ranges of bytes by which the characters of a range are encoded. -/
def byteRanges (first last : Nat) : List (List ByteRange) :=
  if last < first then []
  else
    match cut? first last with
    | some n =>
      if _h : first ≤ n ∧ n < last then byteRanges first n ++ byteRanges (n + 1) last else []
    | none => [(utf8Bytes first).zip (utf8Bytes last)]
termination_by last + 1 - first

/-- The same for the ranges of a set, without the surrogates. -/
def CharSet.byteRanges (s : CharSet) : List (List ByteRange) :=
  s.ranges.flatMap fun r =>
    if r.1 < 0xe000 ∧ 0xd7ff < r.2 then
      Text.byteRanges r.1 0xd7ff ++ Text.byteRanges 0xe000 r.2
    else Text.byteRanges r.1 r.2

end ScreenLogic.Text
