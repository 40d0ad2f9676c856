/-!
# Sets of characters

A set of characters is kept as ranges of code points, in order and with gaps between them.
Ranges of code points may run over the surrogates, which are no characters.

## Main definitions

* `CharSet.ofRanges`: the set of any ranges.
* `CharSet.ofText`: a set that is written down as a table.
* `CharSet.union`, `CharSet.inter`, `CharSet.diff`, `CharSet.symmDiff`,
  `CharSet.complement`: the algebra of sets.
-/

namespace ScreenLogic.Text

/-- Ranges of code points, by their first and last. -/
structure CharSet where
  ranges : List (Nat × Nat)
  deriving DecidableEq

/-- The last code point. -/
def lastCode : Nat := 0x10ffff

/-- The code point of the next character: surrogates are passed over. -/
def nextCode (n : Nat) : Nat := if n = 0xd7ff then 0xe000 else n + 1

def previousCode (n : Nat) : Nat := if n = 0xe000 then 0xd7ff else n - 1

namespace CharSet

def empty : CharSet := ⟨[]⟩

def full : CharSet := ⟨[(0, lastCode)]⟩

def single (c : Char) : CharSet := ⟨[(c.toNat, c.toNat)]⟩

def range (first last : Nat) : CharSet := ⟨[(first, last)]⟩

def isEmpty (s : CharSet) : Bool := s.ranges.isEmpty

def containsCode (s : CharSet) (n : Nat) : Bool :=
  s.ranges.any fun r => r.1 ≤ n && n ≤ r.2

def contains (s : CharSet) (c : Char) : Bool := s.containsCode c.toNat

/-- The only character of a set that has just one. -/
def only? (s : CharSet) : Option Char :=
  match s.ranges with
  | [(first, last)] => if first = last then some (Char.ofNat first) else none
  | _ => none

/-- Join each range with those after it that overlap or touch it. -/
def joinFrom (r : Nat × Nat) : List (Nat × Nat) → List (Nat × Nat)
  | [] => [r]
  | q :: qs => if q.1 ≤ r.2 + 1 then joinFrom (r.1, max r.2 q.2) qs else r :: joinFrom q qs

/-- Make a set of ranges that come in order of their beginnings. -/
def joined : List (Nat × Nat) → CharSet
  | [] => empty
  | r :: rs => ⟨joinFrom r rs⟩

def beginsBefore (r q : Nat × Nat) : Bool := r.1 ≤ q.1

def ofRanges (ranges : List (Nat × Nat)) : CharSet := joined (ranges.mergeSort beginsBefore)

def union (s t : CharSet) : CharSet := joined (s.ranges.merge t.ranges beginsBefore)

def unions (sets : List CharSet) : CharSet := ofRanges (sets.flatMap ranges)

/-- What ranges in order have in common with other ranges in order. -/
def interRanges : List (Nat × Nat) → List (Nat × Nat) → List (Nat × Nat)
  | [], _ => []
  | _ :: _, [] => []
  | r :: rs, q :: qs =>
    let rest := if r.2 ≤ q.2 then interRanges rs (q :: qs) else interRanges (r :: rs) qs
    if max r.1 q.1 ≤ min r.2 q.2 then (max r.1 q.1, min r.2 q.2) :: rest else rest
termination_by rs qs => rs.length + qs.length

def inter (s t : CharSet) : CharSet := ⟨interRanges s.ranges t.ranges⟩

/-- The ends of the gaps before, between and after ranges of which the first begins at the
given code point or later. Between two ranges that only the surrogates part there is no
character, and the ends of the gap are in the wrong order. -/
def gaps (start : Nat) : List (Nat × Nat) → List (Nat × Nat)
  | [] => [(start, lastCode)]
  | r :: rs => (start, previousCode r.1) :: gaps (nextCode r.2) rs

/-- The gaps of a set, without those before a range that begins with the first code point
and after one that ends with the last. -/
def gapsOf : List (Nat × Nat) → List (Nat × Nat)
  | [] => [(0, lastCode)]
  | r :: rs =>
    let inner := (gaps (nextCode r.2) rs).filter fun g => g.1 ≤ lastCode
    if r.1 = 0 then inner else (0, previousCode r.1) :: inner

def diff (s t : CharSet) : CharSet :=
  ⟨interRanges s.ranges ((gapsOf t.ranges).filter fun g => g.1 ≤ g.2)⟩

def symmDiff (s t : CharSet) : CharSet := (s.union t).diff (s.inter t)

/-- The ranges between those of a set. Two ranges that only the surrogates part count as if
they had a gap, whose ends are the characters beside it. -/
def complement (s : CharSet) : CharSet :=
  ⟨(gapsOf s.ranges).map fun g => (min g.1 g.2, max g.1 g.2)⟩

/-- Each set but for the characters that an earlier one claims. -/
def claim {α : Type} (taken : CharSet) : List (α × CharSet) → List (α × CharSet)
  | [] => []
  | (name, s) :: rest => (name, s.diff taken) :: claim (taken.union s) rest

/-! ### Tables -/

/-- The words of a text, parted by single spaces. -/
def words (cs : List Char) : List (List Char) :=
  let last := cs.foldr
    (fun c (word, rest) => if c = ' ' then ([], word :: rest) else (c :: word, rest)) ([], [])
  last.1 :: last.2

/-- The value of hexadecimal digits in lower case. -/
def hexValue (cs : List Char) : Nat :=
  cs.foldl (fun n c => n * 16 + (if c.isDigit then c.toNat - 48 else c.toNat - 87)) 0

/-- A range by its ends, which a hyphen parts, or by its only code point. -/
def rangeOfWord (cs : List Char) : Nat × Nat :=
  let first := hexValue (cs.takeWhile (· != '-'))
  match cs.dropWhile (· != '-') with
  | [] => (first, first)
  | _ :: last => (first, hexValue last)

/-- A set from a table of its ranges, in hexadecimal digits. -/
def ofText (table : List String) : CharSet :=
  ofRanges ((table.flatMap fun line => words line.toList).map rangeOfWord)

end CharSet

end ScreenLogic.Text
