import ScreenLogic.Text.CharSet

/-!
# Tables of runs

A property of code points whose values come in runs is written as one text: for each run
from U+0000 on the code of its value, of fixed width, and then its length if that is
more than one.
-/

namespace ScreenLogic.Text

/-- The end of each run, and the code of its value. -/
abbrev Runs := List (Nat × String)

namespace Runs

/-- A table read up to some point: the finished runs in reverse, where the last of them
ends, and code and length of the run at hand as far as they are read. -/
structure Scan where
  runs : Runs
  start : Nat
  code : List Char
  length : Nat

def Scan.finish (s : Scan) : Scan :=
  let stop := s.start + max s.length 1
  { runs := (stop, String.ofList s.code) :: s.runs, start := stop, code := [], length := 0 }

def Scan.next (width : Nat) (s : Scan) (c : Char) : Scan :=
  if c.isDigit then { s with length := s.length * 10 + (c.toNat - '0'.toNat) }
  else
    let s := if s.code.length < width then s else s.finish
    { s with code := s.code ++ [c] }

/-- The runs of a table that is spread over several lines. -/
def decode (width : Nat) (table : List String) : Runs :=
  ((table.flatMap String.toList).foldl (Scan.next width) ⟨[], 0, [], 0⟩).finish.runs.reverse

/-- The ranges of the runs whose value is accepted, from a code point on. -/
def rangesFrom (accepts : String → Bool) (start : Nat) : Runs → List (Nat × Nat)
  | [] => []
  | run :: runs =>
    let rest := rangesFrom accepts run.1 runs
    if accepts run.2 then (start, run.1 - 1) :: rest else rest

/-- The code points whose value is accepted. -/
def toSet (runs : Runs) (accepts : String → Bool) : CharSet :=
  .joined (rangesFrom accepts 0 runs)

end Runs

end ScreenLogic.Text
