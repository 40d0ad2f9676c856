/-!
# Paths

A path names a place in a document by segments between slashes. Leading, trailing
and repeated slashes do not count, and a path without segments is the root.
-/

namespace ScreenLogic.Path

/-- The pieces between slashes, empty ones included; there is always one. -/
def pieces : List Char → List (List Char)
  | [] => [[]]
  | c :: cs =>
    if c = '/' then [] :: pieces cs
    else match pieces cs with
      | [] => [[c]]
      | piece :: rest => (c :: piece) :: rest

def segments (path : String) : List String :=
  ((pieces path.toList).filter (· ≠ [])).map String.ofList

def isRoot (path : String) : Bool := (segments path).isEmpty

def decimalValue (cs : List Char) : Nat := cs.foldl (fun n c => n * 10 + (c.toNat - '0'.toNat)) 0

/-- A segment is an index if it is made of ASCII digits and fits in 64 bits. -/
def index? (segment : String) : Option Nat :=
  let cs := segment.toList
  if cs ≠ [] ∧ cs.all Char.isDigit ∧ decimalValue cs < UInt64.size then some (decimalValue cs)
  else none

end ScreenLogic.Path
