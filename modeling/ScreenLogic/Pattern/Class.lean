import ScreenLogic.Pattern.Escape

/-!
# Bracketed classes

A class in brackets is a union of characters, ranges, named classes and other bracketed
classes, or an intersection or difference of such unions. A leading caret negates it.
-/

namespace ScreenLogic.Pattern

open Text

/-- A class read so far: its characters, and how deeply it is nested. -/
structure ClassPart where
  set : CharSet
  depth : Nat

/-- A union read so far, with the number of its items. -/
structure ClassUnion where
  part : ClassPart
  count : Nat

namespace ClassUnion

def none : ClassUnion := ⟨⟨.empty, 0⟩, 0⟩

def add (u : ClassUnion) (item : ClassPart) : ClassUnion where
  part := ⟨u.part.set.union item.set, max u.part.depth item.depth⟩
  count := u.count + 1

def addChar (u : ClassUnion) (c : Char) : ClassUnion := u.add ⟨.single c, 0⟩

/-- A union of several items is nested one level deeper than its items. -/
def close (u : ClassUnion) : ClassPart :=
  if u.count ≤ 1 then u.part else { u.part with depth := u.part.depth + 1 }

end ClassUnion

inductive ClassOp where
  | intersection
  | difference
  | symmetricDifference

def ClassOp.apply (flags : Flags) (op : ClassOp) (left right : ClassPart) : ClassPart where
  set :=
    let l := flags.fold left.set
    let r := flags.fold right.set
    match op with
    | .intersection => l.inter r
    | .difference => l.diff r
    | .symmetricDifference => l.symmDiff r
  depth := max left.depth right.depth + 1

def combine (flags : Flags) (pending : Option (ClassPart × ClassOp)) (right : ClassPart) :
    ClassPart :=
  match pending with
  | some (left, op) => op.apply flags left right
  | none => right

/-- The ASCII classes that are named between colons. -/
def asciiClass? (name : List Char) : Option CharSet :=
  match String.ofList name with
  | "alnum" => some (.ofText ["30-39 41-5a 61-7a"])
  | "alpha" => some (.ofText ["41-5a 61-7a"])
  | "ascii" => some (.ofText ["0-7f"])
  | "blank" => some (.ofText ["9 20"])
  | "cntrl" => some (.ofText ["0-1f 7f"])
  | "digit" => some (.ofText ["30-39"])
  | "graph" => some (.ofText ["21-7e"])
  | "lower" => some (.ofText ["61-7a"])
  | "print" => some (.ofText ["20-7e"])
  | "punct" => some (.ofText ["21-2f 3a-40 5b-60 7b-7e"])
  | "space" => some (.ofText ["9-d 20"])
  | "upper" => some (.ofText ["41-5a"])
  | "word" => some asciiWordCharacters
  | "xdigit" => some (.ofText ["30-39 41-46 61-66"])
  | _ => none

/-- A named ASCII class, read from behind its opening bracket; anything else is no such
class, and not an error. -/
def readAsciiClass (cs : List Char) : Option (CharSet × Bool × List Char) := do
  let cs ← match cs with
    | ':' :: cs => some cs
    | _ => none
  let (negated, cs) := match cs with
    | '^' :: cs => (true, cs)
    | cs => (false, cs)
  match cs.dropWhile (· != ':') with
  | ':' :: ']' :: rest => return (← asciiClass? (cs.takeWhile (· != ':')), negated, rest)
  | _ => none

/-- Negation, where the flags allow it: the complement of a class is no ASCII class. -/
def negate? (flags : Flags) (negated : Bool) (set : CharSet) : Option CharSet :=
  if !negated then some set else if flags.unicode then some set.complement else none

/-- One end of a range, or an item of its own. -/
def readClassItem (flags : Flags) : List Char → Option (Primitive × List Char)
  | [] => none
  | '\\' :: cs => readEscape flags cs
  | c :: cs => some (.literal c, cs)

/-- Outside Unicode mode a class holds ASCII characters only. -/
def literalPart? (flags : Flags) (low high : Char) : Option ClassPart :=
  if flags.unicode || high.toNat < 128 then some ⟨.range low.toNat high.toNat, 0⟩ else none

/-- An item of a class: a range if a hyphen follows that is neither the last character nor
part of a difference. -/
def readClassRange (flags : Flags) (cs : List Char) : Option (ClassPart × List Char) := do
  let (first, rest) ← readClassItem flags cs
  let single : Option ClassPart :=
    match first with
    | .literal c => literalPart? flags c c
    | .class set => some ⟨set, 0⟩
    | .look _ => none
  match flags.skip rest with
  | [] => none
  | '-' :: rest =>
    match flags.skip rest with
    | [] => none
    | ']' :: _ | '-' :: _ => return (← single, '-' :: rest)
    | after =>
      let (second, rest) ← readClassItem flags after
      match first, second with
      | .literal low, .literal high =>
        guard (low ≤ high)
        return (← literalPart? flags low high, rest)
      | _, _ => none
  | rest => return (← single, rest)

/-- Pass over leading hyphens and the blanks behind each. -/
def readHyphens (flags : Flags) : Nat → ClassUnion → List Char → ClassUnion × List Char
  | fuel + 1, u, '-' :: cs => readHyphens flags fuel (u.addChar '-') (flags.skip cs)
  | _, u, cs => (u, cs)

mutual

/-- A class from behind its opening bracket on. -/
def readClass (flags : Flags) : Nat → List Char → Option (ClassPart × List Char)
  | 0, _ => none
  | fuel + 1, cs => do
    let (negated, cs) :=
      match flags.skip cs with
      | '^' :: cs => (true, flags.skip cs)
      | cs => (false, cs)
    let (u, cs) := readHyphens flags cs.length .none cs
    let (u, cs) :=
      match u.count, cs with
      | 0, ']' :: cs => (u.addChar ']', flags.skip cs)
      | _, cs => (u, cs)
    let (part, rest) ← readClassItems flags fuel none u cs
    let set ← negate? flags negated (flags.fold part.set)
    return (⟨set, part.depth + 1⟩, rest)

/-- The items of a class up to its closing bracket, after an operation that waits for its
right side. -/
def readClassItems (flags : Flags) :
    Nat → Option (ClassPart × ClassOp) → ClassUnion → List Char → Option (ClassPart × List Char)
  | 0, _, _, _ => none
  | fuel + 1, pending, u, cs =>
    let left := combine flags pending u.close
    match flags.skip cs with
    | [] => none
    | ']' :: rest => some (left, rest)
    | '[' :: rest =>
      match readAsciiClass rest with
      | some (set, negated, rest) => do
        let set ← negate? flags negated (flags.fold set)
        readClassItems flags fuel pending (u.add ⟨set, 0⟩) rest
      | none => do
        let (part, rest) ← readClass flags fuel rest
        readClassItems flags fuel pending (u.add part) rest
    | '&' :: '&' :: rest =>
      readClassItems flags fuel (some (left, .intersection)) .none rest
    | '-' :: '-' :: rest =>
      readClassItems flags fuel (some (left, .difference)) .none rest
    | '~' :: '~' :: rest =>
      readClassItems flags fuel (some (left, .symmetricDifference)) .none rest
    | cs => do
      let (part, rest) ← readClassRange flags cs
      readClassItems flags fuel pending (u.add part) rest

end

end ScreenLogic.Pattern
