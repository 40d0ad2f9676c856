import ScreenLogic.Pattern.Class
import ScreenLogic.Pattern.Search
import ScreenLogic.Pattern.Size

/-!
# Reading patterns

A pattern is an alternative of sequences of repeated parts. Neither back references nor
looks ahead or behind exist, nesting is limited, and so is the size of the pattern.
-/

namespace ScreenLogic.Pattern

/-- How deeply a pattern may be nested. -/
def maxDepth : Nat := 250

/-- A part of a pattern: setting flags is a part that cannot be repeated. -/
structure Part where
  form : Form
  depth : Nat
  isFlags : Bool

namespace Part

def ofForm (f : Form) : Part := ⟨f, 0, false⟩

def flags : Part := ⟨.empty, 0, true⟩

def literal (flags : Flags) (c : Char) : Part := ofForm (.ofSet (flags.fold (.single c)))

def ofPrimitive (flags : Flags) : Primitive → Part
  | .literal c => literal flags c
  | .class set => ofForm (.ofSet set)
  | .look l => ofForm (.look l)

def ofClass (c : ClassPart) : Part := { ofForm (.ofSet c.set) with depth := c.depth }

/-- Several parts, given in reverse, are nested one level deeper than each. -/
def combine (make : List Form → Form) : List Part → Part
  | [] => ofForm .empty
  | [p] => p
  | ps => ⟨make (ps.reverse.map form), (ps.map depth).foldl max 0 + 1, false⟩

def sequence : List Part → Part := combine .sequence

def alternative : List Part → Part := combine .alternative

def group (index : Option Nat) (p : Part) : Part where
  form := match index with
    | some i => .group i p.form
    | none => p.form
  depth := p.depth + 1
  isFlags := false

def times (min : Nat) (max : Option Nat) (greedy : Bool) (p : Part) : Part where
  form := .repetition min max greedy p.form
  depth := p.depth + 1
  isFlags := false

end Part

/-- A group that is being read: its number, if it has one, its flags, its finished
alternatives and the parts of the alternative at hand, both in reverse. -/
structure Group where
  index : Option Nat
  flags : Flags
  alternatives : List Part
  parts : List Part

def Group.begin (index : Option Nat) (flags : Flags) : Group := ⟨index, flags, [], []⟩

def Group.push (g : Group) (p : Part) : Group := { g with parts := p :: g.parts }

def Group.finish (g : Group) : Part :=
  Part.alternative (Part.sequence g.parts :: g.alternatives)

/-- A pattern read so far: the group at hand, those around it, the names of groups, and how
many groups have a number. -/
structure Progress where
  current : Group
  outer : List Group
  names : List (List Char)
  groups : Nat

namespace Progress

def push (s : Progress) (p : Part) : Progress := { s with current := s.current.push p }

/-- Repeat the last part, if there is one that can be repeated. A question mark behind the
counts makes the repetition lazy. -/
def repeatLast? (s : Progress) (min : Nat) (max : Option Nat) (cs : List Char) :
    Option (Progress × List Char) :=
  let (lazy, rest) := match cs with
    | '?' :: rest => (true, rest)
    | cs => (false, cs)
  let greedy := lazy == s.current.flags.swapGreed
  match s.current.parts with
  | p :: ps =>
    if p.isFlags then none
    else some ({ s with current.parts := p.times min max greedy :: ps }, rest)
  | [] => none

def openGroup (s : Progress) (flags : Flags) : Progress :=
  { s with current := .begin none flags, outer := s.current :: s.outer }

def openNumbered (s : Progress) : Progress :=
  { s with
    current := .begin (some (s.groups + 1)) s.current.flags
    outer := s.current :: s.outer
    groups := s.groups + 1 }

def closeGroup? (s : Progress) : Option Progress :=
  match s.outer with
  | g :: outer =>
    let part := s.current.finish.group s.current.index
    some { s with current := g.push part, outer := outer }
  | [] => none

def nextAlternative (s : Progress) : Progress :=
  let g := s.current
  { s with current := { g with
    alternatives := Part.sequence g.parts :: g.alternatives
    parts := [] } }

end Progress

/-- A decimal number that fits in 32 bits, with blanks around it. -/
def readCount (flags : Flags) (cs : List Char) : Option Nat × List Char :=
  let (digits, rest) := loop cs.length (cs.dropWhile Text.isBlank)
  let rest := (flags.skip rest).dropWhile Text.isBlank
  let value := digits.foldl (10 * · + ·) 0
  (if digits.isEmpty ∨ UInt32.size ≤ value then none else some value, flags.skip rest)
where
  loop : Nat → List Char → List Nat × List Char
    | 0, cs => ([], cs)
    | fuel + 1, cs =>
      match cs with
      | c :: rest =>
        match Value.digit? c with
        | some d =>
          let (ds, rest) := loop fuel (flags.skip rest)
          (d :: ds, rest)
        | none => ([], cs)
      | [] => ([], [])

/-- The counts of a repetition, from behind the opening brace to behind the closing one. -/
def readCounts (flags : Flags) (cs : List Char) : Option (Nat × Option Nat × List Char) := do
  let (first, rest) := readCount flags (flags.skip cs)
  match rest with
  | '\x7d' :: rest => return (← first, some (← first), flags.skip rest)
  | ',' :: rest =>
    match flags.skip rest with
    | '\x7d' :: rest => return (← first, none, flags.skip rest)
    | rest =>
      let min ← first
      let (second, rest) := readCount flags rest
      let max ← second
      guard (min ≤ max)
      match rest with
      | '\x7d' :: rest => return (min, some max, flags.skip rest)
      | _ => none
  | _ => none

def isNameStart (c : Char) : Bool := c == '_' || Text.isAlphabetic c

def isNameChar (c : Char) : Bool :=
  c == '_' || c == '.' || c == '[' || c == ']' || Text.isAlphanumeric c

/-- The name of a group and what follows its closing angle bracket. -/
def readName (cs : List Char) : Option (List Char × List Char) :=
  match cs.takeWhile (· != '>'), cs.dropWhile (· != '>') with
  | c :: name, _ :: rest =>
    if isNameStart c && name.all isNameChar then some (c :: name, rest) else none
  | _, _ => none

def openNamed? (s : Progress) (cs : List Char) : Option (Progress × List Char) := do
  let (name, rest) ← readName cs
  guard (name ∉ s.names)
  return ({ s.openNumbered with names := name :: s.names }, rest)

/-- What follows an opening parenthesis: a group, or flags for the rest of this one. -/
def readOpening (s : Progress) (cs : List Char) : Option (Progress × List Char) :=
  let flags := s.current.flags
  match flags.skip cs with
  | '?' :: '=' :: _ | '?' :: '!' :: _ | '?' :: '<' :: '=' :: _ | '?' :: '<' :: '!' :: _ => none
  | '?' :: 'P' :: '<' :: rest => openNamed? s rest
  | '?' :: '<' :: rest => openNamed? s rest
  | '?' :: rest => do
    let (inner, isEmpty, rest) ← readFlags [] false false flags rest
    match rest with
    | ')' :: rest =>
      guard (!isEmpty)
      return ({ s with current := { s.current.push .flags with flags := inner } }, rest)
    | ':' :: rest => return (s.openGroup inner, rest)
    | _ => none
  | rest => some (s.openNumbered, rest)

def dot? (flags : Flags) : Option Part :=
  if !flags.unicode then none
  else
    let excluded : Text.CharSet :=
      if flags.dotAll then .empty
      else if flags.crlf then .ofText ["a d"]
      else .ofText ["a"]
    some (.ofForm (.ofSet excluded.complement))

def startLook (flags : Flags) : Look :=
  if !flags.multiLine then .startOfText else if flags.crlf then .startOfCrlfLine else .startOfLine

def endLook (flags : Flags) : Look :=
  if !flags.multiLine then .endOfText else if flags.crlf then .endOfCrlfLine else .endOfLine

def readParts : Nat → Progress → List Char → Option Progress
  | 0, _, _ => none
  | fuel + 1, s, cs =>
    let flags := s.current.flags
    match flags.skip cs with
    | [] => some s
    | '(' :: rest => do
      let (s, rest) ← readOpening s rest
      readParts fuel s rest
    | ')' :: rest => do readParts fuel (← s.closeGroup?) rest
    | '|' :: rest => readParts fuel s.nextAlternative rest
    | '[' :: rest => do
      let (c, rest) ← readClass flags (rest.length + 1) rest
      readParts fuel (s.push (.ofClass c)) rest
    | '?' :: rest => do
      let (s, rest) ← s.repeatLast? 0 (some 1) rest
      readParts fuel s rest
    | '*' :: rest => do
      let (s, rest) ← s.repeatLast? 0 none rest
      readParts fuel s rest
    | '+' :: rest => do
      let (s, rest) ← s.repeatLast? 1 none rest
      readParts fuel s rest
    | '\x7b' :: rest => do
      let (min, max, rest) ← readCounts flags rest
      let (s, rest) ← s.repeatLast? min max rest
      readParts fuel s rest
    | '\\' :: rest => do
      let (p, rest) ← readEscape flags rest
      readParts fuel (s.push (.ofPrimitive flags p)) rest
    | '.' :: rest => do readParts fuel (s.push (← dot? flags)) rest
    | '^' :: rest => readParts fuel (s.push (.ofForm (.look (startLook flags)))) rest
    | '$' :: rest => readParts fuel (s.push (.ofForm (.look (endLook flags)))) rest
    | c :: rest => readParts fuel (s.push (.literal flags c)) rest

/-- The pattern that a text spells, if it spells one within the limits. -/
def parse? (source : String) : Option Pattern := do
  let cs := source.toList
  let s ← readParts (cs.length + 1) ⟨.begin none .initial, [], [], 0⟩ cs
  guard s.outer.isEmpty
  let part := s.current.finish
  guard (part.depth ≤ maxDepth ∧ part.form.fits)
  return part.form.pattern

end ScreenLogic.Pattern
