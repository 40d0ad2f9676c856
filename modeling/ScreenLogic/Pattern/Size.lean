import ScreenLogic.Pattern.Form
import ScreenLogic.Text.Utf8
import Std.Data.HashMap

/-!
# Sizes of patterns

A pattern is as large as the automata that read it byte by byte, forward and backward, and
no larger than a limit. States are numbered as they are built, and each takes the same
room; those that leave by several edges take some more for each of them.

The states of a set of characters share what they have in common as far as a table of
limited room remembers it: forward the states with the same edges, and backward the states
with the same edge. Where two states would take the same place in the table, the later one
replaces the earlier.

## Main definitions

* `Growth.ofForm`: what a form adds to an automaton.
* `Form.fits`: whether the automata of a form stay within the limit.
-/

namespace ScreenLogic.Pattern

open Text

/-- How large an automaton may be, in bytes. -/
def maxSize : Nat := 10 * 1024 * 1024

/-- An automaton that is being built: the number of its states, and the bytes that edges
take beside them. -/
structure Size where
  states : Nat
  edges : Nat

namespace Size

def bytes (s : Size) : Nat := 32 * s.states + s.edges

def isExceeded (s : Size) : Bool := maxSize < s.bytes

def addStates (n : Nat) (s : Size) : Size := { s with states := s.states + n }

/-- Add edges from states that branch. -/
def addBranches (n : Nat) (s : Size) : Size := { s with edges := s.edges + 4 * n }

/-- Add an edge from a state which may be one that branches. -/
def link (branches : Bool) (s : Size) : Size := if branches then s.addBranches 1 else s

/-- Add a state that branches by bytes, with its edges. -/
def addSwitch (edges : Nat) (s : Size) : Size := ⟨s.states + 1, s.edges + 8 * edges⟩

end Size

/-! ### Sets of characters -/

/-- Hash one more word. -/
def mix (hash word : UInt64) : UInt64 := (hash ^^^ word) * 1099511628211

def hashSeed : UInt64 := 14695981039346656037

/-- A table of states by keys, in which a later state may replace an earlier. -/
structure Memory (α : Type) where
  room : Nat
  places : Std.HashMap Nat (α × Nat)

namespace Memory

variable {α : Type} [BEq α]

def ofRoom (room : Nat) : Memory α := ⟨room, ∅⟩

def placeOf (m : Memory α) (hash : UInt64) : Nat := hash.toNat % m.room

def get? (m : Memory α) (place : Nat) (key : α) : Option Nat :=
  match m.places[place]? with
  | some (k, state) => if k == key then some state else none
  | none => none

def set (m : Memory α) (place : Nat) (key : α) (state : Nat) : Memory α :=
  { m with places := m.places.insert place (key, state) }

end Memory

/-- An edge that is taken by the bytes of a range, and the state to which it leads. -/
structure Edge where
  range : ByteRange
  target : Nat
  deriving BEq

/-- The hash of edges, of which the last comes first. -/
def hashEdges : List Edge → UInt64
  | [] => hashSeed
  | e :: es =>
    mix (mix (mix (hashEdges es) e.range.1.toUInt64) e.range.2.toUInt64) e.target.toUInt64

/-- The hash of the one edge of a state. -/
def hashEdge (e : Edge) : UInt64 :=
  mix (mix (mix hashSeed e.target.toUInt64) e.range.1.toUInt64) e.range.2.toUInt64

/-- A state whose edges are not yet complete: the finished ones, the last first, and the
bytes of the one that is being followed. -/
structure OpenState where
  edges : List Edge
  last : Option ByteRange

def OpenState.close (state : OpenState) (target : Nat) : List Edge :=
  match state.last with
  | some range => ⟨range, target⟩ :: state.edges
  | none => state.edges

/-- An automaton for a set of characters that is being built, with the states which it has. -/
structure Build (α : Type) where
  size : Size
  memory : Memory α

namespace Build

/-- The state with the given edges, a new one unless it is remembered. -/
def stateOf (b : Build (List Edge)) (edges : List Edge) : Nat × Build (List Edge) :=
  let place := b.memory.placeOf (hashEdges edges)
  match b.memory.get? place edges with
  | some state => (state, b)
  | none =>
    let state := b.size.states
    (state, ⟨b.size.addSwitch edges.length, b.memory.set place edges state⟩)

/-- Complete states of which each is followed by the next, the last by the final state. -/
def closeAll (final : Nat) : List OpenState → Build (List Edge) → Nat × Build (List Edge)
  | [], b => (final, b)
  | state :: rest, b =>
    let (target, b) := closeAll final rest b
    b.stateOf (state.close target)

/-- Add the bytes of further characters behind states that are still open. As long as the
bytes are those that are being followed, the open states are kept. -/
def addForward (final : Nat) :
    List OpenState → List ByteRange → Build (List Edge) → List OpenState × Build (List Edge)
  | state :: rest, range :: ranges, b =>
    if !ranges.isEmpty && state.last == some range then
      let (rest, b) := addForward final rest ranges b
      (state :: rest, b)
    else
      let (target, b) := closeAll final rest b
      (⟨state.close target, some range⟩ :: ranges.map fun r => ⟨[], some r⟩, b)
  | states, _, b => (states, b)

/-- The state that is reached backward from another by the bytes of a range. -/
def stepBack (range : ByteRange) (target : Nat) (b : Build Edge) : Nat × Build Edge :=
  let edge : Edge := ⟨range, target⟩
  let place := b.memory.placeOf (hashEdge edge)
  match b.memory.get? place edge with
  | some state => (state, b)
  | none => (b.size.states, ⟨b.size.addStates 1, b.memory.set place edge b.size.states⟩)

def addBackward (final : Nat) (ranges : List ByteRange) (b : Build Edge) : Build Edge :=
  let (_, b) := ranges.foldl (fun (target, b) range => b.stepBack range target) (final, b)
  { b with size := b.size.addBranches 1 }

end Build

namespace Size

/-- Characters whose bytes are read forward, from the first byte on. -/
def addForward (ranges : List (List ByteRange)) (s : Size) : Size :=
  let final := s.states
  let (states, b) := ranges.foldl (fun (states, b) rs => Build.addForward final states rs b)
    ([⟨[], none⟩], (⟨s.addStates 1, .ofRoom 10000⟩ : Build (List Edge)))
  (Build.closeAll final states b).2.size

/-- Characters whose bytes are read backward: the bytes are followed from the state behind
the characters to a state that branches to all of them. -/
def addBackward (ranges : List (List ByteRange)) (s : Size) : Size :=
  (ranges.foldl (fun b rs => b.addBackward (s.states + 1) rs)
    (⟨s.addStates 2, .ofRoom 1000⟩ : Build Edge)).size

/-! ### Alternatives of words -/

/-- The words behind each first byte, in the order of the first words. -/
def byFirstByte : List (List UInt8) → List (UInt8 × List (List UInt8))
  | [] => []
  | [] :: words => byFirstByte words
  | (b :: w) :: words =>
    let rest := byFirstByte words
    match rest.find? (·.1 == b) with
    | some (_, ws) => (b, w :: ws) :: rest.filter (·.1 != b)
    | none => (b, [w]) :: rest

/-- Words in order, cut where one of them is empty. -/
def cutAtEmpty : List (List UInt8) → List (List (List UInt8))
  | [] => [[]]
  | [] :: words => [] :: cutAtEmpty words
  | w :: words =>
    match cutAtEmpty words with
    | group :: groups => (w :: group) :: groups
    | [] => [[w]]

/-- Leave out empty words at the beginning, but for one. -/
def dropRepeatedEnd : List (List UInt8) → List (List UInt8)
  | [] :: [] :: words => dropRepeatedEnd ([] :: words)
  | words => words

/-- What the words add that begin as those of a tree do which is as deep as given. Words
between two ends of words are tried before later ones, so that their first bytes do not
share a state. -/
def addTree : Nat → List (List UInt8) → Size → Size
  | 0, _, s => s
  | depth + 1, words, s =>
    if words.all List.isEmpty then s
    else
      let groups := (cutAtEmpty (dropRepeatedEnd words)).map byFirstByte
      let s := groups.foldl (fun s group =>
        let s := group.foldl (fun s (_, ws) => addTree depth ws s) s
        if group.isEmpty then s
        else if group.length = 1 then s.addStates 1
        else s.addSwitch group.length) s
      (s.addStates 1).addBranches
        ((groups.filter fun group => !group.isEmpty).length + (groups.length - 1))

def utf8Of (cs : List Char) : List UInt8 := cs.flatMap String.utf8EncodeChar

def addWords (backward : Bool) (words : List (List Char)) (s : Size) : Size :=
  let words := words.map fun cs => if backward then (utf8Of cs).reverse else utf8Of cs
  addTree ((words.map List.length).foldl max 0 + 1) words (s.addStates 1)

end Size

def asWord? : Form → Option (List Char)
  | .literal cs => some cs
  | _ => none

/-! ### Forms -/

/-- What a part of a pattern adds to an automaton, and whether the last state that it adds is
one that branches. -/
structure Growth where
  add : Size → Size
  branches : Bool

namespace Growth

/-- So many states, of which none branches. -/
def states (n : Nat) : Growth := ⟨Size.addStates n, false⟩

def ofSet (backward : Bool) (set : CharSet) : Growth :=
  if set.ranges.all fun r => r.2 < 128 then
    ⟨fun s => (s.addStates 1).addSwitch set.ranges.length, false⟩
  else
    let ranges := set.byteRanges
    ⟨if backward then Size.addBackward ranges else Size.addForward ranges, false⟩

/-- One part, and then another that is reached from it. -/
def andThen (g h : Growth) : Growth := ⟨fun s => (h.add (g.add s)).link g.branches, h.branches⟩

/-- What is added so many times, until the limit is exceeded. -/
def addRepeatedly (add : Size → Size) : Nat → Size → Size
  | 0, s => s
  | n + 1, s => if s.isExceeded then s else addRepeatedly add n (add s)

/-- Parts that are alike and follow each other. -/
def copies (g : Growth) : Nat → Growth
  | 0 => states 1
  | n + 1 =>
    ⟨fun s => addRepeatedly (fun s => (g.add s).link g.branches) n (g.add s), g.branches⟩

/-- At most so many parts that are alike, of which each may be the last. -/
def upTo (g : Growth) (n : Nat) : Growth :=
  let more (s : Size) := ((g.add (s.addStates 1)).addBranches 2).link g.branches
  ⟨fun s => addRepeatedly more n (s.addStates 1), false⟩

/-- A part that may be missing. -/
def optional (g : Growth) : Growth :=
  ⟨fun s => (((g.add (s.addStates 1)).addStates 1).addBranches 2).link g.branches, false⟩

/-- A part that takes room, any number of times. -/
def loop (g : Growth) : Growth :=
  ⟨fun s => ((g.add (s.addStates 1)).addBranches 1).link g.branches, true⟩

/-- A part that may take no room, any number of times. -/
def emptyLoop (g : Growth) : Growth :=
  ⟨fun s => (((g.add s).addStates 3).addBranches 4).link g.branches, false⟩

/-- A part once and then any number of times. -/
def onceOrMore (g : Growth) : Growth :=
  ⟨fun s => (((g.add s).addStates 1).addBranches 1).link g.branches, true⟩

/-- Several parts of which one is taken. The state that branches to them and the one in which
they end come after the first two. -/
def alternative (gs : List Growth) : Growth :=
  let adds (s : Size) (g : Growth) := ((g.add s).addBranches 1).link g.branches
  ⟨fun s => (gs.drop 2).foldl adds (((gs.take 2).foldl adds s).addStates 2), false⟩

/-- A group of which the ends are recorded. -/
def recorded (g : Growth) : Growth := ((states 1).andThen g).andThen (states 1)

mutual

def ofForm (backward : Bool) : Form → Growth
  | .empty | .look _ => states 1
  | .literal cs => states (Size.utf8Of cs).length
  | .set set => ofSet backward set
  | .group _ f => if backward then ofForm backward f else (ofForm backward f).recorded
  | .times min none _ f =>
    let g := ofForm backward f
    match min with
    | 0 => if (f.leastLength?).any (0 < ·) then g.loop else g.emptyLoop
    | 1 => g.onceOrMore
    | n + 1 => (g.copies n).andThen g.onceOrMore
  | .times min (some max) _ f =>
    let g := ofForm backward f
    if min = max then g.copies min
    else if min = 0 ∧ max = 1 then g.optional
    else (g.copies min).andThen (g.upTo (max - min))
  | .seq fs => ofSequence backward fs
  | .alt fs =>
    match fs.mapM asWord? with
    | some words => ⟨Size.addWords backward words, false⟩
    | none => alternative (ofAll backward fs)

/-- The parts of a sequence, backward from the last part on. -/
def ofSequence (backward : Bool) : List Form → Growth
  | [] => states 1
  | [f] => ofForm backward f
  | f :: fs =>
    if backward then (ofSequence backward fs).andThen (ofForm backward f)
    else (ofForm backward f).andThen (ofSequence backward fs)

def ofAll (backward : Bool) : List Form → List Growth
  | [] => []
  | f :: fs => ofForm backward f :: ofAll backward fs

end

end Growth

namespace Form

/-- The automaton of a form that is read in one direction. Before a match there may be any
bytes, unless the match is bound to that end of the text. -/
def automaton (backward : Bool) (f : Form) : Size :=
  let bound := if backward then f.endsWith .endOfText else f.beginsWith .startOfText
  let start : Size := if bound then ⟨1, 0⟩ else (Size.addSwitch 1 ⟨2, 0⟩).addBranches 2
  ((Growth.ofForm backward (.group 0 f)).andThen (.states 1)).add start

def fits (f : Form) : Bool :=
  !(f.automaton false).isExceeded && !(f.automaton true).isExceeded

end Form

end ScreenLogic.Pattern
