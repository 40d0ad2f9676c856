import ScreenLogic.Text.Word

/-!
# Patterns

A pattern describes stretches of a text. Its leaves accept one character or look at the
characters around a position. A text matches a pattern if one of its stretches does, so
that a pattern binds at the ends of a text only where it looks for them.

## Main definitions

* `Look.holds`: what a look demands of the characters around a position.
* `Pattern.Matches`: the stretches that a pattern describes, by their ends.
-/

namespace ScreenLogic

inductive Look where
  | startOfText
  | endOfText
  | startOfLine
  | endOfLine
  /-- Lines may also end in a carriage return, alone or before a line feed. -/
  | startOfCrlfLine
  | endOfCrlfLine
  | wordBoundary (unicode : Bool)
  | notWordBoundary (unicode : Bool)
  | wordStart (unicode : Bool)
  | wordEnd (unicode : Bool)
  | wordStartHalf (unicode : Bool)
  | wordEndHalf (unicode : Bool)
  deriving DecidableEq

namespace Look

def isWord (unicode : Bool) : Option Char → Bool
  | none => false
  | some c => if unicode then Text.isWordChar c else Text.isAsciiWordChar c

/-- What a look demands of the characters before and after a position. -/
def holds (look : Look) (before after : Option Char) : Bool :=
  match look with
  | .startOfText => before.isNone
  | .endOfText => after.isNone
  | .startOfLine => before.isNone || before == some '\n'
  | .endOfLine => after.isNone || after == some '\n'
  | .startOfCrlfLine =>
    before.isNone || before == some '\n' || (before == some '\r' && after != some '\n')
  | .endOfCrlfLine =>
    after.isNone || after == some '\r' || (after == some '\n' && before != some '\r')
  | .wordBoundary u => isWord u before != isWord u after
  | .notWordBoundary u => isWord u before == isWord u after
  | .wordStart u => !isWord u before && isWord u after
  | .wordEnd u => isWord u before && !isWord u after
  | .wordStartHalf u => !isWord u before
  | .wordEndHalf u => !isWord u after

end Look

inductive Pattern where
  | empty
  | char (set : Text.CharSet)
  | look (look : Look)
  | seq (first second : Pattern)
  | alt (first second : Pattern)
  /-- From `min` to `max` repetitions, or any number from `min` on. -/
  | times (min : Nat) (max : Option Nat) (body : Pattern)

namespace Pattern

def plus (p : Pattern) : Pattern := .times 1 none p

def literal (c : Char) : Pattern := .char (.single c)

/-- The character before a position. -/
def before (text : List Char) : Nat → Option Char
  | 0 => none
  | i + 1 => text[i]?

mutual

/-- The pattern describes the stretch of the text from position `i` to position `j`. -/
inductive Matches (text : List Char) : Pattern → Nat → Nat → Prop where
  | empty {i : Nat} : Matches text .empty i i
  | char {set : Text.CharSet} {i : Nat} {c : Char} :
      text[i]? = some c → set.contains c = true → Matches text (.char set) i (i + 1)
  | look {l : Look} {i : Nat} :
      l.holds (before text i) text[i]? = true → Matches text (.look l) i i
  | seq {p q : Pattern} {i j k : Nat} :
      Matches text p i j → Matches text q j k → Matches text (.seq p q) i k
  | altFirst {p q : Pattern} {i j : Nat} : Matches text p i j → Matches text (.alt p q) i j
  | altSecond {p q : Pattern} {i j : Nat} : Matches text q i j → Matches text (.alt p q) i j
  | times {p : Pattern} {min : Nat} {max : Option Nat} {n i j : Nat} :
      min ≤ n → (∀ m, max = some m → n ≤ m) → Repeats text p n i j →
      Matches text (.times min max p) i j

/-- The stretch from `i` to `j` is made of `n` stretches that the pattern describes. -/
inductive Repeats (text : List Char) : Pattern → Nat → Nat → Nat → Prop where
  | done {p : Pattern} {i : Nat} : Repeats text p 0 i i
  | more {p : Pattern} {n i j k : Nat} :
      Repeats text p n i j → Matches text p j k → Repeats text p (n + 1) i k

end

/-- Some stretch of the text is described by the pattern. -/
def Occurs (p : Pattern) (text : List Char) : Prop :=
  ∃ i j, i ≤ text.length ∧ Matches text p i j

end Pattern

end ScreenLogic
