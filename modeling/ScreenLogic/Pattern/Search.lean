import ScreenLogic.Pattern.Basic

/-!
# Searching

All positions of a text are searched at once: a set of positions is a number whose bits
are the positions in it, and a pattern takes the set of positions where a match may
begin to the set of those where it may end. A pattern occurs if, begun everywhere, it
ends somewhere.
-/

namespace ScreenLogic.Pattern

/-- The number with the given bits, the lowest first. -/
def ofBits : List Bool → Nat
  | [] => 0
  | b :: bs => 2 * ofBits bs + b.toNat

/-- Whether a look holds at each position of a text, the end included. -/
def lookBits (l : Look) (before : Option Char) : List Char → List Bool
  | [] => [l.holds before none]
  | c :: cs => l.holds before (some c) :: lookBits l (some c) cs

/-- A pattern prepared for one text: its leaves are sets of positions. -/
inductive Walk where
  | stay
  /-- Move on by one from the positions in a set. -/
  | advance (set : Nat)
  /-- Keep the positions in a set. -/
  | keep (set : Nat)
  | seq (first second : Walk)
  | alt (first second : Walk)
  | times (min : Nat) (max : Option Nat) (body : Walk)

def prepare (text : List Char) : Pattern → Walk
  | .empty => .stay
  | .char set => .advance (ofBits (text.map set.contains))
  | .look l => .keep (ofBits (lookBits l none text))
  | .seq p q => .seq (prepare text p) (prepare text q)
  | .alt p q => .alt (prepare text p) (prepare text q)
  | .times min max p => .times min max (prepare text p)

/-- Apply a step so many times; nothing comes of no position. -/
def iterate (f : Nat → Nat) : Nat → Nat → Nat
  | 0, set => set
  | n + 1, set => if set = 0 then 0 else iterate f n (f set)

/-- Collect what up to so many steps reach, until nothing new is reached. -/
def collect (f : Nat → Nat) : Nat → Nat → Nat
  | 0, set => set
  | n + 1, set =>
    let larger := set ||| f set
    if larger = set then set else collect f n larger

/-- Where matches that begin in a set of positions end; `length` is that of the text. No
more than `length` steps reach anything new. -/
def Walk.run (length : Nat) : Walk → Nat → Nat
  | .stay, set => set
  | .advance accepted, set => (set &&& accepted) <<< 1
  | .keep held, set => set &&& held
  | .seq w v, set => run length v (run length w set)
  | .alt w v, set => run length w set ||| run length v set
  | .times min max w, set =>
    let start := iterate (run length w) min set
    match max with
    | none => collect (run length w) length start
    | some m => collect (run length w) (m - min) start

def everywhere (text : List Char) : Nat := 1 <<< (text.length + 1) - 1

def occurs (p : Pattern) (text : List Char) : Bool :=
  (prepare text p).run text.length (everywhere text) != 0

end ScreenLogic.Pattern
