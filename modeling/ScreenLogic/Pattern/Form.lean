import ScreenLogic.Pattern.Basic

/-!
# Forms of patterns

A form is a pattern with its parts in lists, in the shape in which its size is counted:
neighbouring letters are joined, alternatives that are single characters or sets are one
set, what alternatives begin with in common is taken out, and nothing is repeated once or
never.

## Main definitions

* `Form.sequence`, `Form.alternative`, `Form.repetition`: the forms of compound patterns.
* `Form.pattern`: the pattern that a form stands for.
-/

namespace ScreenLogic.Pattern

open Text

inductive Form where
  | empty
  /-- Letters, at least one. -/
  | literal (letters : List Char)
  /-- The characters of a set, which has not just one. -/
  | set (set : CharSet)
  | look (look : Look)
  | group (index : Nat) (body : Form)
  | times (min : Nat) (max : Option Nat) (greedy : Bool) (body : Form)
  | seq (parts : List Form)
  | alt (options : List Form)

namespace Form

def ofSet (s : CharSet) : Form :=
  match s.only? with
  | some c => .literal [c]
  | none => .set s

/-! ### Comparison -/

mutual

def same : Form → Form → Bool
  | .empty, .empty => true
  | .literal a, .literal b => a == b
  | .set s, .set t => s == t
  | .look l, .look m => l == m
  | .group i f, .group j g => i == j && same f g
  | .times min max greedy f, .times min' max' greedy' g =>
    min == min' && max == max' && greedy == greedy' && same f g
  | .seq fs, .seq gs => sameAll fs gs
  | .alt fs, .alt gs => sameAll fs gs
  | _, _ => false

def sameAll : List Form → List Form → Bool
  | [], [] => true
  | f :: fs, g :: gs => same f g && sameAll fs gs
  | _, _ => false

end

/-- How many forms two lists begin with in common. -/
def commonLength : List Form → List Form → Nat
  | f :: fs, g :: gs => if same f g then commonLength fs gs + 1 else 0
  | _, _ => 0

/-! ### Lengths -/

mutual

/-- Whether what is described takes no room. -/
def isZeroWidth : Form → Bool
  | .empty | .look _ => true
  | .literal _ | .set _ => false
  | .group _ f => isZeroWidth f
  | .times _ max _ f => max.isSome && isZeroWidth f
  | .seq fs | .alt fs => areZeroWidth fs

def areZeroWidth : List Form → Bool
  | [] => true
  | f :: fs => isZeroWidth f && areZeroWidth fs

end

mutual

/-- The least number of characters that are described, if there are any at all. -/
def leastLength? : Form → Option Nat
  | .empty | .look _ => some 0
  | .literal cs => some cs.length
  | .set s => if s.isEmpty then none else some 1
  | .group _ f => leastLength? f
  | .times min _ _ f => (leastLength? f).map (min * ·)
  | .seq fs => leastSum? fs
  | .alt fs => leastOf? fs

def leastSum? : List Form → Option Nat
  | [] => some 0
  | f :: fs => do return (← leastLength? f) + (← leastSum? fs)

def leastOf? : List Form → Option Nat
  | [] => none
  | [f] => leastLength? f
  | f :: fs => do return min (← leastLength? f) (← leastOf? fs)

end

/-! ### Compound forms -/

/-- The parts of a form that is part of a sequence. -/
def parts : Form → List Form
  | .seq fs => fs
  | .empty => []
  | f => [f]

def joinLiterals : List Form → List Form
  | [] => []
  | .literal a :: fs =>
    match joinLiterals fs with
    | .literal b :: rest => .literal (a ++ b) :: rest
    | rest => .literal a :: rest
  | f :: fs => f :: joinLiterals fs

def sequence (fs : List Form) : Form :=
  match joinLiterals (fs.flatMap parts) with
  | [] => .empty
  | [f] => f
  | fs => .seq fs

/-- The options of a form that is an option of another. -/
def options : Form → List Form
  | .alt fs => fs
  | f => [f]

def singleChar? : Form → Option Char
  | .literal [c] => some c
  | _ => none

def asSet? : Form → Option CharSet
  | .set s => some s
  | _ => none

def asSequence? : Form → Option (List Form)
  | .seq fs => some fs
  | _ => none

/-- How many parts all sequences begin with in common. -/
def sharedLength : List (List Form) → Nat
  | [] => 0
  | fs :: rest => rest.foldl (fun n gs => min n (commonLength fs gs)) fs.length

mutual

def size : Form → Nat
  | .group _ f | .times _ _ _ f => size f + 1
  | .seq fs | .alt fs => sizeOfAll fs + 1
  | _ => 1

def sizeOfAll : List Form → Nat
  | [] => 0
  | f :: fs => size f + sizeOfAll fs

end

/-- An alternative. What its options begin with in common is taken out, and what remains is
an alternative again; this goes on no longer than the options have parts. -/
def alternativeUpTo : Nat → List Form → Form
  | 0, fs => .alt fs
  | fuel + 1, fs =>
    match fs.flatMap options with
    | [] => .set .empty
    | [f] => f
    | fs =>
      match fs.mapM singleChar? with
      | some cs => ofSet (.unions (cs.map CharSet.single))
      | none =>
        match fs.mapM asSet? with
        | some sets => ofSet (.unions sets)
        | none =>
          match fs.mapM asSequence? with
          | some (gs :: rest) =>
            let n := sharedLength (gs :: rest)
            if n = 0 then .alt fs
            else
              let remains := (gs :: rest).map fun hs => sequence (hs.drop n)
              sequence (gs.take n ++ [alternativeUpTo fuel remains])
          | _ => .alt fs

def alternative (fs : List Form) : Form := alternativeUpTo (sizeOfAll fs + 1) fs

/-- A repetition. What takes no room need not be repeated more than once. -/
def repetition (min : Nat) (max : Option Nat) (greedy : Bool) (f : Form) : Form :=
  let roomless := isZeroWidth f
  let min := if roomless then Nat.min min 1 else min
  let max := if roomless then some (Nat.min (max.getD 1) 1) else max
  if min = 0 ∧ max = some 0 then .empty
  else if min = 1 ∧ max = some 1 then f
  else .times min max greedy f

/-! ### Looks at the ends -/

mutual

/-- Whether every stretch that is described begins with a look. -/
def beginsWith (l : Look) : Form → Bool
  | .empty | .literal _ | .set _ => false
  | .look m => l == m
  | .group _ f => beginsWith l f
  | .times min _ _ f => 0 < min && beginsWith l f
  | .seq fs => firstBeginsWith l fs
  | .alt fs => allBeginWith l fs

def firstBeginsWith (l : Look) : List Form → Bool
  | [] => false
  | f :: fs => beginsWith l f || (isZeroWidth f && firstBeginsWith l fs)

def allBeginWith (l : Look) : List Form → Bool
  | [] => true
  | f :: fs => beginsWith l f && allBeginWith l fs

end

mutual

/-- Whether every stretch that is described ends with a look. -/
def endsWith (l : Look) : Form → Bool
  | .empty | .literal _ | .set _ => false
  | .look m => l == m
  | .group _ f => endsWith l f
  | .times min _ _ f => 0 < min && endsWith l f
  | .seq fs => lastEndsWith l fs
  | .alt fs => allEndWith l fs

def lastEndsWith (l : Look) : List Form → Bool
  | [] => false
  | f :: fs => lastEndsWith l fs || (areZeroWidth fs && endsWith l f)

def allEndWith (l : Look) : List Form → Bool
  | [] => true
  | f :: fs => endsWith l f && allEndWith l fs

end

/-! ### Patterns -/

mutual

/-- The pattern that a form stands for. -/
def pattern : Form → Pattern
  | .empty => .empty
  | .literal cs => cs.foldr (fun c p => .seq (.literal c) p) .empty
  | .set s => .char s
  | .look l => .look l
  | .group _ f => pattern f
  | .times min max _ f => .times min max (pattern f)
  | .seq fs => patternOfSeq fs
  | .alt fs => patternOfAlt fs

def patternOfSeq : List Form → Pattern
  | [] => .empty
  | [f] => pattern f
  | f :: fs => .seq (pattern f) (patternOfSeq fs)

def patternOfAlt : List Form → Pattern
  | [] => .char .empty
  | [f] => pattern f
  | f :: fs => .alt (pattern f) (patternOfAlt fs)

end

end Form

end ScreenLogic.Pattern
