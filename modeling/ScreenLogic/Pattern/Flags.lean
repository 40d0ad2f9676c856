import ScreenLogic.Pattern.Basic
import ScreenLogic.Text.Blank
import ScreenLogic.Text.CaseFold

/-!
# Flags of patterns

Flags change how the rest of a group is read: whether case counts, what ends a line, what
the dot accepts, whether classes are those of Unicode or of ASCII, and whether blanks and
comments may stand between the parts of a pattern.
-/

namespace ScreenLogic.Pattern

/-- The letters by which flags are named. -/
inductive Flag where
  | ignoreCase
  | multiLine
  | dotAll
  | swapGreed
  | unicode
  | crlf
  | verbose
  deriving DecidableEq

def Flag.ofLetter? : Char → Option Flag
  | 'i' => some .ignoreCase
  | 'm' => some .multiLine
  | 's' => some .dotAll
  | 'U' => some .swapGreed
  | 'u' => some .unicode
  | 'R' => some .crlf
  | 'x' => some .verbose
  | _ => none

structure Flags where
  ignoreCase : Bool
  multiLine : Bool
  dotAll : Bool
  swapGreed : Bool
  unicode : Bool
  crlf : Bool
  verbose : Bool

namespace Flags

def initial : Flags := ⟨false, false, false, false, true, false, false⟩

def set (flags : Flags) (value : Bool) : Flag → Flags
  | .ignoreCase => { flags with ignoreCase := value }
  | .multiLine => { flags with multiLine := value }
  | .dotAll => { flags with dotAll := value }
  | .swapGreed => { flags with swapGreed := value }
  | .unicode => { flags with unicode := value }
  | .crlf => { flags with crlf := value }
  | .verbose => { flags with verbose := value }

end Flags

mutual

def skipVerbose : List Char → List Char
  | [] => []
  | c :: cs =>
    if Text.isBlank c then skipVerbose cs else if c = '#' then skipComment cs else c :: cs

/-- The rest after a comment, which ends with its line. -/
def skipComment : List Char → List Char
  | [] => []
  | c :: cs => if c = '\n' then skipVerbose cs else skipComment cs

end

/-- Pass over blanks and comments where the flags allow them. -/
def Flags.skip (flags : Flags) (cs : List Char) : List Char :=
  if flags.verbose then skipVerbose cs else cs

/-- Close a set under case, if case does not count. In ASCII mode only ASCII letters have
case. -/
def Flags.fold (flags : Flags) (set : Text.CharSet) : Text.CharSet :=
  if !flags.ignoreCase then set
  else if flags.unicode then set.foldCase
  else set.foldAsciiCase

/-- The items between the opening of a flag group and its end: flags to set and, after a
minus sign, flags to clear. None may come twice, nor may the minus sign, which has to be
followed by a flag. -/
def readFlags (seen : List Flag) (clearing dangling : Bool) (flags : Flags) :
    List Char → Option (Flags × Bool × List Char)
  | [] => none
  | c :: cs =>
    if c = ')' ∨ c = ':' then
      if dangling then none else some (flags, seen.isEmpty && !clearing, c :: cs)
    else if c = '-' then
      if clearing then none else readFlags seen true true flags cs
    else
      match Flag.ofLetter? c with
      | some flag =>
        if flag ∈ seen then none
        else readFlags (flag :: seen) clearing false (flags.set (!clearing) flag) cs
      | none => none

end ScreenLogic.Pattern
