import ScreenLogic.Pattern.Flags
import ScreenLogic.Pattern.Property
import ScreenLogic.Text.Digit
import ScreenLogic.Value.Reader

/-!
# Escapes in patterns

What a backslash introduces: a character that would else have a meaning, a character by
its number, a class or a look.
-/

namespace ScreenLogic.Pattern

open Text

/-- What one step of reading a pattern yields. -/
inductive Primitive where
  | literal (c : Char)
  | class (set : CharSet)
  | look (look : Look)

def isMeta (c : Char) : Bool := "\\.+*?()|[]\x7b\x7d^$#&-~".toList.contains c

/-- ASCII characters that may be escaped although they stand for themselves anyway. -/
def isEscapable (c : Char) : Bool :=
  isMeta c || (c.toNat < 128 && !c.isAlphanum && c != '<' && c != '>')

def charOf? (n : Nat) : Option Char := if n.isValidChar then some (Char.ofNat n) else none

/-- A fixed number of hexadecimal digits. -/
def readHexDigits (flags : Flags) (value : Nat) : Nat → List Char → Option (Nat × List Char)
  | 0, cs => some (value, cs)
  | n + 1, c :: cs => do
    let d ← Value.hexValue? c
    readHexDigits flags (value * 16 + d) n (flags.skip cs)
  | _ + 1, [] => none

/-- The hexadecimal digits up to a closing brace. -/
def hexDigitsOf? : List Char → Option Nat
  | [] => none
  | cs => cs.foldlM (fun value c => (Value.hexValue? c).map (value * 16 + ·)) 0

/-- The characters up to a closing brace, blanks left out where they do not count. -/
def readBraced (flags : Flags) : Nat → List Char → Option (List Char × List Char)
  | 0, _ => none
  | fuel + 1, cs =>
    match flags.skip cs with
    | [] => none
    | '\x7d' :: rest => some ([], rest)
    | c :: rest => do
      let (inner, rest) ← readBraced flags fuel rest
      return (c :: inner, rest)

/-- A character by its number. Outside Unicode mode two digits stand for a byte, which is a
character only below 128. -/
def readHex (flags : Flags) (digits : Nat) (cs : List Char) : Option (Primitive × List Char) :=
  match flags.skip cs with
  | '\x7b' :: rest => do
    let (inner, rest) ← readBraced flags (rest.length + 1) rest
    return (.literal (← charOf? (← hexDigitsOf? inner)), flags.skip rest)
  | cs => do
    let (value, rest) ← readHexDigits flags 0 digits cs
    guard (flags.unicode ∨ digits ≠ 2 ∨ value < 128)
    return (.literal (← charOf? value), rest)

/-- The name of a property, one letter or in braces, and what follows it. Returns also
whether the set that is named is excluded. -/
def readPropertyName (flags : Flags) (cs : List Char) :
    Option ((CharSet × Bool) × List Char) :=
  match flags.skip cs with
  | [] => none
  | '\x7b' :: rest => do
    let (inner, rest) ← readBraced flags (rest.length + 1) rest
    return (← propertyText? inner, rest)
  | c :: rest =>
    if c = '\\' then none
    else (property? [c]).map fun set => ((set, false), flags.skip rest)

/-- A named set, closed under case before it is excluded. -/
def readProperty (flags : Flags) (negated : Bool) (cs : List Char) :
    Option (Primitive × List Char) := do
  guard flags.unicode
  let ((set, excluded), rest) ← readPropertyName flags cs
  let set := flags.fold set
  return (.class (if negated != excluded then set.complement else set), rest)

/-- The digits, blanks and word characters. -/
def namedClass (flags : Flags) (c : Char) : CharSet :=
  if c = 'd' then if flags.unicode then decimalDigits else .ofText ["30-39"]
  else if c = 's' then if flags.unicode then blanks else .ofText ["9-d 20"]
  else if flags.unicode then wordCharacters
  else asciiWordCharacters

def readNamedClass (flags : Flags) (c : Char) (rest : List Char) :
    Option (Primitive × List Char) :=
  let set := namedClass flags c.toLower
  if c.isUpper then
    if flags.unicode then some (.class set.complement, rest) else none
  else some (.class set, rest)

def boundaryNamed? (unicode : Bool) (name : List Char) : Option Look :=
  match String.ofList name with
  | "start" => some (.wordStart unicode)
  | "end" => some (.wordEnd unicode)
  | "start-half" => some (.wordStartHalf unicode)
  | "end-half" => some (.wordEndHalf unicode)
  | _ => none

def isBoundaryLetter (c : Char) : Bool := c.isAlpha || c == '-'

/-- The letters of a boundary's name and what follows them. -/
def readBoundaryName (flags : Flags) : Nat → List Char → List Char × List Char
  | 0, cs => ([], cs)
  | fuel + 1, cs =>
    match cs with
    | c :: rest =>
      if isBoundaryLetter c then
        let (name, rest) := readBoundaryName flags fuel (flags.skip rest)
        (c :: name, rest)
      else ([], cs)
    | [] => ([], [])

/-- A word boundary, perhaps of a kind that is named in braces. A brace before anything but
a letter begins a repetition instead. -/
def readBoundary (flags : Flags) (cs : List Char) : Option (Primitive × List Char) :=
  match cs with
  | '\x7b' :: rest =>
    match flags.skip rest with
    | [] => none
    | c :: inner =>
      if isBoundaryLetter c then
        match readBoundaryName flags (inner.length + 1) (c :: inner) with
        | (name, '\x7d' :: rest) => (boundaryNamed? flags.unicode name).map (.look ·, rest)
        | _ => none
      else some (.look (.wordBoundary flags.unicode), cs)
  | cs => some (.look (.wordBoundary flags.unicode), cs)

/-- What follows a backslash. -/
def readEscape (flags : Flags) : List Char → Option (Primitive × List Char)
  | [] => none
  | c :: rest =>
    match c with
    | 'x' => readHex flags 2 rest
    | 'u' => readHex flags 4 rest
    | 'U' => readHex flags 8 rest
    | 'p' => readProperty flags false rest
    | 'P' => readProperty flags true rest
    | 'd' | 's' | 'w' | 'D' | 'S' | 'W' => readNamedClass flags c rest
    | 'a' => some (.literal '\x07', rest)
    | 'f' => some (.literal '\x0c', rest)
    | 't' => some (.literal '\t', rest)
    | 'n' => some (.literal '\n', rest)
    | 'r' => some (.literal '\r', rest)
    | 'v' => some (.literal '\x0b', rest)
    | 'A' => some (.look .startOfText, rest)
    | 'z' => some (.look .endOfText, rest)
    | 'b' => readBoundary flags rest
    | 'B' => some (.look (.notWordBoundary flags.unicode), rest)
    | '<' => some (.look (.wordStart flags.unicode), rest)
    | '>' => some (.look (.wordEnd flags.unicode), rest)
    | c => if isEscapable c then some (.literal c, rest) else none

end ScreenLogic.Pattern
