import ScreenLogic.Pattern.Reader
import ScreenLogic.Value.Judgement

/-!
# Built-in checks

The fixed catalogue of checks and what each accepts, given its arguments. A check whose
argument is missing or of the wrong kind accepts nothing.
-/

namespace ScreenLogic

inductive BuiltinCheck where
  | required
  | email
  | minLength
  | maxLength
  | pattern
  | numeric
  | matches
  deriving DecidableEq

namespace BuiltinCheck

def all : List BuiltinCheck :=
  [.required, .email, .minLength, .maxLength, .pattern, .numeric, .matches]

def name : BuiltinCheck → String
  | .required => "required"
  | .email => "email"
  | .minLength => "minLength"
  | .maxLength => "maxLength"
  | .pattern => "pattern"
  | .numeric => "numeric"
  | .matches => "matches"

def ofName? (name : String) : Option BuiltinCheck := all.find? (·.name == name)

/-- Null, the empty text and the empty list count as missing. -/
def isPresent : Option Value → Bool
  | none | some .null => false
  | some (.str s) => s != ""
  | some (.arr items) => !items.isEmpty
  | some _ => true

/-- The characters that may stand in an address on either side of the at sign: all but it
and blanks. -/
def addressChars : Text.CharSet where
  ranges :=
    [(0x00, 0x08), (0x0e, 0x1f), (0x21, 0x3f), (0x41, 0x84), (0x86, 0x9f), (0xa1, 0x167f),
     (0x1681, 0x1fff), (0x200b, 0x2027), (0x202a, 0x202e), (0x2030, 0x205e), (0x2060, 0x2fff),
     (0x3001, 0x10ffff)]

theorem contains_addressChars (c : Char) :
    addressChars.contains c = (!Text.isBlank c && c != '@') := by
  have hc : c.toNat ≤ 0x10ffff := by
    have := c.valid
    simp only [UInt32.isValidChar, Nat.isValidChar] at this
    simp only [Char.toNat]
    omega
  have hat : (c != '@') = !decide (c.toNat = 64) := by
    by_cases h : c = '@'
    · subst h; rfl
    · have : c.toNat ≠ 64 := fun hn => h (Char.toNat_inj.1 hn)
      simp [h, this]
  rw [hat, Bool.eq_iff_iff]
  simp only [addressChars, Text.isBlank, Text.blanks, Text.CharSet.contains,
    Text.CharSet.containsCode, List.any_cons, List.any_nil, Bool.or_false, Bool.or_eq_true,
    Bool.and_eq_true, decide_eq_true_eq, Bool.not_eq_true', Bool.or_eq_false_iff,
    Bool.and_eq_false_iff, decide_eq_false_iff_not]
  omega

def addressPart : Pattern := .plus (.char addressChars)

/-- An at sign between two parts, of which the second has a point inside. -/
def emailPattern : Pattern :=
  .seq (.look .startOfText) <| .seq addressPart <| .seq (.literal '@') <| .seq addressPart <|
    .seq (.literal '.') <| .seq addressPart (.look .endOfText)

def isEmail (s : String) : Bool := emailPattern.occurs s.toList

/-- The digits of a number, with a point after, between or before them, and what follows. -/
def leadingDigits? (cs : List Char) : Option (List Char × List Char) :=
  match cs.takeWhile Text.isDecimalDigit, cs.dropWhile Text.isDecimalDigit with
  | [], '.' :: rest =>
    match rest.takeWhile Text.isDecimalDigit with
    | [] => none
    | ds => some ('.' :: ds, rest.dropWhile Text.isDecimalDigit)
  | [], _ => none
  | ds, '.' :: rest =>
    some (ds ++ '.' :: rest.takeWhile Text.isDecimalDigit, rest.dropWhile Text.isDecimalDigit)
  | ds, rest => some (ds, rest)

/-- An exponent that begins here, or nothing. -/
def leadingExponent : List Char → List Char
  | [] => []
  | c :: cs =>
    if c = 'e' ∨ c = 'E' then
      let (sign, cs) := splitSign cs
      match cs.takeWhile Text.isDecimalDigit with
      | [] => []
      | ds => c :: (sign ++ ds)
    else []
where
  splitSign : List Char → List Char × List Char
    | '+' :: cs => (['+'], cs)
    | '-' :: cs => (['-'], cs)
    | cs => ([], cs)

/-- The number with which a text begins, as far as it goes, in digits of any script. -/
def leadingNumber? (cs : List Char) : Option (List Char) :=
  let (sign, cs) := leadingExponent.splitSign cs
  if "Infinity".toList.isPrefixOf cs then some (sign ++ "Infinity".toList)
  else (leadingDigits? cs).map fun (ds, rest) => sign ++ ds ++ leadingExponent rest

/-- A text is numeric if the number it begins with, blanks aside, is written in ASCII. -/
def isNumericText (s : String) : Bool :=
  match leadingNumber? (Text.trimStart s.toList) with
  | some cs => cs.all (·.toNat < 128)
  | none => false

def isNumeric : Option Value → Bool
  | some (.num _) => true
  | some (.str s) => isNumericText s
  | _ => false

/-- The length of a text in characters. -/
def lengthOf (s : String) : Number := .int s.length

def numberArg? (args : Fields Value) (name : String) : Option Number :=
  (Fields.get? args name).bind Value.asNumber?

def textArg? (args : Fields Value) (name : String) : Option String :=
  (Fields.get? args name).bind Value.asStr?

def run (check : BuiltinCheck) (value : Option Value) (args : Fields Value) : Bool :=
  match check with
  | .required => isPresent value
  | .email =>
    match value.bind Value.asStr? with
    | some s => isEmail s
    | none => false
  | .minLength =>
    match value.bind Value.asStr?, numberArg? args "min" with
    | some s, some min => min.units ≤ (lengthOf s).units
    | _, _ => false
  | .maxLength =>
    match value.bind Value.asStr?, numberArg? args "max" with
    | some s, some max => (lengthOf s).units ≤ max.units
    | _, _ => false
  | .pattern =>
    match value.bind Value.asStr?, (textArg? args "pattern").bind Pattern.parse? with
    | some s, some p => p.occurs s.toList
    | _, _ => false
  | .numeric => isNumeric value
  | .matches =>
    match Fields.get? args "other" with
    | some other => Value.strictEquals value (some other)
    | none => false

end BuiltinCheck

end ScreenLogic
