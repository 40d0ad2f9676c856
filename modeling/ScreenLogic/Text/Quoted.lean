import ScreenLogic.Text.Grapheme

/-!
# Quoted text

A text in quotes, as it is shown to a developer: what does not print, or joins with the
character before it, is written by its code point.
-/

namespace ScreenLogic.Text

/-- Everything prints but controls and the like, unassigned characters, separators other
than the space, and the fillers of Hangul, which are letters without a shape. -/
def unprintable : CharSet :=
  (CharSet.unions [ofCategories ["C", "Z"], .ofText ["115f-1160 3164 ffa0"]]).diff
    ((CharSet.single ' ').union Newcomer.all)

/-- Marks that change the character before them. -/
def joining : CharSet :=
  (graphemeExtend.union Newcomer.nonspacingMark).diff (.ofText ["ff9e-ff9f"])

def hexText (n : Nat) : String := String.ofList (Nat.toDigits 16 n)

def quotedChar (c : Char) : String :=
  if c = '\x00' then "\\0"
  else if c = '\t' then "\\t"
  else if c = '\r' then "\\r"
  else if c = '\n' then "\\n"
  else if c = '\\' then "\\\\"
  else if c = '"' then "\\\""
  else if unprintable.contains c || joining.contains c then
    "\\u\x7b" ++ hexText c.toNat ++ "\x7d"
  else String.ofList [c]

def quote (s : String) : String := "\"" ++ "".intercalate (s.toList.map quotedChar) ++ "\""

end ScreenLogic.Text
