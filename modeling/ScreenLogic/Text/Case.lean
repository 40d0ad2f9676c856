import ScreenLogic.Text.CaseFold
import ScreenLogic.Text.SentenceBreak

/-!
# Case

Which characters have case, which stand within cased words, and which change when a text
is brought to one case.
-/

namespace ScreenLogic.Text

def cased : CharSet := .unions [lowercase, uppercase, ofCategory "Lt"]

/-- Characters without case of their own that may stand within a cased word. -/
def caseIgnorable : CharSet :=
  (ofCategories ["Mn", "Me", "Cf", "Lm", "Sk"]).union
    (.ofText ["27 2e 3a b7 387 55f 5f4 2018 2019 2024 2027 fe13 fe52 fe55 ff07 ff0e ff1a"])

/-- Lower-case letters whose capitals are several letters, or are shared with another. -/
def expandingLowercase : CharSet := .ofText
  ["131 149 1f0 587 1e96-1e9a 1f50 1f52 1f54 1f56 1fb2 1fb4 1fb6-1fb7 1fc2 1fc4 1fc6-1fc7 1fd2",
   "1fd6-1fd7 1fe2 1fe4 1fe6-1fe7 1ff2 1ff4 1ff6-1ff7 fb00-fb04 fb13-fb17"]

def changesWhenLowercased : CharSet :=
  (((ofCategory "Lt").union uppercase).inter withVariants).union (.range 0x130 0x130)

def changesWhenUppercased : CharSet :=
  (((ofCategory "Lt").union lowercase).inter withVariants).union expandingLowercase

/-- Letters of titles stay, and so do those of Georgian; digraphs lose their second capital. -/
def changesWhenTitlecased : CharSet :=
  (((lowercase.inter withVariants).union expandingLowercase).diff georgianLetters).union
    (.ofText ["1c4 1c7 1ca 1f1"])

/-- Lower-case letters that fold to others. -/
def foldingLowercase : CharSet := .ofText
  ["b5 df 149 17f 345 3c2 3d0-3d1 3d5-3d6 3f0-3f1 3f5 587 13f8-13fd 1c80-1c88 1e9a-1e9b 1f80-1f87",
   "1f90-1f97 1fa0-1fa7 1fb2-1fb4 1fb7 1fc2-1fc4 1fc7 1ff2-1ff4 1ff7 ab70-abbf fb00-fb06 fb13-fb17"]

def changesWhenCasefolded : CharSet :=
  (changesWhenLowercased.diff (.range 0x13a0 0x13f5)).union foldingLowercase

def changesWhenCasemapped : CharSet :=
  .unions [changesWhenLowercased, changesWhenUppercased, changesWhenTitlecased]

end ScreenLogic.Text
