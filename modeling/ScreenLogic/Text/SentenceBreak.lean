import ScreenLogic.Text.Blank
import ScreenLogic.Text.WordBreak

/-!
# Sentence breaks

The classes by which a text is divided into sentences.
-/

namespace ScreenLogic.Text

def sentenceTerminal : CharSet := .ofText
  ["21 2e 3f 589 61d-61f 6d4 700-702 7f9 837 839 83d-83e 964-965 104a-104b 1362 1367-1368 166e",
   "1735-1736 17d4-17d5 1803 1809 1944-1945 1aa8-1aab 1b4e-1b4f 1b5a-1b5b 1b5e-1b5f 1b7d-1b7f",
   "1c3b-1c3c 1c7e-1c7f 2024 203c-203d 2047-2049 2cf9-2cfb 2e2e 2e3c 2e53-2e54 3002 a4ff a60e-a60f",
   "a6f3 a6f7 a876-a877 a8ce-a8cf a92f a9c8-a9c9 aa5d-aa5f aaf0-aaf1 abeb fe12 fe15-fe16 fe52",
   "fe56-fe57 ff01 ff0e ff1f ff61 10a56-10a57 10f55-10f59 10f86-10f89 11047-11048 110be-110c1",
   "11141-11143 111c5-111c6 111cd 111de-111df 11238-11239 1123b-1123c 112a9 113d4-113d5",
   "1144b-1144c 115c2-115c3 115c9-115d7 11641-11642 1173c-1173e 11944 11946 11a42-11a43",
   "11a9b-11a9c 11c41-11c42 11ef7-11ef8 11f43-11f44 16a6e-16a6f 16af5 16b37-16b38 16b44",
   "16d6e-16d6f 16e98 1bc9f 1da88"]

/-- Quotation marks that may open as well as close. -/
def lineBreakQuotation : CharSet := .ofText
  ["22 27 ab bb 2018-2019 201b-201d 201f 2039-203a 275b-2760 2e00-2e0d 2e1c-2e1d 2e20-2e21",
   "1f676-1f678"]

/-- Letters of Georgian that have no case in running text. -/
def georgianLetters : CharSet := .ofText
  ["10d0-10fa 10fd-10ff"]

def sentenceContinue : CharSet := .ofText
  ["2c-2d 3a-3b 37e 55d 60c-60d 7f8 1802 1808 2013-2014 3001 fe10-fe11 fe13-fe14 fe31-fe32",
   "fe50-fe51 fe54-fe55 fe58 fe63 ff0c-ff0d ff1a-ff1b ff64"]

/-- The classes of sentence breaks, by their short and long names. -/
def sentenceBreaks : List ((String × String) × CharSet) :=
  CharSet.claim .empty
    [(("CR", "CR"), .range 0xd 0xd),
     (("LF", "LF"), .range 0xa 0xa),
     (("EX", "Extend"), .unions [graphemeExtend, ofCategory "Mc", .range 0x200d 0x200d]),
     (("SE", "Sep"), .ofText ["85 2028-2029"]),
     (("NU", "Numeric"), numerals.union (.range 0x66c 0x66c)),
     (("FO", "Format"), (ofCategory "Cf").diff (.range 0x200c 0x200d)),
     (("SP", "Sp"), blanks),
     (("LO", "Lower"), lowercase.diff georgianLetters),
     (("UP", "Upper"), ((ofCategory "Lt").union uppercase).diff (.range 0x1c90 0x1cbf)),
     (("LE", "OLetter"), alphabetic.union (.ofText ["a0 5f3"])),
     (("AT", "ATerm"), .ofText ["2e 2024 fe52 ff0e"]),
     (("SC", "SContinue"), sentenceContinue),
     (("ST", "STerm"), sentenceTerminal),
     (("CL", "Close"), (ofCategories ["Ps", "Pe"]).union lineBreakQuotation)]

end ScreenLogic.Text
