import ScreenLogic.Text.Digit
import ScreenLogic.Text.Grapheme
import ScreenLogic.Text.Script

/-!
# Word breaks

The classes by which a text is divided into words.
-/

namespace ScreenLogic.Text

/-- Scripts without spaces between words: their letters are divided by a dictionary. -/
def dictionaryScripts : CharSet := .ofText
  ["e01-e3a e40-e4e e81-e82 e84 e86-e8a e8c-ea3 ea5 ea7-ebd ec0-ec4 ec6 ec8-ece edc-edf 1000-103f",
   "1050-108f 109a-109f 1780-17d3 17d7 17dc-17dd 1950-196d 1970-1974 1980-19ab 19b0-19c9 19da",
   "19de-19df 1a20-1a5e 1a60-1a7c 1aa0-1aad a9e0-a9ef a9fa-a9fe aa60-aac2 aadb-aadf 11700-1171a",
   "1171d-1172b 1173a-1173b 1173f-11746"]

def ideographic : CharSet := .ofText
  ["3006-3007 3021-3029 3038-303a 3400-4dbf 4e00-9fff f900-fa6d fa70-fad9 16fe4 17000-187f7",
   "18800-18cd5 18cff-18d08 1b170-1b2fb 20000-2a6df 2a700-2b739 2b740-2b81d 2b820-2cea1",
   "2ceb0-2ebe0 2ebf0-2ee5d 2f800-2fa1d 30000-3134a 31350-323af"]

/-- Characters that are part of a word although they are not alphabetic. -/
def otherWordLetter : CharSet := .ofText
  ["b8 2c2-2c5 2d2-2d7 2de-2df 2e5-2eb 2ed 2ef-2ff 55a-55c 55e 58a 5f3 70f a708-a716 a720-a721",
   "a789-a78a ab5b"]

/-- Signs that stand around numbers. -/
def numberSign : CharSet := .ofText
  ["600-605 6dd 890-891 8e2 110bd 110cd"]

def wordLetters : CharSet :=
  let excluded := .unions [ideographic, dictionaryScripts, ofScript "Hira"]
  (alphabetic.diff excluded).union otherWordLetter

def numerals : CharSet := .unions [decimalDigits, .range 0x66b 0x66b, numberSign]

/-- The classes of word breaks, by their short and long names. -/
def wordBreaks : List ((String × String) × CharSet) :=
  CharSet.claim .empty
    [(("CR", "CR"), .range 0xd 0xd),
     (("LF", "LF"), .range 0xa 0xa),
     (("NL", "Newline"), .ofText ["b-c 85 2028-2029"]),
     (("ZWJ", "ZWJ"), .range 0x200d 0x200d),
     (("RI", "Regional_Indicator"), regionalIndicator),
     (("DQ", "Double_Quote"), .single '"'),
     (("SQ", "Single_Quote"), .range 0x27 0x27),
     (("NU", "Numeric"), numerals),
     (("Extend", "Extend"), .unions [graphemeExtend, ofCategory "Mc", emojiModifier]),
     (("FO", "Format"),
      ((ofCategory "Cf").diff (.range 0x200b 0x200d)).diff prependedConcatenationMark),
     (("HL", "Hebrew_Letter"), (ofScript "Hebr").inter (ofCategory "Lo")),
     (("KA", "Katakana"),
      (ofScript "Kana").union (.ofText ["3031-3035 309b-309c 30a0 30fc ff70"])),
     (("ML", "MidLetter"), .ofText ["3a b7 387 55f 5f4 2027 fe13 fe55 ff1a"]),
     (("MN", "MidNum"),
      .ofText ["2c 3b 37e 589 60c-60d 66c 7f8 2044 fe10 fe14 fe50 fe54 ff0c ff1b"]),
     (("MB", "MidNumLet"), .ofText ["2e 2018-2019 2024 fe52 ff07 ff0e"]),
     (("LE", "ALetter"), wordLetters),
     (("EX", "ExtendNumLet"),
      ((ofCategory "Pc").diff (.ofText ["30fb ff65"])).union (.range 0x202f 0x202f)),
     (("WSegSpace", "WSegSpace"), (ofCategory "Zs").diff (.ofText ["a0 2007 202f"]))]

end ScreenLogic.Text
