import ScreenLogic.Text.Word

/-!
# Grapheme clusters

Which characters extend the one before them, and the classes by which a text is divided
into the characters that a reader sees.
-/

namespace ScreenLogic.Text

/-- Characters beside the nonspacing and enclosing marks that extend the one before. -/
def otherGraphemeExtend : CharSet := .ofText
  ["9be 9d7 b3e b57 bbe bd7 cc0 cc2 cc7-cc8 cca-ccb cd5-cd6 d3e d57 dcf ddf 1715 1734 1b35 1b3b",
   "1b3d 1b43-1b44 1baa 1bf2-1bf3 200c 302e-302f a953 a9c0 ff9e-ff9f 111c0 11235 1133e 1134d 11357",
   "113b8 113c2 113c5 113c7-113c9 113cf 114b0 114bd 115af 116b6 11930 1193d 11f41 16ff0-16ff1",
   "1d165-1d166 1d16d-1d172 e0020-e007f"]

def graphemeExtend : CharSet := (ofCategories ["Mn", "Me"]).union otherGraphemeExtend

def graphemeBase : CharSet :=
  (CharSet.unions [ofCategories ["Cc", "Cf", "Cs", "Co", "Cn", "Zl", "Zp"],
    graphemeExtend]).complement

/-- Viramas, which link the consonants beside them. -/
def graphemeLink : CharSet := .ofText
  ["94d 9cd a4d acd b4d bcd c4d ccd d3b-d3c d4d dca e3a eba f84 1039-103a 1714-1715 1734 17d2 1a60",
   "1b44 1baa-1bab 1bf2-1bf3 2d7f a806 a82c a8c4 a953 a9c0 aaf6 abed 10a3f 11046 11070 1107f 110b9",
   "11133-11134 111c0 11235 112ea 1134d 113ce-113d0 11442 114c2 115bf 1163f 116b6 1172b 11839",
   "1193d-1193e 119e0 11a34 11a47 11a99 11c3f 11d44-11d45 11d97 11f41-11f42 1612f"]

/-- Characters that are written around or before those that follow them. -/
def prependedConcatenationMark : CharSet := .ofText
  ["600-605 6dd 70f 890-891 8e2 110bd 110cd"]

/-- Consonants that are written before the cluster that follows them. -/
def prefixedConsonant : CharSet := .ofText
  ["d4e 111c2-111c3 113d1 1193f 11941 11a3a 11a84-11a89 11d46 11f02"]

/-- Spacing marks that do not belong to the cluster before them. -/
def detachedSpacingMark : CharSet := .ofText
  ["102b-102c 1038 1062-1064 1067-106d 1083 1087-108c 108f 109a-109c 1a61 1a63-1a64 aa7b aa7d",
   "11720-11721"]

def emojiModifier : CharSet := .ofText
  ["1f3fb-1f3ff"]

def regionalIndicator : CharSet := .ofText
  ["1f1e6-1f1ff"]

/-- Code points to be ignored wherever they are not supported, even some that no character
has taken. -/
def otherDefaultIgnorable : CharSet := .ofText
  ["34f 115f-1160 17b4-17b5 2065 3164 ffa0 fff0-fff8 e0000 e0002-e001f e0080-e00ff e01f0-e0fff"]

def hangulSyllables : CharSet := .ofText
  ["ac00-d7a3"]

/-- Hangul syllables without a final consonant, each followed by the 27 that have one. -/
def openHangulSyllables : CharSet :=
  .ofRanges ((List.range 399).map fun i => (0xac00 + 28 * i, 0xac00 + 28 * i))

/-- The classes of grapheme cluster breaks, by their short and long names. -/
def graphemeBreaks : List ((String × String) × CharSet) :=
  CharSet.claim .empty
    [(("CR", "CR"), .range 0xd 0xd),
     (("LF", "LF"), .range 0xa 0xa),
     (("ZWJ", "ZWJ"), .range 0x200d 0x200d),
     (("EX", "Extend"), graphemeExtend.union emojiModifier),
     (("PP", "Prepend"), prependedConcatenationMark.union prefixedConsonant),
     (("CN", "Control"),
      .unions [ofCategories ["Zl", "Zp", "Cc", "Cf"], unassigned.inter otherDefaultIgnorable]),
     (("RI", "Regional_Indicator"), regionalIndicator),
     (("SM", "SpacingMark"),
      ((ofCategory "Mc").union (.ofText ["e33 eb3"])).diff detachedSpacingMark),
     (("L", "L"), .ofText ["1100-115f a960-a97c"]),
     (("V", "V"), .ofText ["1160-11a7 d7b0-d7c6 16d63 16d67-16d6a"]),
     (("T", "T"), .ofText ["11a8-11ff d7cb-d7fb"]),
     (("LV", "LV"), openHangulSyllables),
     (("LVT", "LVT"), hangulSyllables)]

end ScreenLogic.Text
