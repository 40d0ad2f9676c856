import ScreenLogic.Text.Blank
import ScreenLogic.Text.Grapheme

/-!
# Invisible and reserved code points
-/

namespace ScreenLogic.Text

def bidiControl : CharSet := .ofText
  ["61c 200e-200f 202a-202e 2066-2069"]

def deprecated : CharSet := .ofText
  ["149 673 f77 f79 17a3-17a4 206a-206f 2329-232a e0001"]

/-- Vowels that are written before the consonant which they follow in speech. -/
def logicalOrderException : CharSet := .ofText
  ["e40-e44 ec0-ec4 19b5-19b7 19ba aab5-aab6 aab9 aabb-aabc"]

def noncharacter : CharSet := .ofText
  ["fdd0-fdef fffe-ffff 1fffe-1ffff 2fffe-2ffff 3fffe-3ffff 4fffe-4ffff 5fffe-5ffff 6fffe-6ffff",
   "7fffe-7ffff 8fffe-8ffff 9fffe-9ffff afffe-affff bfffe-bffff cfffe-cffff dfffe-dffff",
   "efffe-effff ffffe-fffff 10fffe-10ffff"]

def variationSelector : CharSet := .ofText
  ["180b-180d 180f fe00-fe0f e0100-e01ef"]

/-- Format characters that are seen. -/
def visibleFormat : CharSet := .ofText
  ["fff9-fffb 13430-13440"]

def defaultIgnorable : CharSet :=
  ((((CharSet.unions [otherDefaultIgnorable, ofCategory "Cf", variationSelector]).diff blanks).diff
    visibleFormat).diff prependedConcatenationMark)

end ScreenLogic.Text
