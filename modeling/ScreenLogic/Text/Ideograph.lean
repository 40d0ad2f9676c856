import ScreenLogic.Text.CharSet

/-!
# Ideographs
-/

namespace ScreenLogic.Text

def unifiedIdeograph : CharSet := .ofText
  ["3400-4dbf 4e00-9fff fa0e-fa0f fa11 fa13-fa14 fa1f fa21 fa23-fa24 fa27-fa29 20000-2a6df",
   "2a700-2b739 2b740-2b81d 2b820-2cea1 2ceb0-2ebe0 2ebf0-2ee5d 30000-3134a 31350-323af"]

def radical : CharSet := .ofText
  ["2e80-2e99 2e9b-2ef3 2f00-2fd5"]

/-- Operators that describe an ideograph by its parts. -/
def idsBinaryOperator : CharSet := .ofText
  ["2ff0-2ff1 2ff4-2ffd 31ef"]

def idsTrinaryOperator : CharSet := .ofText
  ["2ff2-2ff3"]

def idsUnaryOperator : CharSet := .ofText
  ["2ffe-2fff"]

end ScreenLogic.Text
