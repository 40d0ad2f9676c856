import ScreenLogic.Text.Category

/-!
# Mathematical characters
-/

namespace ScreenLogic.Text

/-- Mathematical characters that are not mathematical symbols by category, but for the
alphabets of formulas. -/
def otherMathSymbols : CharSet := .ofText
  ["5e 3d0-3d2 3d5 3f0-3f1 3f4-3f5 2016 2032-2034 2040 2061-2064 207d-207e 208d-208e 20d0-20dc",
   "20e1 20e5-20e6 20eb-20ef 2102 2107 210a-2113 2115 2119-211d 2124 2128-2129 212c-212d 212f-2131",
   "2133-2138 213c-213f 2145-2149 2195-2199 219c-219f 21a1-21a2 21a4-21a5 21a7 21a9-21ad 21b0-21b1",
   "21b6-21b7 21bc-21cd 21d0-21d1 21d3 21d5-21db 21dd 21e4-21e5 2308-230b 23b4-23b5 23b7 23d0 23e2",
   "25a0-25a1 25ae-25b6 25bc-25c0 25c6-25c7 25ca-25cb 25cf-25d3 25e2 25e4 25e7-25ec 2605-2606 2640",
   "2642 2660-2663 266d-266e 27c5-27c6 27e6-27ef 2983-2998 29d8-29db 29fc-29fd fe61 fe63 fe68 ff3c",
   "ff3e"]

/-- The blocks of the alphabets that are used in formulas. -/
def mathAlphabets : CharSet := .ofText
  ["1d400-1d7ff 1ee00-1eeff"]

def math : CharSet :=
  .unions [ofCategory "Sm", otherMathSymbols, mathAlphabets.inter assigned]

def otherMath : CharSet := math.diff (ofCategory "Sm")

end ScreenLogic.Text
