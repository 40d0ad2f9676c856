import ScreenLogic.Text.Word

/-!
# Identifiers

With which characters identifiers begin and go on, and which are kept for syntax.
-/

namespace ScreenLogic.Text

def patternSyntax : CharSet := .ofText
  ["21-2f 3a-40 5b-5e 60 7b-7e a1-a7 a9 ab-ac ae b0-b1 b6 bb bf d7 f7 2010-2027 2030-203e",
   "2041-2053 2055-205e 2190-245f 2500-2775 2794-2bff 2e00-2e7f 3001-3003 3008-3020 3030 fd3e-fd3f",
   "fe45-fe46"]

def patternWhiteSpace : CharSet := .ofText
  ["9-d 20 85 200e-200f 2028-2029"]

def otherIdStart : CharSet := .ofText
  ["1885-1886 2118 212e 309b-309c"]

def otherIdContinue : CharSet := .ofText
  ["b7 387 1369-1371 19da 200c-200d 30fb ff65"]

def idStart : CharSet :=
  (CharSet.unions [ofCategories ["L", "Nl"], otherIdStart]).diff
    (patternSyntax.union patternWhiteSpace)

def idContinue : CharSet :=
  (CharSet.unions [idStart, ofCategories ["Mn", "Mc", "Nd", "Pc"], otherIdContinue]).diff
    (patternSyntax.union patternWhiteSpace)

/-- Characters with which no identifier begins or goes on once it is normalized. -/
def denormalIdContinue : CharSet := .ofText
  ["37a 309b-309c fc5e-fc63 fdfa-fdfb fe70 fe72 fe74 fe76 fe78 fe7a fe7c fe7e"]

/-- Characters with which no identifier begins once it is normalized. -/
def denormalIdStart : CharSet := .ofText
  ["e33 eb3 ff9e-ff9f"]

def xidStart : CharSet := (idStart.diff denormalIdContinue).diff denormalIdStart

def xidContinue : CharSet := idContinue.diff denormalIdContinue

def idCompatMathStart : CharSet := .ofText
  ["2202 2207 221e 1d6c1 1d6db 1d6fb 1d715 1d735 1d74f 1d76f 1d789 1d7a9 1d7c3"]

def idCompatMathContinue : CharSet :=
  idCompatMathStart.union (.ofText ["b2-b3 b9 2070 2074-207e 2080-208e"])

end ScreenLogic.Text
