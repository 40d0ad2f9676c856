import ScreenLogic.Text.Case
import ScreenLogic.Text.Emoji
import ScreenLogic.Text.Identifier
import ScreenLogic.Text.Ideograph
import ScreenLogic.Text.Invisible
import ScreenLogic.Text.Mark
import ScreenLogic.Text.Mathematical

/-!
# Names of properties

The short and the long names by which a pattern refers to general categories and to the
properties that a character has or has not.
-/

namespace ScreenLogic.Pattern

open Text

/-- The codes and the long names of the general categories and their classes. -/
def categoryNames : List (String × String) :=
  [("Lu", "Uppercase_Letter"), ("Ll", "Lowercase_Letter"), ("Lt", "Titlecase_Letter"),
   ("Lm", "Modifier_Letter"), ("Lo", "Other_Letter"), ("L", "Letter"),
   ("Mn", "Nonspacing_Mark"), ("Mc", "Spacing_Mark"), ("Me", "Enclosing_Mark"),
   ("M", "Mark"), ("M", "Combining_Mark"),
   ("Nd", "Decimal_Number"), ("Nd", "digit"), ("Nl", "Letter_Number"), ("No", "Other_Number"),
   ("N", "Number"),
   ("Pc", "Connector_Punctuation"), ("Pd", "Dash_Punctuation"), ("Ps", "Open_Punctuation"),
   ("Pe", "Close_Punctuation"), ("Pi", "Initial_Punctuation"), ("Pf", "Final_Punctuation"),
   ("Po", "Other_Punctuation"), ("P", "Punctuation"), ("P", "punct"),
   ("Sm", "Math_Symbol"), ("Sc", "Currency_Symbol"), ("Sk", "Modifier_Symbol"),
   ("So", "Other_Symbol"), ("S", "Symbol"),
   ("Zs", "Space_Separator"), ("Zl", "Line_Separator"), ("Zp", "Paragraph_Separator"),
   ("Z", "Separator"),
   ("Cc", "Control"), ("Cc", "cntrl"), ("Cf", "Format"), ("Co", "Private_Use"),
   ("Cn", "Unassigned"), ("C", "Other")]

/-- Names of scripts beside their codes and long names. -/
def otherScriptNames : List (String × String) := [("Copt", "Qaac"), ("Zinh", "Qaai")]

/-- The properties that a character has or has not, by their short and long names. -/
def binaryProperties : List ((String × String) × CharSet) :=
  [(("AHex", "ASCII_Hex_Digit"), .ofText ["30-39 41-46 61-66"]),
   (("Alpha", "Alphabetic"), alphabetic),
   (("Bidi_C", "Bidi_Control"), bidiControl),
   (("Bidi_M", "Bidi_Mirrored"), bidiMirrored),
   (("CI", "Case_Ignorable"), caseIgnorable),
   (("Cased", "Cased"), cased),
   (("CWCF", "Changes_When_Casefolded"), changesWhenCasefolded),
   (("CWCM", "Changes_When_Casemapped"), changesWhenCasemapped),
   (("CWL", "Changes_When_Lowercased"), changesWhenLowercased),
   (("CWT", "Changes_When_Titlecased"), changesWhenTitlecased),
   (("CWU", "Changes_When_Uppercased"), changesWhenUppercased),
   (("Dash", "Dash"), dash),
   (("DI", "Default_Ignorable_Code_Point"), defaultIgnorable),
   (("Dep", "Deprecated"), deprecated),
   (("Dia", "Diacritic"), diacritic),
   (("Emoji", "Emoji"), emoji),
   (("EComp", "Emoji_Component"), emojiComponent),
   (("EMod", "Emoji_Modifier"), emojiModifier),
   (("EBase", "Emoji_Modifier_Base"), emojiModifierBase),
   (("EPres", "Emoji_Presentation"), emojiPresentation),
   (("ExtPict", "Extended_Pictographic"), extendedPictographic),
   (("Ext", "Extender"), extender),
   (("Gr_Base", "Grapheme_Base"), graphemeBase),
   (("Gr_Ext", "Grapheme_Extend"), graphemeExtend),
   (("Gr_Link", "Grapheme_Link"), graphemeLink),
   (("Hex", "Hex_Digit"), .ofText ["30-39 41-46 61-66 ff10-ff19 ff21-ff26 ff41-ff46"]),
   (("Hyphen", "Hyphen"), hyphen),
   (("IDS", "ID_Start"), idStart),
   (("IDC", "ID_Continue"), idContinue),
   (("ID_Compat_Math_Start", "ID_Compat_Math_Start"), idCompatMathStart),
   (("ID_Compat_Math_Continue", "ID_Compat_Math_Continue"), idCompatMathContinue),
   (("Ideo", "Ideographic"), ideographic),
   (("IDSB", "IDS_Binary_Operator"), idsBinaryOperator),
   (("IDST", "IDS_Trinary_Operator"), idsTrinaryOperator),
   (("IDSU", "IDS_Unary_Operator"), idsUnaryOperator),
   (("Join_C", "Join_Control"), joinControl),
   (("LOE", "Logical_Order_Exception"), logicalOrderException),
   (("Lower", "Lowercase"), lowercase),
   (("Math", "Math"), math),
   (("MCM", "Modifier_Combining_Mark"), modifierCombiningMark),
   (("NChar", "Noncharacter_Code_Point"), noncharacter),
   (("OAlpha", "Other_Alphabetic"), otherAlphabetic),
   (("ODI", "Other_Default_Ignorable_Code_Point"), otherDefaultIgnorable),
   (("OGr_Ext", "Other_Grapheme_Extend"), otherGraphemeExtend),
   (("OIDC", "Other_ID_Continue"), otherIdContinue),
   (("OIDS", "Other_ID_Start"), otherIdStart),
   (("OLower", "Other_Lowercase"), otherLowercase),
   (("OMath", "Other_Math"), otherMath),
   (("OUpper", "Other_Uppercase"), otherUppercase),
   (("Pat_Syn", "Pattern_Syntax"), patternSyntax),
   (("Pat_WS", "Pattern_White_Space"), patternWhiteSpace),
   (("PCM", "Prepended_Concatenation_Mark"), prependedConcatenationMark),
   (("QMark", "Quotation_Mark"), quotationMark),
   (("Radical", "Radical"), radical),
   (("RI", "Regional_Indicator"), regionalIndicator),
   (("STerm", "Sentence_Terminal"), sentenceTerminal),
   (("SD", "Soft_Dotted"), softDotted),
   (("Term", "Terminal_Punctuation"), terminalPunctuation),
   (("UIdeo", "Unified_Ideograph"), unifiedIdeograph),
   (("Upper", "Uppercase"), uppercase),
   (("VS", "Variation_Selector"), variationSelector),
   (("WSpace", "White_Space"), blanks),
   (("space", "space"), blanks),
   (("XIDC", "XID_Continue"), xidContinue),
   (("XIDS", "XID_Start"), xidStart)]

end ScreenLogic.Pattern
