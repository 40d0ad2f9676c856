import ScreenLogic.Logic.Error
import ScreenLogic.Text.Quoted
import ScreenLogic.Value.Compact

/-!
# Why a value is not of a type

The causes for which a wire value is refused, and their texts. A value of the wrong kind
is described by its kind and, if it is small, by its content.
-/

namespace ScreenLogic

/-- What a value is called when another kind was expected. -/
def Value.kind : Value → String
  | .null => "null"
  | .bool b => "boolean `" ++ (if b then "true" else "false") ++ "`"
  | .num (.int n) => "integer `" ++ toString n ++ "`"
  | .num (.double d) => "floating point `" ++ (Number.double d).compact ++ "`"
  | .str s => "string " ++ Text.quote s
  | .arr _ => "sequence"
  | .obj _ => "map"

inductive DecodeError where
  | wrongKind (found : Value) (expected : String)
  | negative (found : Int) (expected : String)
  | missingField (field : String)
  /-- An array ends before the required field of this position. -/
  | tooShort (position : Nat) (record : String) (fields : Nat)
  | tooLong (length : Nat)
  | unknownVariant (found : String) (known : List String)
  | notSingleKey
  | expression (cause : ExprError)
  deriving DecidableEq

namespace DecodeError

def choices : List String → String
  | [a, b] => "`" ++ a ++ "` or `" ++ b ++ "`"
  | names => "one of " ++ ", ".intercalate (names.map fun n => "`" ++ n ++ "`")

def message : DecodeError → String
  | .wrongKind found expected => "invalid type: " ++ found.kind ++ ", expected " ++ expected
  | .negative found expected =>
    "invalid value: integer `" ++ toString found ++ "`, expected " ++ expected
  | .missingField field => "missing field `" ++ field ++ "`"
  | .tooShort position record fields =>
    "invalid length " ++ toString position ++ ", expected struct " ++ record ++ " with " ++
      toString fields ++ " elements"
  | .tooLong length => "invalid length " ++ toString length ++ ", expected fewer elements in array"
  | .unknownVariant found known =>
    "unknown variant `" ++ found ++ "`, expected " ++ choices known
  | .notSingleKey => "invalid value: map, expected map with a single key"
  | .expression cause => cause.message

end DecodeError

end ScreenLogic
