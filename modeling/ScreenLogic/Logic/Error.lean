/-!
# What is wrong with an expression

The causes for which an expression, a visibility condition or an effect is refused,
and their texts.
-/

namespace ScreenLogic

inductive ExprError where
  /-- A key carries a value of the wrong shape. -/
  | invalidShape (key reason : String)
  /-- A comparison has not exactly two operands. -/
  | wrongArity (key : String) (count : Nat)
  /-- An auth leaf stands below the top level of a visibility condition. -/
  | authNotNestable (condition : String)
  /-- A visibility condition is combined by neither `and` nor `or`. -/
  | invalidLogic (logic : String)
  deriving DecidableEq

namespace ExprError

def message : ExprError → String
  | .invalidShape key reason => "Invalid '" ++ key ++ "' expression: " ++ reason
  | .wrongArity key count => "Comparison '" ++ key ++ "' expects 2 operands, got " ++ toString count
  | .authNotNestable condition =>
    "Auth condition '" ++ condition ++ "' cannot be nested inside a logic expression"
  | .invalidLogic logic =>
    "Invalid condition logic '" ++ logic ++ "': expected \"and\" or \"or\""

end ExprError

end ScreenLogic
