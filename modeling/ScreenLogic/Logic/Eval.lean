import ScreenLogic.Logic.Expr
import ScreenLogic.Value.Judgement

/-!
# Truth of expressions

Evaluation reads the model and never fails; what a reference does not reach takes
part in comparisons as absent.
-/

namespace ScreenLogic

namespace Comparison

/-- Equality is strict; the other comparisons fail for values that are not ordered. -/
def holds (op : Comparison) (left right : Option Value) : Bool :=
  match op with
  | .eq => Value.strictEquals left right
  | .neq => !Value.strictEquals left right
  | .gt => Value.order left right == some .gt
  | .gte => Value.order left right == some .gt || Value.order left right == some .eq
  | .lt => Value.order left right == some .lt
  | .lte => Value.order left right == some .lt || Value.order left right == some .eq

end Comparison

namespace Expr

mutual

def eval (model : Value) : Expr → Bool
  | .all es => evalAll model es
  | .any es => evalAny model es
  | .not e => !eval model e
  | .compare op l r => op.holds (evalOperand model l) (evalOperand model r)
  | .test b => Value.isTruthy (b.resolve model)
termination_by structural e => e

def evalAll (model : Value) : List Expr → Bool
  | [] => true
  | e :: es => eval model e && evalAll model es
termination_by structural e => e

def evalAny (model : Value) : List Expr → Bool
  | [] => false
  | e :: es => eval model e || evalAny model es
termination_by structural e => e

def evalOperand (model : Value) : Operand → Option Value
  | .value b => b.resolve model
  | .expr e => some (.bool (eval model e))
termination_by structural e => e

end

end Expr

end ScreenLogic
