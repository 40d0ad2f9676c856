import ScreenLogic.Logic.Error
import ScreenLogic.Logic.Expr
import ScreenLogic.Value.Compact

/-!
# Expressions on the wire

An operator is an object with the operator's key as its one entry; everything else is
a truth test. An auth leaf is refused at every place where an expression is read.
-/

namespace ScreenLogic

inductive Operator where
  | all
  | any
  | not
  | compare (op : Comparison)
  deriving DecidableEq

namespace Operator

def key : Operator → String
  | .all => "and"
  | .any => "or"
  | .not => "not"
  | .compare op => op.key

def ofKey? (key : String) : Option Operator :=
  if key = "and" then some .all
  else if key = "or" then some .any
  else if key = "not" then some .not
  else (Comparison.ofKey? key).map .compare

end Operator

/-- A text as it is, anything else as compact JSON. -/
def Value.plain : Value → String
  | .str s => s
  | v => v.compact

namespace Operand

/-- An operand is read as an expression if it is an operator object or has an entry `auth`. -/
def isExpr : Value → Bool
  | .obj fields =>
    Fields.has fields "auth" ||
      match fields with
      | [(key, _)] => (Operator.ofKey? key).isSome
      | _ => false
  | _ => false

/-- An operand, given what its value is when it is read as an expression. -/
def ofValue (v : Value) (expr : Except ExprError Expr) : Except ExprError Operand :=
  if isExpr v then expr.map .expr else .ok (.value (.ofValue v))

end Operand

namespace Expr

mutual

def ofValue : Value → Except ExprError Expr
  | .obj [(key, operand)] =>
    if key = "auth" then .error (.authNotNestable operand.plain)
    else match Operator.ofKey? key with
      | none => .ok (.test (Binding.ofValue (.obj [(key, operand)])))
      | some .all =>
        match operand with
        | .arr items => (ofItems items).map .all
        | v => .error (.invalidShape key ("expected an array of expressions, got " ++ v.compact))
      | some .any =>
        match operand with
        | .arr items => (ofItems items).map .any
        | v => .error (.invalidShape key ("expected an array of expressions, got " ++ v.compact))
      | some .not => (ofValue operand).map .not
      | some (.compare op) =>
        match operand with
        | .arr [l, r] => do
          let left ← Operand.ofValue l (ofValue l)
          let right ← Operand.ofValue r (ofValue r)
          return .compare op left right
        | .arr items => .error (.wrongArity key items.length)
        | v => .error (.invalidShape key ("expected [left, right], got " ++ v.compact))
  | v => .ok (.test (Binding.ofValue v))
termination_by structural v => v

def ofItems : List Value → Except ExprError (List Expr)
  | [] => .ok []
  | v :: rest => do
    let e ← ofValue v
    let es ← ofItems rest
    return e :: es
termination_by structural v => v

end

mutual

def toValue : Expr → Value
  | .all es => .obj [("and", .arr (toItems es))]
  | .any es => .obj [("or", .arr (toItems es))]
  | .not e => .obj [("not", toValue e)]
  | .compare op l r => .obj [(op.key, .arr [operandToValue l, operandToValue r])]
  | .test b => b.toValue
termination_by structural e => e

def toItems : List Expr → List Value
  | [] => []
  | e :: es => toValue e :: toItems es
termination_by structural e => e

def operandToValue : Operand → Value
  | .value b => b.toValue
  | .expr e => toValue e
termination_by structural e => e

end

end Expr

end ScreenLogic
