import ScreenLogic.Binding

/-!
# Logic expressions

Conjunction, disjunction, negation and comparison over truth tests of bindings. An
operand of a comparison is a binding or an expression, which counts as its truth.
-/

namespace ScreenLogic

inductive Comparison where
  | eq
  | neq
  | gt
  | gte
  | lt
  | lte
  deriving DecidableEq

namespace Comparison

def all : List Comparison := [.eq, .neq, .gt, .gte, .lt, .lte]

def key : Comparison → String
  | .eq => "eq"
  | .neq => "neq"
  | .gt => "gt"
  | .gte => "gte"
  | .lt => "lt"
  | .lte => "lte"

def ofKey? (key : String) : Option Comparison := all.find? (·.key == key)

end Comparison

mutual

inductive Expr where
  | all (operands : List Expr)
  | any (operands : List Expr)
  | not (operand : Expr)
  | compare (op : Comparison) (left right : Operand)
  | test (binding : Binding)

inductive Operand where
  | value (binding : Binding)
  | expr (expr : Expr)

end

namespace Expr

instance : Inhabited Expr := ⟨.test default⟩

def reference (path : String) : Expr := .test (.reference path)

def literal (value : Value) : Expr := .test (.literal value)

mutual

/-- The bindings at the leaves of an expression, be they tested or compared. -/
def leaves : Expr → List Binding
  | .all es | .any es => itemLeaves es
  | .not e => leaves e
  | .compare _ l r => operandLeaves l ++ operandLeaves r
  | .test b => [b]
termination_by structural e => e

def itemLeaves : List Expr → List Binding
  | [] => []
  | e :: es => leaves e ++ itemLeaves es
termination_by structural e => e

def operandLeaves : Operand → List Binding
  | .value b => [b]
  | .expr e => leaves e
termination_by structural e => e

end

mutual

def decEq : (a b : Expr) → Decidable (a = b)
  | .all a, .all b =>
    match decEqList a b with
    | isTrue h => isTrue (h ▸ rfl)
    | isFalse h => isFalse (by simp [h])
  | .any a, .any b =>
    match decEqList a b with
    | isTrue h => isTrue (h ▸ rfl)
    | isFalse h => isFalse (by simp [h])
  | .not a, .not b =>
    match decEq a b with
    | isTrue h => isTrue (h ▸ rfl)
    | isFalse h => isFalse (by simp [h])
  | .compare o l r, .compare o' l' r' =>
    if ho : o = o' then
      match decEqOperand l l', decEqOperand r r' with
      | isTrue h, isTrue h' => isTrue (ho ▸ h ▸ h' ▸ rfl)
      | isFalse h, _ => isFalse (by simp [h])
      | _, isFalse h => isFalse (by simp [h])
    else isFalse (by simp [ho])
  | .test a, .test b => if h : a = b then isTrue (h ▸ rfl) else isFalse (by simp [h])
  | .all _, .any _ | .all _, .not _ | .all _, .compare .. | .all _, .test _
  | .any _, .all _ | .any _, .not _ | .any _, .compare .. | .any _, .test _
  | .not _, .all _ | .not _, .any _ | .not _, .compare .. | .not _, .test _
  | .compare .., .all _ | .compare .., .any _ | .compare .., .not _ | .compare .., .test _
  | .test _, .all _ | .test _, .any _ | .test _, .not _ | .test _, .compare .. =>
    isFalse nofun
termination_by structural e => e

def decEqList : (a b : List Expr) → Decidable (a = b)
  | [], [] => isTrue rfl
  | a :: as, b :: bs =>
    match decEq a b, decEqList as bs with
    | isTrue h, isTrue h' => isTrue (h ▸ h' ▸ rfl)
    | isFalse h, _ => isFalse (by simp [h])
    | _, isFalse h => isFalse (by simp [h])
  | [], _ :: _ | _ :: _, [] => isFalse nofun
termination_by structural e => e

def decEqOperand : (a b : Operand) → Decidable (a = b)
  | .value a, .value b => if h : a = b then isTrue (h ▸ rfl) else isFalse (by simp [h])
  | .expr a, .expr b =>
    match decEq a b with
    | isTrue h => isTrue (h ▸ rfl)
    | isFalse h => isFalse (by simp [h])
  | .value _, .expr _ | .expr _, .value _ => isFalse nofun
termination_by structural e => e

end

instance : DecidableEq Expr := decEq

instance : DecidableEq Operand := decEqOperand

end Expr

end ScreenLogic
