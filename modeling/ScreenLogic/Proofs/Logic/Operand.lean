import ScreenLogic.Proofs.Decode
import ScreenLogic.Proofs.Logic.Reading
import ScreenLogic.Proofs.Value.Equality
import ScreenLogic.Visibility.Condition

/-!
# Literal operands

An operand that is neither an operator nor an auth leaf nor a reference stands for itself,
unless it is an object with an entry `auth` among others. Such an object is no auth leaf
and is not refused, but it is still read as an expression and counts as its truth.

## Main definitions

* `Value.isForm`: the objects of one entry that do not stand for themselves.

## Main statements

* `Expr.compare_literal_iff`: a literal operand equals itself exactly if it has no entry
  `auth`.
-/

namespace ScreenLogic

/-- An operator, an auth leaf or a reference. -/
def Value.isForm : Value → Bool
  | .obj [(key, v)] =>
    (Operator.ofKey? key).isSome || key == "auth" || (key == "path" && v.asStr?.isSome)
  | _ => false

theorem Value.isTest_of_not_isForm {v : Value} (h : v.isForm = false) : v.IsTest := by
  rintro key operand rfl
  obtain ⟨⟨hop, hauth⟩, -⟩ : ((Operator.ofKey? key) = none ∧ key ≠ "auth") ∧
      (key = "path" → operand.asStr? = none) := by
    simpa [isForm] using h
  exact ⟨hauth, hop⟩

/-- What is no reference is a literal. -/
theorem Binding.ofValue_of_not_isForm {v : Value} (h : v.isForm = false) :
    Binding.ofValue v = .literal v := by
  unfold Binding.ofValue
  split
  · simp [Value.isForm, Value.asStr?] at h
  · rfl

namespace Expr

theorem ofValue_of_not_isForm {v : Value} (h : v.isForm = false) :
    ofValue v = .ok (.test (.literal v)) := by
  rw [ofValue_of_isTest (Value.isTest_of_not_isForm h), Binding.ofValue_of_not_isForm h]

end Expr

namespace Operand

/-- Among the values that are no form, an entry `auth` makes an operand an expression. -/
theorem isExpr_of_not_isForm {v : Value} (h : v.isForm = false) :
    isExpr v = (v.field? "auth").isSome := by
  unfold isExpr
  split
  · rename_i fields
    split
    · rename_i key operand
      obtain ⟨-, hop⟩ := Value.isTest_of_not_isForm h key operand rfl
      simp [hop, Fields.has, Value.field?]
    · simp [Fields.has, Value.field?]
  · rename_i hobj
    cases v with
    | obj fields => exact absurd rfl (hobj fields)
    | _ => rfl

/-- The operand that a value which is no form is read as. -/
def ofLiteral (v : Value) : Operand :=
  if (v.field? "auth").isSome then .expr (.literal v) else .value (.literal v)

theorem ofValue_of_not_isForm {v : Value} (h : v.isForm = false) :
    ofValue v (Expr.ofValue v) = .ok (ofLiteral v) := by
  unfold ofValue ofLiteral
  rw [isExpr_of_not_isForm h, Expr.ofValue_of_not_isForm h, Binding.ofValue_of_not_isForm h]
  split <;> rfl

theorem ofValue_reference (path : String) (expr : Except ExprError Expr) :
    ofValue (.obj [("path", .str path)]) expr = .ok (.value (.reference path)) := rfl

/-- A literal operand stands for itself, or for true if it has an entry `auth`. -/
theorem eval_ofLiteral (model v : Value) : Expr.evalOperand model (ofLiteral v) =
    some (if (v.field? "auth").isSome then .bool true else v) := by
  unfold ofLiteral
  cases v with
  | obj fields => split <;> rfl
  | _ => rfl

/-- The value equals what its operand stands for, on either side, if it has no entry `auth`. -/
theorem strictEquals_ofLiteral (model v : Value) :
    Value.strictEquals (some v) (Expr.evalOperand model (ofLiteral v)) =
        (v.field? "auth").isNone ∧
      Value.strictEquals (Expr.evalOperand model (ofLiteral v)) (some v) =
        (v.field? "auth").isNone := by
  rw [eval_ofLiteral]
  split
  · rename_i hauth
    cases v with
    | obj fields => simp_all [Value.strictEquals, Value.equals]
    | _ => cases hauth
  · simp_all

end Operand

namespace Expr

theorem ofValue_compare (op : Comparison) {l r : Value} {left right : Operand}
    (hleft : Operand.ofValue l (ofValue l) = .ok left)
    (hright : Operand.ofValue r (ofValue r) = .ok right) :
    ofValue (.obj [(op.key, .arr [l, r])]) = .ok (.compare op left right) := by
  rw [ofValue_compare_eq, hleft, hright]
  rfl

/-- What a path leads to is equal to itself as a literal operand, on either side and in every
auth context, exactly if it has no entry `auth`. -/
theorem compare_literal_iff {model v : Value} {path : String} (hv : v.isForm = false)
    (hpath : Model.get model path = some v) :
    ∀ operands ∈ [[.obj [("path", .str path)], v], [v, .obj [("path", .str path)]]],
      ∃ equal unequal, ofValue (.obj [("eq", .arr operands)]) = .ok equal ∧
        ofValue (.obj [("neq", .arr operands)]) = .ok unequal ∧
        ∀ auth, (ConditionEntry.expr equal).eval model auth = (v.field? "auth").isNone ∧
          (ConditionEntry.expr unequal).eval model auth = (v.field? "auth").isSome := by
  have hreference := Operand.ofValue_reference path (ofValue (.obj [("path", .str path)]))
  have hliteral := Operand.ofValue_of_not_isForm hv
  have hresolved : evalOperand model (.value (.reference path)) = some v := hpath
  obtain ⟨hright, hleft⟩ := Operand.strictEquals_ofLiteral model v
  rw [List.forall_mem_cons, List.forall_mem_singleton]
  constructor
  · refine ⟨_, _, ofValue_compare .eq hreference hliteral,
      ofValue_compare .neq hreference hliteral, fun auth => ?_⟩
    simp [ConditionEntry.eval, eval, Comparison.holds, hresolved, hright]
  · refine ⟨_, _, ofValue_compare .eq hliteral hreference,
      ofValue_compare .neq hliteral hreference, fun auth => ?_⟩
    simp [ConditionEntry.eval, eval, Comparison.holds, hresolved, hleft]

/-- An object whose entries look like a reference among others. -/
theorem compare_literal_of_reference_like :
    let v : Value := .obj [("also", .arr [.null]), ("path", .str "/other")]
    v.isForm = false ∧ Model.get (.obj [("item", v)]) "/item" = some v ∧
      ∃ equal, ofValue (.obj [("eq", .arr [v, .obj [("path", .str "/item")]])]) = .ok equal ∧
        (ConditionEntry.expr equal).eval (.obj [("item", v)]) none = true := by
  intro v
  have hv : v.isForm = false := by decide
  have hget : Model.get (.obj [("item", v)]) "/item" = some v := by decide
  obtain ⟨equal, unequal, hequal, -, heval⟩ := compare_literal_iff hv hget _
    (List.mem_cons_of_mem _ (List.mem_singleton_self _))
  exact ⟨hv, hget, equal, hequal, (heval none).1⟩

/-- An object with an entry `auth` and another one is not equal to itself. -/
theorem not_compare_literal_of_auth :
    ¬ ∀ (model v : Value) (path : String), v.isForm = false → Model.get model path = some v →
      ∃ equal, ofValue (.obj [("eq", .arr [.obj [("path", .str path)], v])]) = .ok equal ∧
        ∀ auth, (ConditionEntry.expr equal).eval model auth = true := by
  intro h
  let v : Value := .obj [("auth", .str "admin"), ("role", .int 1)]
  obtain ⟨equal, hequal, heval⟩ := h (.obj [("item", v)]) v "/item" (by decide) (by decide)
  obtain rfl : Expr.compare .eq (.value (.reference "/item")) (.expr (.literal v)) = equal :=
    Except.ok.inj hequal
  have hfalse := heval none
  revert hfalse
  decide

end Expr

end ScreenLogic
