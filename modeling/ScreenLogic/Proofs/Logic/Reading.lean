import ScreenLogic.Logic.Wire

/-!
# Places where expressions are read

A value that stands where an expression is read is a test, an operator with operands, or at
fault. It is at fault if it is an auth leaf, or an operator whose operands are not of the shape
that it wants, whatever may be wrong with the operands themselves.

## Main definitions

* `Value.IsTest`: values that are read as truth tests.
* `Value.fault?`: what is wrong with a value where an expression is read.

## Main statements

* `Value.expr_induction`: induction along the places where expressions are read.
-/

namespace ScreenLogic

namespace Operator

theorem key_of_ofKey? {key : String} {op : Operator} (h : ofKey? key = some op) :
    op.key = key := by
  unfold ofKey? at h
  split at h
  · rename_i hall
    rw [← Option.some.inj h, hall, Operator.key]
  split at h
  · rename_i hany
    rw [← Option.some.inj h, hany, Operator.key]
  split at h
  · rename_i hnot
    rw [← Option.some.inj h, hnot, Operator.key]
  · obtain ⟨op, hop, rfl⟩ := Option.map_eq_some_iff.mp h
    have hkey := List.find?_some hop
    exact eq_of_beq hkey

end Operator

namespace Value

/-- A value that is read as a truth test: neither an operator nor an auth leaf. -/
def IsTest (v : Value) : Prop :=
  ∀ key operand, v = .obj [(key, operand)] → key ≠ "auth" ∧ Operator.ofKey? key = none

/-- What is wrong with a value where an expression is read, not counting what stands below it:
it is an auth leaf, a list of operands is none, or a comparison has not two operands. -/
def fault? : Value → Option ExprError
  | .obj [(key, operand)] =>
    if key = "auth" then some (.authNotNestable operand.plain)
    else match Operator.ofKey? key, operand with
      | none, _ | some .not, _ => none
      | some .all, .arr _ | some .any, .arr _ | some (.compare _), .arr [_, _] => none
      | some .all, v | some .any, v =>
        some (.invalidShape key ("expected an array of expressions, got " ++ v.compact))
      | some (.compare _), .arr items => some (.wrongArity key items.length)
      | some (.compare _), v =>
        some (.invalidShape key ("expected [left, right], got " ++ v.compact))
  | _ => none

theorem fault?_of_isTest {v : Value} (h : v.IsTest) : v.fault? = none := by
  unfold fault?
  split
  · rename_i key operand
    obtain ⟨hauth, hop⟩ := h key operand rfl
    rw [if_neg hauth, hop]
  · rfl

/-- Induction on a value along the places where expressions are read in it. -/
@[elab_as_elim]
theorem expr_induction {motive : Value → Prop}
    (test : ∀ v : Value, v.IsTest → motive v)
    (faulty : ∀ v error, fault? v = some error → motive v)
    (all : ∀ items, (∀ v ∈ items, motive v) → motive (.obj [("and", .arr items)]))
    (any : ∀ items, (∀ v ∈ items, motive v) → motive (.obj [("or", .arr items)]))
    (not : ∀ operand, motive operand → motive (.obj [("not", operand)]))
    (compare : ∀ (op : Comparison) (l r : Value), motive l → motive r →
      motive (.obj [(op.key, .arr [l, r])])) (v : Value) : motive v := by
  have below (w : Value) (_ : sizeOf w < sizeOf v) : motive w :=
    expr_induction test faulty all any not compare w
  by_cases htest : v.IsTest
  · exact test v htest
  cases hfault : fault? v with
  | some error => exact faulty v error hfault
  | none =>
    obtain ⟨key, operand, rfl, hkey⟩ : ∃ key operand, v = .obj [(key, operand)] ∧
        ¬ (key ≠ "auth" ∧ Operator.ofKey? key = none) := by
      simpa [IsTest] using htest
    have hauth : key ≠ "auth" := by
      rintro rfl
      simp [fault?] at hfault
    obtain ⟨op, hop⟩ := Option.ne_none_iff_exists'.mp fun hnone => hkey ⟨hauth, hnone⟩
    obtain rfl := Operator.key_of_ofKey? hop
    have hitem {items : List Value} {w : Value} (hw : w ∈ items) :
        sizeOf w < sizeOf (obj [(op.key, arr items)]) := by
      have hlt := List.sizeOf_lt_of_mem hw
      simp
      omega
    -- An operator without a fault has operands of the shape that it wants.
    simp only [fault?, hauth, hop, if_false] at hfault
    cases op with
    | all =>
      cases operand with
      | arr items => exact all items fun w hw => below w (hitem hw)
      | null | bool | num | str | obj => simp at hfault
    | any =>
      cases operand with
      | arr items => exact any items fun w hw => below w (hitem hw)
      | null | bool | num | str | obj => simp at hfault
    | not => exact not operand (below operand (by simp; omega))
    | compare op =>
      match operand with
      | .arr [l, r] => exact compare op l r (below l (hitem (by simp))) (below r (hitem (by simp)))
      | .arr [] | .arr [_] | .arr (_ :: _ :: _ :: _) | .null | .bool _ | .num _ | .str _ | .obj _ =>
        simp at hfault
termination_by sizeOf v

end Value

/-! ## What is read -/

namespace Expr

theorem ofValue_of_isTest {v : Value} (h : v.IsTest) :
    ofValue v = .ok (.test (Binding.ofValue v)) := by
  unfold ofValue
  split
  · rename_i key operand
    obtain ⟨hauth, hop⟩ := h key operand rfl
    rw [if_neg hauth, hop]
  · rfl

/-- The fault of a value is the error, whatever stands below it. -/
theorem ofValue_of_fault? {v : Value} {error : ExprError} (h : v.fault? = some error) :
    ofValue v = .error error := by
  unfold Value.fault? at h
  split at h
  · rename_i key operand
    unfold ofValue
    by_cases hauth : key = "auth"
    · rw [if_pos hauth] at h ⊢
      exact congrArg Except.error (Option.some.inj h)
    · rw [if_neg hauth] at h ⊢
      cases hop : Operator.ofKey? key with
      | none => simp [hop] at h
      | some op =>
        rw [hop] at h
        cases op with
        | not => cases h
        | all | any =>
          cases operand with
          | arr items => cases h
          | null | bool | num | str | obj => exact congrArg Except.error (Option.some.inj h)
        | compare op =>
          match operand with
          | .arr [_, _] => cases h
          | .arr [] | .arr [_] | .arr (_ :: _ :: _ :: _) | .null | .bool _ | .num _ | .str _ |
            .obj _ => exact congrArg Except.error (Option.some.inj h)
  · cases h

theorem ofValue_all (items : List Value) :
    ofValue (.obj [("and", .arr items)]) = (ofItems items).map .all := rfl

theorem ofValue_any (items : List Value) :
    ofValue (.obj [("or", .arr items)]) = (ofItems items).map .any := rfl

theorem ofValue_not (v : Value) : ofValue (.obj [("not", v)]) = (ofValue v).map .not := rfl

theorem ofValue_compare_eq (op : Comparison) (l r : Value) :
    ofValue (.obj [(op.key, .arr [l, r])]) = (do
      let left ← Operand.ofValue l (ofValue l)
      let right ← Operand.ofValue r (ofValue r)
      return .compare op left right) := by
  cases op <;> rfl

end Expr
end ScreenLogic
