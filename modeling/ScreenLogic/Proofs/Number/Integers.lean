import ScreenLogic.Proofs.Logic.Comparison
import ScreenLogic.Proofs.Number.Rounding
import ScreenLogic.Validation.Builtin

/-!
# Comparing integers

Two integers compare as the doubles that they are rounded to. This is their order as integers,
unless they collapse, and then they count as equal. Equality, order, the six comparisons and the
check of equality all judge alike.

## Main definitions

* `Value.CompareAs`: the order that two integers have as values, wherever they are compared.

## Main statements

* `Value.compareAs_iff`: integers compare as integers do if and only if they do not collapse.
* `Value.not_exact_of_neighbours`: there are integers in range that do.
-/

namespace ScreenLogic

namespace Value

/-- Wherever two integers are compared as values, it is as if they had this order. -/
structure CompareAs (i j : Int) (o : Ordering) : Prop where
  equals : strictEquals (some (int i)) (some (int j)) = o.isEq
  order : Value.order (some (int i)) (some (int j)) = some o
  eval : ∀ model left right, Expr.evalOperand model left = some (int i) →
    Expr.evalOperand model right = some (int j) →
    ∀ op, Expr.eval model (.compare op left right) = op.ofOrdering o
  check : ∀ args, Fields.get? args "other" = some (int j) →
    BuiltinCheck.run .matches (some (int i)) args = o.isEq

theorem compareAs_nearest (i j : Int) :
    CompareAs i j (compare (Number.nearest i) (Number.nearest j)) := by
  have hunits := Number.compare_unitsOfInt i j
  have horder : order (some (int i)) (some (int j)) =
      some (compare (Number.nearest i) (Number.nearest j)) := congrArg some hunits
  have hequals := strictEquals_of_order horder
  refine ⟨hequals, horder, ?_, ?_⟩
  · intro model left right hleft hright op
    rw [Expr.eval, hleft, hright]
    exact Comparison.holds_of_order horder op
  · intro args hother
    simp only [BuiltinCheck.run, hother, hequals]

/-- Integers compare as integers do, everywhere, if and only if they do not collapse. If they do,
they count as equal. This happens only from `2 ^ 53` on, and up to 64 bits only to integers that
are no further apart than `2 ^ 11`. -/
theorem compareAs_iff (i j : Int) :
    (CompareAs i j (compare i j) ↔ ¬ Number.Collapse i j) ∧
    (Number.Collapse i j → CompareAs i j .eq ∧
      2 ^ 53 ≤ i.natAbs ∧ 2 ^ 53 ≤ j.natAbs ∧
      (i.natAbs < 2 ^ 64 → j.natAbs < 2 ^ 64 → (i - j).natAbs ≤ 2 ^ 11)) := by
  have hnearest := compareAs_nearest i j
  rw [Number.compare_nearest] at hnearest
  refine ⟨⟨fun h hcollapse => ?_, fun h => ?_⟩, fun h => ?_⟩
  · rw [if_pos hcollapse] at hnearest
    have heq := Option.some.inj (h.order.symm.trans hnearest.order)
    exact hcollapse.1 (Int.compare_eq_eq.mp heq)
  · rwa [if_neg h] at hnearest
  · rw [if_pos h] at hnearest
    exact ⟨hnearest, h.le_natAbs, h.symm.le_natAbs, h.natAbs_sub_le⟩

/-- Two neighbours of 54 bits count as equal. -/
theorem not_exact_of_neighbours :
    ¬ ∀ i j : Int, -2 ^ 63 ≤ i → i < 2 ^ 64 → -2 ^ 63 ≤ j → j < 2 ^ 64 →
      (strictEquals (some (int i)) (some (int j)) ↔ i = j) ∧
        order (some (int i)) (some (int j)) = some (compare i j) := by
  intro h
  obtain ⟨hequals, -⟩ := h (2 ^ 53) (2 ^ 53 + 1) (by decide) (by decide) (by decide) (by decide)
  have hcollapse : Number.Collapse (2 ^ 53) (2 ^ 53 + 1) := by decide
  have hcompare := compareAs_nearest (2 ^ 53) (2 ^ 53 + 1)
  rw [Number.compare_nearest, if_pos hcollapse] at hcompare
  exact hcollapse.1 (hequals.mp hcompare.equals)

end Value

end ScreenLogic
