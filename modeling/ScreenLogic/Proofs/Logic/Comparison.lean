import ScreenLogic.Logic.Eval

/-!
# The six comparisons

Equality and order are judged apart, yet on two numbers and on two texts both tell of one linear
order, and each of the six comparisons says of it what its name says. No other values are ordered,
absent ones and the truth of nested expressions included. They may be equal, and even then the
four comparisons of order fail: not to be greater is less than to be at most as great.

## Main definitions

* `Value.Ordered`: values that are ordered, two numbers or two texts.
* `Comparison.ofOrdering`: what a comparison makes of an order.

## Main statements

* `Comparison.holds_of_order`: comparisons of ordered values go by one order.
* `Comparison.holds_of_not_ordered`: comparisons of order fail for all other values.
* `Expr.compare_consistent`: how the six comparisons of operands hang together.
-/

namespace ScreenLogic

/-! ## Order -/

instance : Std.TransCmp Number.compare := inferInstanceAs (Std.TransCmp (compareOn Number.units))

/-- Texts come in lexicographic order by code point. -/
theorem compare_text_eq_lt_iff (s t : String) :
    compare s t = .lt ↔ List.Lex (fun c d => c.toNat < d.toNat) s.toList t.toList := by
  have hchar : (fun c d : Char => c.toNat < d.toNat) = (· < ·) := rfl
  rw [hchar, List.lex_lt, ← String.lt_iff]
  exact compareOfLessAndEq_eq_lt

namespace Value

variable {a b c : Option Value} {o o' : Ordering}

/-- Two numbers or two texts. -/
inductive Ordered : Option Value → Option Value → Prop where
  | numbers (m n : Number) : Ordered (some (.num m)) (some (.num n))
  | texts (s t : String) : Ordered (some (.str s)) (some (.str t))

theorem Ordered.exists_order (h : Ordered a b) : ∃ o, order a b = some o := by
  cases h <;> exact ⟨_, rfl⟩

theorem ordered_of_order (h : order a b = some o) : Ordered a b := by
  unfold order at h
  split at h
  · exact .numbers _ _
  · exact .texts _ _
  · cases h

theorem order_eq_none_iff : order a b = none ↔ ¬ Ordered a b := by
  constructor
  · intro hnone h
    obtain ⟨o, ho⟩ := h.exists_order
    simp [hnone] at ho
  · intro h
    cases ho : order a b with
    | none => rfl
    | some o => exact absurd (ordered_of_order ho) h

/-- Where there is an order, equality is part of it. -/
theorem strictEquals_of_order (h : order a b = some o) : strictEquals a b = o.isEq := by
  rw [Bool.eq_iff_iff, Ordering.isEq_iff_eq_eq]
  cases ordered_of_order h with
  | numbers m n =>
    obtain rfl := Option.some.inj h
    simp [strictEquals, equals, Number.same, Number.compare]
  | texts s t =>
    obtain rfl := Option.some.inj h
    simp [strictEquals, equals]

theorem order_swap (a b : Option Value) : order b a = (order a b).map Ordering.swap := by
  cases h : order b a with
  | none =>
    have hnone : order a b = none := by
      rw [order_eq_none_iff] at h ⊢
      rintro (_ | _)
      · exact h (.numbers _ _)
      · exact h (.texts _ _)
    rw [hnone, Option.map_none]
  | some o =>
    cases ordered_of_order h <;> rw [← h] <;> exact congrArg some Std.OrientedCmp.eq_swap

/-- Order is transitive, strict or not. -/
theorem order_trans (hab : order a b = some o) (hbc : order b c = some o') :
    ∃ o'', order a c = some o'' ∧ (o = .lt → o' = .lt → o'' = .lt) ∧
      (o.isLE → o'.isLE → o''.isLE) := by
  cases ordered_of_order hab with
  | numbers m n =>
    cases ordered_of_order hbc with
    | numbers _ k =>
      obtain rfl := Option.some.inj hab
      obtain rfl := Option.some.inj hbc
      exact ⟨_, rfl, Std.TransCmp.lt_trans, Std.TransCmp.isLE_trans⟩
  | texts s t =>
    cases ordered_of_order hbc with
    | texts _ u =>
      obtain rfl := Option.some.inj hab
      obtain rfl := Option.some.inj hbc
      exact ⟨_, rfl, Std.TransCmp.lt_trans, Std.TransCmp.isLE_trans⟩

end Value

namespace Comparison

open Value (Ordered order)

variable {a b c : Option Value} {o : Ordering} {op : Comparison}

/-- What a comparison makes of an order. -/
def ofOrdering (op : Comparison) (order : Ordering) : Bool :=
  match op with
  | .eq => order.isEq
  | .neq => order.isNe
  | .gt => order.isGT
  | .gte => order.isGE
  | .lt => order.isLT
  | .lte => order.isLE

/-- Each comparison of ordered values says of their order what its name says. -/
theorem holds_of_order (h : order a b = some o) (op : Comparison) :
    op.holds a b = op.ofOrdering o := by
  have hequals := Value.strictEquals_of_order h
  cases op <;> simp only [holds, h, hequals, ofOrdering] <;> cases o <;> rfl

theorem holds_of_not_ordered (h : ¬ Ordered a b) (hop : op ∈ [gt, gte, lt, lte]) :
    op.holds a b = false := by
  have hnone := Value.order_eq_none_iff.mpr h
  cases op <;> simp_all [holds]

theorem exists_order_of_holds (hop : op ∈ [gt, gte, lt, lte]) (h : op.holds a b) :
    ∃ o, order a b = some o ∧ op.ofOrdering o := by
  cases horder : order a b with
  | none =>
    have hfails := holds_of_not_ordered (Value.order_eq_none_iff.mp horder) hop
    simp [hfails] at h
  | some o => exact ⟨o, rfl, holds_of_order horder op ▸ h⟩

theorem holds_swap (a b : Option Value) :
    holds .gt a b = holds .lt b a ∧ holds .gte a b = holds .lte b a := by
  simp only [holds, Value.order_swap a b]
  rcases order a b with _ | (_ | _ | _) <;> exact ⟨rfl, rfl⟩

/-- Exactly one of the three holds of ordered values, and the other two are made up of them. -/
theorem trichotomy (h : Ordered a b) :
    [lt, eq, gt].countP (·.holds a b) = 1 ∧
      holds .lte a b = (holds .lt a b || holds .eq a b) ∧
      holds .gte a b = (holds .gt a b || holds .eq a b) := by
  obtain ⟨o, ho⟩ := h.exists_order
  simp only [holds_of_order ho]
  cases o <;> exact ⟨rfl, rfl, rfl⟩

theorem lt_trans (hab : holds .lt a b) (hbc : holds .lt b c) : holds .lt a c := by
  obtain ⟨o, ho, hlt⟩ := exists_order_of_holds (by decide) hab
  obtain ⟨o', ho', hlt'⟩ := exists_order_of_holds (by decide) hbc
  obtain ⟨o'', hac, htrans, -⟩ := Value.order_trans ho ho'
  rw [holds_of_order hac]
  exact Ordering.isLT_iff_eq_lt.mpr
    (htrans (Ordering.isLT_iff_eq_lt.mp hlt) (Ordering.isLT_iff_eq_lt.mp hlt'))

theorem lte_trans (hab : holds .lte a b) (hbc : holds .lte b c) : holds .lte a c := by
  obtain ⟨o, ho, hle⟩ := exists_order_of_holds (by decide) hab
  obtain ⟨o', ho', hle'⟩ := exists_order_of_holds (by decide) hbc
  obtain ⟨o'', hac, -, htrans⟩ := Value.order_trans ho ho'
  rw [holds_of_order hac]
  exact htrans hle hle'

end Comparison

namespace Expr

open Value (Ordered)

/-- The comparisons of any operands in any model. What is not equal is unequal, and to be greater
is to be less the other way round. Two numbers or two texts are in exactly one of three relations,
of which the comparisons are made up; for all other operands each comparison of order fails. To be
less, and to be at most as great, passes on. Texts are ordered by their code points. -/
theorem compare_consistent (model : Value) (x y z : Operand) :
    (eval model (.compare .neq x y) = !eval model (.compare .eq x y)) ∧
    (eval model (.compare .gt x y) = eval model (.compare .lt y x) ∧
      eval model (.compare .gte x y) = eval model (.compare .lte y x)) ∧
    (Ordered (evalOperand model x) (evalOperand model y) →
      [.lt, .eq, .gt].countP (fun op => eval model (.compare op x y)) = 1 ∧
      eval model (.compare .lte x y) =
        (eval model (.compare .lt x y) || eval model (.compare .eq x y)) ∧
      eval model (.compare .gte x y) =
        (eval model (.compare .gt x y) || eval model (.compare .eq x y))) ∧
    (¬ Ordered (evalOperand model x) (evalOperand model y) →
      ∀ op ∈ [.gt, .gte, .lt, .lte], eval model (.compare op x y) = false) ∧
    (eval model (.compare .lt x y) → eval model (.compare .lt y z) →
      eval model (.compare .lt x z)) ∧
    (eval model (.compare .lte x y) → eval model (.compare .lte y z) →
      eval model (.compare .lte x z)) ∧
    ∀ s t, evalOperand model x = some (.str s) → evalOperand model y = some (.str t) →
      (eval model (.compare .lt x y) ↔
        List.Lex (fun c d => c.toNat < d.toNat) s.toList t.toList) := by
  refine ⟨rfl, Comparison.holds_swap _ _, Comparison.trichotomy,
    fun h op hop => Comparison.holds_of_not_ordered h hop, Comparison.lt_trans,
    Comparison.lte_trans, fun s t hs ht => ?_⟩
  have horder : Value.order (evalOperand model x) (evalOperand model y) =
      some (Ord.compare s t) := by
    rw [hs, ht, Value.order]
  rw [← compare_text_eq_lt_iff, eval, Comparison.holds_of_order horder]
  exact Ordering.isLT_iff_eq_lt

/-- Texts that are read from the model or written out, and a null that equals null. -/
theorem compare_consistent_of_names :
    let model : Value := .obj [("name", .str "beta"), ("nothing", .null)]
    let name : Operand := .value (.reference "/name")
    let next : Operand := .value (.literal (.str "betas"))
    let last : Operand := .value (.literal (.str "gamma"))
    let nothing : Operand := .value (.reference "/nothing")
    let null : Operand := .value (.literal .null)
    eval model (.compare .lt name next) ∧ eval model (.compare .lt next last) ∧
      eval model (.compare .lt name last) ∧
      Ordered (evalOperand model name) (evalOperand model last) ∧
      eval model (.compare .lte name last) ∧
      eval model (.compare .eq nothing null) ∧
      ¬ Ordered (evalOperand model nothing) (evalOperand model null) ∧
      eval model (.compare .lte nothing null) = false := by
  intro model name next last nothing null
  have hname : evalOperand model name = some (.str "beta") := by decide
  obtain ⟨-, -, -, -, hlt, -, hlex⟩ := compare_consistent model name next last
  obtain ⟨-, -, -, -, -, -, hlexNext⟩ := compare_consistent model next last last
  obtain ⟨-, -, hbetween, -⟩ := compare_consistent model name last last
  obtain ⟨-, -, -, hfails, -⟩ := compare_consistent model nothing null null
  have hfirst := (hlex "beta" "betas" hname rfl).mpr (by decide)
  have hsecond := (hlexNext "betas" "gamma" rfl rfl).mpr (by decide)
  have hthird := hlt hfirst hsecond
  have htexts : Ordered (evalOperand model name) (evalOperand model last) :=
    hname ▸ .texts "beta" "gamma"
  have hnulls : ¬ Ordered (evalOperand model nothing) (evalOperand model null) :=
    Value.order_eq_none_iff.mp (by decide)
  refine ⟨hfirst, hsecond, hthird, htexts, ?_, by decide, hnulls, hfails hnulls _ (by decide)⟩
  rw [(hbetween htexts).2.1, hthird, Bool.true_or]

end Expr

end ScreenLogic
