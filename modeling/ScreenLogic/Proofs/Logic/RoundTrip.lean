import ScreenLogic.Proofs.Logic.Operand

/-!
# Expressions that survive the wire

What is written for an accepted value is that value again. An expression built in any other way
is read back as it was exactly if it is canonical, that is, if none of its literals is written
like a reference, an operator or an auth leaf, and if operands are literals or expressions as the
wire tells them apart.

## Main definitions

* `Expr.isCanonical`: expressions that survive the wire.

## Main statements

* `Expr.readsBack`: what is read is canonical, and is written as it was read.
* `Expr.ofValue_toValue`: what is canonical is read as it was before it was written.
* `Expr.wire_round_trip`: both.
-/

namespace ScreenLogic

/-- A reference, or a literal that is not written like anything else. -/
def Binding.isPlain : Binding → Bool
  | .literal v => !v.isForm
  | .reference _ => true

theorem Binding.isPlain_literal_iff {v : Value} :
    (Binding.literal v).isPlain ↔ v.isForm = false := by
  rw [isPlain, Bool.not_eq_true']

namespace Expr

/-- An operator, and no test. -/
def isOperation : Expr → Bool
  | .test _ => false
  | .all _ | .any _ | .not _ | .compare _ _ _ => true

/-- A test of an object that has an entry `auth` among others. -/
def isAuthTest : Expr → Bool
  | .test (.literal (.obj fields)) => 2 ≤ fields.length && Fields.has fields "auth"
  | _ => false

mutual

/-- No literal is written like something else. -/
def isCanonical : Expr → Bool
  | .all es | .any es => isCanonicalItems es
  | .not e => isCanonical e
  | .compare _ l r => isCanonicalOperand l && isCanonicalOperand r
  | .test b => b.isPlain
termination_by structural e => e

def isCanonicalItems : List Expr → Bool
  | [] => true
  | e :: es => isCanonical e && isCanonicalItems es
termination_by structural e => e

/-- Among operands, literals with an entry `auth` are tests, and all other tests are bindings. -/
def isCanonicalOperand : Operand → Bool
  | .value (.literal v) => !v.isForm && (v.field? "auth").isNone
  | .value (.reference _) => true
  | .expr e => isCanonical e && (e.isOperation || e.isAuthTest)
termination_by structural e => e

end

theorem isCanonical_compare_iff {op : Comparison} {l r : Operand} :
    isCanonical (.compare op l r) ↔ isCanonicalOperand l ∧ isCanonicalOperand r := by
  rw [isCanonical, Bool.and_eq_true]

theorem isCanonicalItems_cons_iff {e : Expr} {es : List Expr} :
    isCanonicalItems (e :: es) ↔ isCanonical e ∧ isCanonicalItems es := by
  rw [isCanonicalItems, Bool.and_eq_true]

theorem isCanonicalOperand_literal_iff {v : Value} :
    isCanonicalOperand (.value (.literal v)) ↔ v.isForm = false ∧ v.field? "auth" = none := by
  simp [isCanonicalOperand]

theorem isCanonicalOperand_expr_iff {e : Expr} :
    isCanonicalOperand (.expr e) ↔ isCanonical e ∧ (e.isOperation || e.isAuthTest) := by
  rw [isCanonicalOperand, Bool.and_eq_true]

end Expr

namespace Binding

theorem toValue_ofValue (v : Value) : (ofValue v).toValue = v := by
  unfold ofValue
  split <;> rfl

theorem isPlain_ofValue {v : Value} (h : v.IsTest) : (ofValue v).isPlain := by
  unfold ofValue
  split
  · rfl
  · rename_i hreference
    rw [isPlain_literal_iff]
    unfold Value.isForm
    split
    · rename_i key operand
      obtain ⟨hauth, hop⟩ := h key operand rfl
      have hpath : key = "path" → operand.asStr? = none := by
        rintro rfl
        cases operand with
        | str path => exact absurd rfl (hreference path)
        | _ => rfl
      simpa [hauth, hop] using hpath
    · rfl

end Binding

theorem Operand.isTest_of_not_isExpr {v : Value} (h : isExpr v = false) :
    v.IsTest ∧ v.field? "auth" = none := by
  cases v with
  | obj fields =>
    obtain ⟨hauth, hsingle⟩ := Bool.or_eq_false_iff.mp h
    have hnone : Fields.get? fields "auth" = none := by simpa [Fields.has] using hauth
    refine ⟨fun key operand hfields => ?_, hnone⟩
    obtain rfl := Value.obj.inj hfields
    refine ⟨?_, by simpa using hsingle⟩
    rintro rfl
    cases hnone
  | _ => exact ⟨fun _ _ hfields => Value.noConfusion hfields, rfl⟩

namespace Expr

/-! ## From the wire -/

/-- Whether an operand is read as an expression can be told from the expression. -/
theorem isExpr_toValue {e : Expr} (h : e.isCanonical) :
    Operand.isExpr (toValue e) = (e.isOperation || e.isAuthTest) := by
  cases e with
  | all | any | not => rfl
  | compare op => cases op <;> rfl
  | test b =>
    cases b with
    | reference path => rfl
    | literal v =>
      have hv : v.isForm = false := Binding.isPlain_literal_iff.mp h
      change Operand.isExpr v = (false || isAuthTest (.test (.literal v)))
      rw [Operand.isExpr_of_not_isForm hv]
      cases v with
      | obj fields =>
        -- With an entry `auth` alone the object would be an auth leaf.
        match fields with
        | [] => rfl
        | [(key, operand)] =>
          have hauth : key ≠ "auth" := by
            rintro rfl
            simp [Value.isForm] at hv
          simp [isAuthTest, Value.field?, Fields.get?, hauth]
        | _ :: _ :: _ => simp [isAuthTest, Value.field?, Fields.has]
      | _ => rfl

/-- A value is what it is read as written out, and it is read as something canonical. -/
def ReadsBack (v : Value) : Prop := ∀ e, ofValue v = .ok e → toValue e = v ∧ e.isCanonical

theorem readsBack_items {items : List Value} (ih : ∀ v ∈ items, ReadsBack v) {es : List Expr}
    (h : ofItems items = .ok es) : toItems es = items ∧ isCanonicalItems es := by
  induction items generalizing es with
  | nil =>
    obtain rfl := Except.ok.inj h
    exact ⟨rfl, rfl⟩
  | cons v items ihItems =>
    obtain ⟨e, he, h⟩ := Decode.bind_eq_ok.mp h
    obtain ⟨rest, hrest, h⟩ := Decode.bind_eq_ok.mp h
    obtain rfl := Except.ok.inj h
    obtain ⟨hv, hcanonical⟩ := ih v (List.mem_cons_self ..) e he
    obtain ⟨hitems, hcanonicals⟩ := ihItems (fun w hw => ih w (List.mem_cons_of_mem v hw)) hrest
    exact ⟨by rw [toItems, hv, hitems], isCanonicalItems_cons_iff.mpr ⟨hcanonical, hcanonicals⟩⟩

theorem readsBack_operand {v : Value} (ih : ReadsBack v) {o : Operand}
    (h : Operand.ofValue v (ofValue v) = .ok o) :
    operandToValue o = v ∧ isCanonicalOperand o := by
  unfold Operand.ofValue at h
  split at h
  · rename_i hexpr
    obtain ⟨e, he, rfl⟩ := Decode.map_eq_ok.mp h
    obtain ⟨hv, hcanonical⟩ := ih e he
    refine ⟨hv, isCanonicalOperand_expr_iff.mpr ⟨hcanonical, ?_⟩⟩
    rw [← isExpr_toValue hcanonical, hv, hexpr]
  · rename_i hexpr
    obtain rfl := Except.ok.inj h
    refine ⟨Binding.toValue_ofValue v, ?_⟩
    obtain ⟨htest, hauth⟩ := Operand.isTest_of_not_isExpr (by simpa using hexpr)
    have hplain := Binding.isPlain_ofValue htest
    have hvalue := Binding.toValue_ofValue v
    cases hb : Binding.ofValue v with
    | reference path => rfl
    | literal w =>
      rw [hb] at hplain hvalue
      obtain rfl : w = v := hvalue
      exact isCanonicalOperand_literal_iff.mpr ⟨Binding.isPlain_literal_iff.mp hplain, hauth⟩

theorem readsBack (v : Value) : ReadsBack v := by
  induction v using Value.expr_induction with
  | test v h =>
    intro e he
    rw [ofValue_of_isTest h] at he
    obtain rfl := Except.ok.inj he
    exact ⟨Binding.toValue_ofValue v, Binding.isPlain_ofValue h⟩
  | faulty v error h =>
    intro e he
    rw [ofValue_of_fault? h] at he
    cases he
  | all items ih =>
    intro e he
    obtain ⟨es, hes, rfl⟩ := Decode.map_eq_ok.mp he
    obtain ⟨hitems, hcanonical⟩ := readsBack_items ih hes
    exact ⟨by rw [toValue, hitems], hcanonical⟩
  | any items ih =>
    intro e he
    obtain ⟨es, hes, rfl⟩ := Decode.map_eq_ok.mp he
    obtain ⟨hitems, hcanonical⟩ := readsBack_items ih hes
    exact ⟨by rw [toValue, hitems], hcanonical⟩
  | not operand ih =>
    intro e he
    obtain ⟨x, hx, rfl⟩ := Decode.map_eq_ok.mp he
    obtain ⟨hoperand, hcanonical⟩ := ih x hx
    exact ⟨by rw [toValue, hoperand], hcanonical⟩
  | compare op l r ihl ihr =>
    intro e he
    rw [ofValue_compare_eq] at he
    obtain ⟨left, hleft, he⟩ := Decode.bind_eq_ok.mp he
    obtain ⟨right, hright, he⟩ := Decode.bind_eq_ok.mp he
    obtain rfl := Except.ok.inj he
    obtain ⟨hl, hcanonicall⟩ := readsBack_operand ihl hleft
    obtain ⟨hr, hcanonicalr⟩ := readsBack_operand ihr hright
    exact ⟨by rw [toValue, hl, hr], isCanonical_compare_iff.mpr ⟨hcanonicall, hcanonicalr⟩⟩

/-! ## To the wire -/

theorem ofValue_toValue_binding {b : Binding} (h : b.isPlain) :
    ofValue b.toValue = .ok (.test b) := by
  cases b with
  | literal v => exact ofValue_of_not_isForm (Binding.isPlain_literal_iff.mp h)
  | reference path => rfl

mutual

theorem ofValue_toValue : {e : Expr} → e.isCanonical → ofValue (toValue e) = .ok e
  | .all es, h => by rw [toValue, ofValue_all, ofItems_toItems h]; rfl
  | .any es, h => by rw [toValue, ofValue_any, ofItems_toItems h]; rfl
  | .not e, h => by
    have he : isCanonical e := h
    rw [toValue, ofValue_not, ofValue_toValue he]
    rfl
  | .compare op l r, h => by
    obtain ⟨hl, hr⟩ := isCanonical_compare_iff.mp h
    exact ofValue_compare op (ofValue_operandToValue hl) (ofValue_operandToValue hr)
  | .test b, h => ofValue_toValue_binding h

theorem ofItems_toItems : {es : List Expr} → isCanonicalItems es → ofItems (toItems es) = .ok es
  | [], _ => rfl
  | e :: es, h => by
    obtain ⟨he, hes⟩ := isCanonicalItems_cons_iff.mp h
    rw [toItems, ofItems, ofValue_toValue he, ofItems_toItems hes]
    rfl

theorem ofValue_operandToValue : {o : Operand} → isCanonicalOperand o →
    Operand.ofValue (operandToValue o) (ofValue (operandToValue o)) = .ok o
  | .value (.literal v), h => by
    obtain ⟨hv, hauth⟩ := isCanonicalOperand_literal_iff.mp h
    rw [operandToValue, Binding.toValue, Operand.ofValue_of_not_isForm hv, Operand.ofLiteral, hauth]
    rfl
  | .value (.reference path), _ => rfl
  | .expr e, h => by
    obtain ⟨he, hexpr⟩ := isCanonicalOperand_expr_iff.mp h
    rw [operandToValue, Operand.ofValue, isExpr_toValue he, hexpr, ofValue_toValue he]
    rfl

end

/-- An object that has an entry `auth` among others comes back as a test, and not as a literal. -/
example :
    isCanonicalOperand (.expr (.literal (.obj [("auth", .str "admin"), ("role", .null)]))) ∧
      isCanonicalOperand (.value (.literal (.obj [("auth", .str "admin"), ("role", .null)]))) =
        false := by
  decide

/-- Every accepted value is what is written for it, and exactly the canonical expressions are
read as they were before they were written. -/
theorem wire_round_trip :
    (∀ v e, ofValue v = .ok e → toValue e = v) ∧
    ∀ e : Expr, ofValue (toValue e) = .ok e ↔ e.isCanonical := by
  refine ⟨fun v e h => (readsBack v e h).1, fun e => ⟨fun h => ?_, ofValue_toValue⟩⟩
  exact (readsBack (toValue e) e h).2

end Expr

end ScreenLogic
