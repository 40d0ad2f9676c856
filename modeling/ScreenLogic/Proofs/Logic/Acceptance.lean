import ScreenLogic.Proofs.Logic.RoundTrip

/-!
# Accepted expressions

Whether a value is accepted as an expression can be told from the places in it where expressions
are read: none of the values there may be at fault. If some are, the error is that of the first
one, where a value comes before those inside of it and these come from left to right. An auth leaf
at any such place is a fault, and so no leaf of what is accepted is one.

## Main definitions

* `Expr.positions`: the values at the places where expressions are read.

## Main statements

* `Expr.error?_ofValue`: the error is that of the first value at fault.
* `Expr.accepted_iff_faultless`: this, and that no leaf is an auth leaf.
-/

namespace ScreenLogic.Expr

mutual

/-- The values at the places of a value where expressions are read, each one before those inside
of it, and from left to right. -/
def positions : Value → List Value
  | .obj [(key, operand)] =>
    .obj [(key, operand)] ::
      match Operator.ofKey? key with
      | some .all | some .any =>
        match operand with
        | .arr items => itemPositions items
        | _ => []
      | some .not => positions operand
      | some (.compare _) =>
        match operand with
        | .arr operands => operandPositions operands
        | _ => []
      | none => []
  | v => [v]
termination_by structural v => v

def itemPositions : List Value → List Value
  | [] => []
  | v :: rest => positions v ++ itemPositions rest
termination_by structural v => v

/-- An operand is such a place if it is an operator or has an entry `auth`. -/
def operandPositions : List Value → List Value
  | [] => []
  | v :: rest => (if Operand.isExpr v then positions v else []) ++ operandPositions rest
termination_by structural v => v

end

theorem positions_of_isTest {v : Value} (h : v.IsTest) : positions v = [v] := by
  unfold positions
  split
  · rename_i key operand
    obtain ⟨hauth, hop⟩ := h key operand rfl
    rw [hop]
  · rfl

theorem exists_positions_eq_cons (v : Value) : ∃ below, positions v = v :: below := by
  unfold positions
  split <;> exact ⟨_, rfl⟩

theorem positions_compare (op : Comparison) (l r : Value) :
    positions (.obj [(op.key, .arr [l, r])]) =
      .obj [(op.key, .arr [l, r])] :: operandPositions [l, r] := by
  cases op <;> rfl

/-! ## The first fault -/

theorem error?_items {items : List Value}
    (ih : ∀ v ∈ items, Decode.error? (ofValue v) = (positions v).findSome? Value.fault?) :
    Decode.error? (ofItems items) = (itemPositions items).findSome? Value.fault? := by
  induction items with
  | nil => rfl
  | cons v items ihItems =>
    rw [ofItems, Decode.error?_both, itemPositions, List.findSome?_append,
      ih v (List.mem_cons_self ..), ihItems fun w hw => ih w (List.mem_cons_of_mem v hw)]

theorem error?_operand {v : Value}
    (ih : Decode.error? (ofValue v) = (positions v).findSome? Value.fault?) :
    Decode.error? (Operand.ofValue v (ofValue v)) =
      (if Operand.isExpr v then positions v else []).findSome? Value.fault? := by
  unfold Operand.ofValue
  split
  · rw [Decode.error?_map, ih]
  · rfl

/-- The error is that of the first value at fault. -/
theorem error?_ofValue (v : Value) :
    Decode.error? (ofValue v) = (positions v).findSome? Value.fault? := by
  induction v using Value.expr_induction with
  | test v h =>
    rw [ofValue_of_isTest h, positions_of_isTest h, List.findSome?_cons, Value.fault?_of_isTest h]
    rfl
  | faulty v error h =>
    obtain ⟨below, hbelow⟩ := exists_positions_eq_cons v
    rw [ofValue_of_fault? h, hbelow, List.findSome?_cons, h]
    rfl
  | all items ih =>
    rw [ofValue_all, Decode.error?_map, error?_items ih]
    rfl
  | any items ih =>
    rw [ofValue_any, Decode.error?_map, error?_items ih]
    rfl
  | not operand ih =>
    rw [ofValue_not, Decode.error?_map, ih]
    rfl
  | compare op l r ihl ihr =>
    have hfault : Value.fault? (.obj [(op.key, .arr [l, r])]) = none := by cases op <;> rfl
    rw [ofValue_compare_eq, Decode.error?_both, error?_operand ihl, error?_operand ihr,
      positions_compare, List.findSome?_cons, hfault]
    simp only [operandPositions, List.append_nil, List.findSome?_append]

/-- An auth leaf deep inside the first item comes before a comparison without operands. -/
example :
    Decode.error? (ofValue (.obj [("or", .arr [
      .obj [("eq", .arr [.obj [("not", .obj [("auth", .str "admin")])], .null])],
      .obj [("gt", .arr [])]])])) = some (.authNotNestable "admin") := by
  decide

/-! ## Leaves -/

mutual

theorem isPlain_of_mem_leaves : {e : Expr} → e.isCanonical → ∀ b ∈ leaves e, b.isPlain
  | .all _, h | .any _, h => isPlain_of_mem_itemLeaves h
  | .not e, h => @isPlain_of_mem_leaves e h
  | .compare _ l r, h => by
    obtain ⟨hl, hr⟩ := isCanonical_compare_iff.mp h
    exact List.forall_mem_append.mpr
      ⟨isPlain_of_mem_operandLeaves hl, isPlain_of_mem_operandLeaves hr⟩
  | .test b, h => List.forall_mem_singleton.mpr h

theorem isPlain_of_mem_itemLeaves : {es : List Expr} → isCanonicalItems es →
    ∀ b ∈ itemLeaves es, b.isPlain
  | [], _ => List.forall_mem_nil _
  | e :: es, h => by
    obtain ⟨he, hes⟩ := isCanonicalItems_cons_iff.mp h
    exact List.forall_mem_append.mpr ⟨isPlain_of_mem_leaves he, isPlain_of_mem_itemLeaves hes⟩

theorem isPlain_of_mem_operandLeaves : {o : Operand} → isCanonicalOperand o →
    ∀ b ∈ operandLeaves o, b.isPlain
  | .value (.literal v), h => by
    obtain ⟨hv, -⟩ := isCanonicalOperand_literal_iff.mp h
    exact List.forall_mem_singleton.mpr (Binding.isPlain_literal_iff.mpr hv)
  | .value (.reference _), _ => List.forall_mem_singleton.mpr rfl
  | .expr e, h => by
    obtain ⟨he, -⟩ := isCanonicalOperand_expr_iff.mp h
    exact isPlain_of_mem_leaves he

end

/-- A value is accepted exactly if nothing is at fault where expressions are read in it, and
otherwise the error is that of the first value at fault. No leaf of what is accepted is an auth
leaf, at any depth. -/
theorem accepted_iff_faultless (v : Value) :
    ((∃ e, ofValue v = .ok e) ↔ ∀ place ∈ positions v, place.fault? = none) ∧
    (∀ error, ofValue v = .error error ↔
      ∃ former place later, positions v = former ++ place :: later ∧
        (∀ earlier ∈ former, earlier.fault? = none) ∧ place.fault? = some error) ∧
    (∀ e, ofValue v = .ok e → ∀ b ∈ leaves e, ∀ condition,
      b ≠ .literal (.obj [("auth", condition)])) := by
  refine ⟨?_, fun error => ?_, ?_⟩
  · rw [← Decode.error?_eq_none_iff, error?_ofValue, List.findSome?_eq_none_iff]
  · rw [← Decode.error?_eq_some_iff, error?_ofValue, List.findSome?_eq_some_iff]
    constructor
    · rintro ⟨former, place, later, hplaces, hfault, hformer⟩
      exact ⟨former, place, later, hplaces, hformer, hfault⟩
    · rintro ⟨former, place, later, hplaces, hformer, hfault⟩
      exact ⟨former, place, later, hplaces, hfault, hformer⟩
  · rintro e he b hb condition rfl
    have hplain := isPlain_of_mem_leaves (readsBack v e he).2 _ hb
    have hform := Binding.isPlain_literal_iff.mp hplain
    simp [Value.isForm] at hform

end ScreenLogic.Expr
