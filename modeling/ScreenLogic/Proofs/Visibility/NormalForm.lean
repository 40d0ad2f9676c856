import ScreenLogic.Proofs.Logic.RoundTrip
import ScreenLogic.Visibility.Wire

/-!
# The normal form of visibility conditions

What is written for a condition is its normal form, the object with a list of entries and a
combination. It is read as the condition that it was written for, if that was itself read from
the wire: each entry of such a condition is written as it was read, so that it is told apart from
the other kinds of entries in the same way again. Shorthands are lists of one entry.

## Main statements

* `ConditionEntry.toValue_eq_of_ofValue`: entries are written as they were read.
* `Condition.ofValue_of_items`: how the full form is read, and which error comes first.
* `Condition.normal_form`: the normal form, the shorthands and the errors.
-/

namespace ScreenLogic

theorem AuthCondition.name_ofName (name : String) : (ofName name).name = name := by
  unfold ofName
  split
  · rename_i h
    rw [h, AuthCondition.name]
  split
  · rename_i h
    rw [h, AuthCondition.name]
  · rfl

/-! ## Combinations -/

namespace Combination

theorem ofValue_key (logic : Combination) : ofValue (some (.str logic.key)) = .ok logic := by
  cases logic <;> rfl

/-- A combination that is given is `and` or `or`. -/
def IsValid (logic : Option Value) : Prop := ∀ v, logic = some v → v = .str "and" ∨ v = .str "or"

theorem exists_ofValue_iff {logic : Option Value} :
    (∃ combination, ofValue logic = .ok combination) ↔ IsValid logic := by
  cases logic with
  | none => exact ⟨fun _ => nofun, fun _ => ⟨.all, rfl⟩⟩
  | some v =>
    by_cases hall : v = .str "and"
    · simp [ofValue, IsValid, hall]
    by_cases hany : v = .str "or"
    · simp [ofValue, IsValid, hany]
    · simp [ofValue, IsValid, hall, hany]

theorem ofValue_eq_error_iff {logic : Option Value} {error : ExprError} :
    ofValue logic = .error error ↔
      ∃ v, logic = some v ∧ v ≠ .str "and" ∧ v ≠ .str "or" ∧ error = .invalidLogic v.plain := by
  cases logic with
  | none => simp [ofValue]
  | some v =>
    by_cases hall : v = .str "and"
    · simp [ofValue, hall]
    by_cases hany : v = .str "or"
    · simp [ofValue, hany]
    · simp [ofValue, hall, hany, eq_comm]

end Combination

/-! ## Entries -/

namespace ConditionEntry

/-- An entry that was read as an auth leaf is one again when it is written, and any other entry is
written as the expression that it was read as. -/
theorem toValue_eq_of_ofValue {v : Value} {entry : ConditionEntry} (h : ofValue v = .ok entry) :
    entry.toValue = v := by
  have hexpr : ∀ w : Value, (Expr.ofValue w).map ConditionEntry.expr = .ok entry →
      entry.toValue = w := by
    intro w hw
    obtain ⟨e, he, rfl⟩ := Decode.map_eq_ok.mp hw
    exact (Expr.readsBack w e he).1
  unfold ofValue at h
  split at h
  · rename_i key operand
    split at h
    · rename_i hkey
      split at h
      · rename_i name
        obtain rfl := Except.ok.inj h
        rw [toValue, AuthCondition.name_ofName, hkey]
      · cases h
    · exact hexpr _ h
  · exact hexpr v h

theorem ofItems_cons (v : Value) (rest : List Value) :
    ofItems (v :: rest) = do
      let entry ← ofValue v
      let entries ← ofItems rest
      return entry :: entries := rfl

theorem map_toValue_of_ofItems {items : List Value} {entries : List ConditionEntry}
    (h : ofItems items = .ok entries) : entries.map toValue = items := by
  induction items generalizing entries with
  | nil =>
    obtain rfl := Except.ok.inj h
    rfl
  | cons v items ih =>
    obtain ⟨entry, hentry, h⟩ := Decode.bind_eq_ok.mp h
    obtain ⟨rest, hrest, h⟩ := Decode.bind_eq_ok.mp h
    obtain rfl := Except.ok.inj h
    rw [List.map_cons, toValue_eq_of_ofValue hentry, ih hrest]

theorem ofItems_singleton (v : Value) : ofItems [v] = (ofValue v).map ([·]) := by
  rw [ofItems_cons]
  cases ofValue v <;> rfl

theorem error?_ofItems (items : List Value) :
    Decode.error? (ofItems items) = items.findSome? fun v => Decode.error? (ofValue v) := by
  induction items with
  | nil => rfl
  | cons v items ih =>
    rw [ofItems_cons, Decode.error?_both, ih, List.findSome?_cons]
    cases Decode.error? (ofValue v) <;> rfl

/-- The first entry that is refused decides. -/
theorem ofItems_eq_error_iff {items : List Value} {error : ExprError} :
    ofItems items = .error error ↔
      ∃ former v later, items = former ++ v :: later ∧
        (∀ w ∈ former, ∃ entry, ofValue w = .ok entry) ∧ ofValue v = .error error := by
  rw [← Decode.error?_eq_some_iff, error?_ofItems, List.findSome?_eq_some_iff]
  simp only [Decode.error?_eq_some_iff, Decode.error?_eq_none_iff]
  constructor
  · rintro ⟨former, v, later, hitems, hv, hformer⟩
    exact ⟨former, v, later, hitems, hformer, hv⟩
  · rintro ⟨former, v, later, hitems, hformer, hv⟩
    exact ⟨former, v, later, hitems, hv, hformer⟩

end ConditionEntry

/-! ## Conditions -/

namespace Condition

variable {v : Value}

theorem ofValue_of_items {items : List Value} (h : v.field? "conditions" = some (.arr items)) :
    ofValue v = do
      let logic ← Combination.ofValue (v.field? "logic")
      let entries ← ConditionEntry.ofItems items
      return ⟨entries, logic⟩ := by
  rw [ofValue, h]

theorem ofValue_of_shorthand (h : v.field? "conditions" = none) :
    ofValue v = do
      let entry ← ConditionEntry.ofValue v
      return ⟨[entry], .all⟩ := by
  rw [ofValue, h]

/-- A value that is not in full form is read like a list of which it is the only entry. -/
theorem ofValue_eq_of_shorthand (h : v.field? "conditions" = none) :
    ofValue v = ofValue (.obj [("conditions", .arr [v])]) := by
  have hwrapped : (Value.obj [("conditions", .arr [v])]).field? "conditions" = some (.arr [v]) :=
    rfl
  rw [ofValue_of_shorthand h, ofValue_of_items hwrapped, ConditionEntry.ofItems_singleton]
  cases ConditionEntry.ofValue v <;> rfl

/-- Whatever form a condition was read from, its entries were read from a list. -/
theorem exists_items_of_ofValue {c : Condition} (h : ofValue v = .ok c) :
    ∃ items, ConditionEntry.ofItems items = .ok c.entries := by
  cases hfull : v.field? "conditions" with
  | none =>
    rw [ofValue_of_shorthand hfull] at h
    obtain ⟨entry, hentry, h⟩ := Decode.bind_eq_ok.mp h
    obtain rfl := Except.ok.inj h
    refine ⟨[v], ?_⟩
    rw [ConditionEntry.ofItems_singleton, hentry]
    rfl
  | some conditions =>
    rw [ofValue, hfull] at h
    obtain ⟨logic, -, h⟩ := Decode.bind_eq_ok.mp h
    cases conditions with
    | arr items =>
      obtain ⟨entries, hentries, h⟩ := Decode.bind_eq_ok.mp h
      obtain rfl := Except.ok.inj h
      exact ⟨items, hentries⟩
    | null | bool | num | str | obj => cases h

/-- The normal form of a condition that was read is read as that condition. -/
theorem ofValue_toValue {c : Condition} (h : ofValue v = .ok c) : ofValue c.toValue = .ok c := by
  obtain ⟨items, hitems⟩ := exists_items_of_ofValue h
  have hfull : c.toValue.field? "conditions" = some (.arr items) := by
    rw [← ConditionEntry.map_toValue_of_ofItems hitems]
    rfl
  have hlogic : c.toValue.field? "logic" = some (.str c.logic.key) := rfl
  rw [ofValue_of_items hfull, hlogic, Combination.ofValue_key, hitems]
  rfl

/-- An invalid combination is the error, whatever the entries are. -/
theorem ofValue_of_invalidLogic {conditions : Value} {error : ExprError}
    (h : v.field? "conditions" = some conditions)
    (hlogic : Combination.ofValue (v.field? "logic") = .error error) :
    ofValue v = .error error := by
  rw [ofValue, h]
  dsimp only
  rw [hlogic]
  rfl

theorem ofValue_eq_error_iff {items : List Value} (h : v.field? "conditions" = some (.arr items))
    (hlogic : Combination.IsValid (v.field? "logic")) {error : ExprError} :
    ofValue v = .error error ↔ ConditionEntry.ofItems items = .error error := by
  obtain ⟨logic, hlogic⟩ := Combination.exists_ofValue_iff.mpr hlogic
  rw [ofValue_of_items h, hlogic]
  cases ConditionEntry.ofItems items with
  | ok entries => simp [bind, Except.bind, pure, Except.pure]
  | error cause => simp [bind, Except.bind]

/-- What is written for an accepted condition is an object of two entries, which is read as the
same condition. Any value that has no entry `conditions` is read, or refused, like a list of which
it is the only entry. In full form a combination that is neither `and` nor `or` is the error
before anything else, and then the first entry that is refused. -/
theorem normal_form (v : Value) :
    (∀ c, ofValue v = .ok c →
      (∃ conditions logic, c.toValue =
        .obj [("conditions", conditions), ("logic", logic)]) ∧
      ofValue c.toValue = .ok c ∧
      ∀ again, ofValue c.toValue = .ok again → again.toValue = c.toValue ∧
        ∀ model auth, isVisible model auth (some again) = isVisible model auth (some c)) ∧
    (v.field? "conditions" = none →
      ofValue v = ofValue (.obj [("conditions", .arr [v])])) ∧
    (∀ conditions logic, v.field? "conditions" = some conditions →
      v.field? "logic" = some logic → logic ≠ .str "and" → logic ≠ .str "or" →
      ofValue v = .error (.invalidLogic logic.plain)) ∧
    ∀ items, v.field? "conditions" = some (.arr items) →
      Combination.IsValid (v.field? "logic") → ∀ error, ofValue v = .error error ↔
        ∃ former item later, items = former ++ item :: later ∧
          (∀ earlier ∈ former, ∃ entry, ConditionEntry.ofValue earlier = .ok entry) ∧
          ConditionEntry.ofValue item = .error error := by
  refine ⟨fun c h => ⟨⟨_, _, rfl⟩, ofValue_toValue h, fun again hagain => ?_⟩,
    ofValue_eq_of_shorthand, ?_, ?_⟩
  · obtain rfl := Except.ok.inj ((ofValue_toValue h).symm.trans hagain)
    exact ⟨rfl, fun _ _ => rfl⟩
  · intro conditions logic hfull hlogic hall hany
    exact ofValue_of_invalidLogic hfull
      (Combination.ofValue_eq_error_iff.mpr ⟨logic, hlogic, hall, hany, rfl⟩)
  · intro items hfull hlogic error
    rw [ofValue_eq_error_iff hfull hlogic, ConditionEntry.ofItems_eq_error_iff]

/-- The combination is at fault, and so is the only entry. -/
example :
    ofValue (.obj [("conditions", .arr [.obj [("auth", .null)]]), ("logic", .str "xor")]) =
      .error (.invalidLogic "xor") := rfl

end Condition

end ScreenLogic
