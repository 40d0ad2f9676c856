import Mathlib.Data.List.Sort
import ScreenLogic.Proofs.Fields
import ScreenLogic.Proofs.Value.Equality

/-!
# Equal values are alike

Of a number strict equality sees only its units, neither whether it is an integer or a double nor
the sign of zero. Two values are equal exactly if they are the same value once each number in them
is replaced by its units. So equality is an equivalence, and neither truth nor equality nor order
tells equal values apart.

Objects may as well be compared by looking up: as their names are distinct, it is enough that they
have as many entries and that each entry of the first is found in the second.

## Main definitions

* `Value.inUnits`: a value with each number replaced by its units.

## Main statements

* `Fields.eq_iff_lookup`: entries are the same if there are as many and each is found.
* `Value.equals_iff_inUnits`: equality is sameness in units.
* `Value.strictEquals_congruence`: equality is an equivalence that truth and order respect, and
  equality of objects is decided by looking up.
-/

namespace ScreenLogic

/-! ## Looking up all entries -/

namespace Fields

variable {α β : Type}

theorem get?_mapValues (f : α → β) (fields : Fields α) (key : String) :
    get? (mapValues f fields) key = (get? fields key).map f := by
  induction fields with
  | nil => rfl
  | cons entry rest ih =>
    rw [get?_cons, apply_ite (Option.map f), ← ih]
    rfl

theorem wellFormed_mapValues (f : α → β) (fields : Fields α) :
    WellFormed (mapValues f fields) ↔ WellFormed fields := by
  simp [WellFormed, mapValues, List.pairwise_map]

/-- Entries in order of their names are the same as others if there are as many of them and each
is found among the others. Conversely nothing has to be looked up, since no name occurs twice. -/
theorem eq_iff_lookup {fields others : Fields α} (hfields : WellFormed fields)
    (hothers : WellFormed others) :
    fields = others ↔
      fields.length = others.length ∧ ∀ entry ∈ fields, get? others entry.1 = some entry.2 := by
  constructor
  · rintro rfl
    exact ⟨rfl, fun entry hentry => get?_eq_some_of_mem (nodup_keys hfields) hentry⟩
  · rintro ⟨hlength, hfound⟩
    have hsubset : fields ⊆ others := fun entry hentry => mem_of_get?_eq_some (hfound entry hentry)
    have hnodup : fields.Nodup := (nodup_keys hfields).of_map
    -- Distinct entries that are all found leave none of the others over.
    have hperm : fields.Perm others :=
      (List.subperm_of_subset hnodup hsubset).perm_of_length_le (Nat.le_of_eq hlength.symm)
    refine hperm.eq_of_pairwise (fun a b _ _ hab hba => ?_) hfields hothers
    exact absurd (String.lt_trans hab hba) (String.lt_irrefl _)

end Fields

namespace Value

/-! ## Sameness in units -/

mutual

/-- A value with each number replaced by its units. -/
def inUnits : Value → Value
  | .null => .null
  | .bool b => .bool b
  | .num n => .num (.int n.units)
  | .str s => .str s
  | .arr items => .arr (itemsInUnits items)
  | .obj fields => .obj (fieldsInUnits fields)
termination_by structural v => v

def itemsInUnits : List Value → List Value
  | [] => []
  | v :: rest => inUnits v :: itemsInUnits rest
termination_by structural v => v

def fieldsInUnits : List (String × Value) → List (String × Value)
  | [] => []
  | (key, v) :: rest => (key, inUnits v) :: fieldsInUnits rest
termination_by structural v => v

end

theorem fieldsInUnits_eq_mapValues (fields : Fields Value) :
    fieldsInUnits fields = Fields.mapValues inUnits fields := by
  induction fields with
  | nil => rfl
  | cons entry rest ih => rw [fieldsInUnits, ih]; rfl

mutual

theorem equals_iff_inUnits : (a b : Value) → (equals a b = true ↔ inUnits a = inUnits b)
  | .null, b => by cases b <;> simp [equals, inUnits]
  | .bool _, b => by cases b <;> simp [equals, inUnits]
  | .num _, b => by cases b <;> simp [equals, inUnits, Number.same]
  | .str _, b => by cases b <;> simp [equals, inUnits]
  | .arr items, b => by cases b <;> simp [equals, inUnits, equalItems_iff_inUnits items]
  | .obj fields, b => by cases b <;> simp [equals, inUnits, equalFields_iff_inUnits fields]

theorem equalItems_iff_inUnits : (items others : List Value) →
    (equalItems items others = true ↔ itemsInUnits items = itemsInUnits others)
  | [], others => by cases others <;> simp [equalItems, itemsInUnits]
  | v :: rest, others => by
    cases others <;>
      simp [equalItems, itemsInUnits, equals_iff_inUnits v, equalItems_iff_inUnits rest]

theorem equalFields_iff_inUnits : (fields others : List (String × Value)) →
    (equalFields fields others = true ↔ fieldsInUnits fields = fieldsInUnits others)
  | [], others => by cases others <;> simp [equalFields, fieldsInUnits]
  | (_, v) :: rest, others => by
    cases others <;>
      simp [equalFields, fieldsInUnits, equals_iff_inUnits v, equalFields_iff_inUnits rest]

end

theorem strictEquals_iff_inUnits (a b : Option Value) :
    strictEquals a b = true ↔ a.map inUnits = b.map inUnits := by
  cases a <;> cases b <;> simp [strictEquals, equals_iff_inUnits]

/-! ## Equivalence -/

theorem strictEquals_comm (a b : Option Value) : strictEquals a b = strictEquals b a := by
  rw [Bool.eq_iff_iff, strictEquals_iff_inUnits, strictEquals_iff_inUnits]
  exact eq_comm

theorem strictEquals_equivalence :
    Equivalence fun a b : Option Value => strictEquals a b = true where
  refl := strictEquals_refl
  symm h := strictEquals_comm _ _ ▸ h
  trans hab hbc := by
    rw [strictEquals_iff_inUnits] at *
    exact hab.trans hbc

/-! ## What equal values share -/

theorem strictEquals_congr {a b : Option Value} (h : strictEquals a b) (c : Option Value) :
    strictEquals a c = strictEquals b c := by
  rw [Bool.eq_iff_iff, strictEquals_iff_inUnits, strictEquals_iff_inUnits,
    (strictEquals_iff_inUnits a b).mp h]

/-- Values that are equal and not the same are two numbers of the same units or two containers. -/
theorem strictEquals_cases {a b : Option Value} (h : strictEquals a b) :
    a = b ∨
    (∃ m n, a = some (.num m) ∧ b = some (.num n) ∧ m.units = n.units) ∨
    (∃ items others, a = some (.arr items) ∧ b = some (.arr others)) ∨
    ∃ fields others, a = some (.obj fields) ∧ b = some (.obj others) := by
  match a, b, h with
  | none, none, _ => exact .inl rfl
  | some a, some b, h =>
    cases a <;> cases b <;> simp_all [strictEquals, equals, Number.same]

theorem isTruthy_congr {a b : Option Value} (h : strictEquals a b) : isTruthy a = isTruthy b := by
  rcases strictEquals_cases h with rfl | ⟨m, n, rfl, rfl, hunits⟩ | ⟨_, _, rfl, rfl⟩ |
    ⟨_, _, rfl, rfl⟩
  · rfl
  · simp [isTruthy, Number.isZero, hunits]
  · rfl
  · rfl

theorem order_congr {a b : Option Value} (h : strictEquals a b) (c : Option Value) :
    order a c = order b c := by
  rcases strictEquals_cases h with rfl | ⟨m, n, rfl, rfl, hunits⟩ | ⟨_, _, rfl, rfl⟩ |
    ⟨_, _, rfl, rfl⟩
  · rfl
  · rcases c with _ | (_ | _ | _ | _ | _ | _) <;> simp [order, Number.compare, hunits]
  · rfl
  · rfl

/-- Equality of objects is decided by looking up the entries of the first in the second. -/
theorem strictEquals_obj_iff {fields others : Fields Value} (hfields : Fields.WellFormed fields)
    (hothers : Fields.WellFormed others) :
    strictEquals (some (.obj fields)) (some (.obj others)) ↔
      fields.length = others.length ∧
      ∀ entry ∈ fields, strictEquals (some entry.2) (Fields.get? others entry.1) := by
  have hlookup := Fields.eq_iff_lookup ((Fields.wellFormed_mapValues inUnits fields).mpr hfields)
    ((Fields.wellFormed_mapValues inUnits others).mpr hothers)
  have hentry (entry : String × Value) :
      strictEquals (some entry.2) (Fields.get? others entry.1) ↔
        Fields.get? (Fields.mapValues inUnits others) entry.1 = some (inUnits entry.2) := by
    rw [strictEquals_iff_inUnits, Fields.get?_mapValues, Option.map_some, eq_comm]
  rw [strictEquals, equals, equalFields_iff_inUnits, fieldsInUnits_eq_mapValues,
    fieldsInUnits_eq_mapValues, hlookup]
  simp only [hentry, Fields.mapValues, List.length_map, List.forall_mem_map]

/-- Strict equality is an equivalence of values that may be absent. Values that are equal count as
true alike, are equal to the same values, and stand in the same order to every value. Two objects
are equal if they have as many entries and each entry of the first is found in the second, and it
is enough to look in this direction. -/
theorem strictEquals_congruence :
    Equivalence (fun a b : Option Value => strictEquals a b = true) ∧
    (∀ a b, strictEquals a b → isTruthy a = isTruthy b ∧
      ∀ c, strictEquals a c = strictEquals b c ∧ order a c = order b c) ∧
    ∀ fields others : Fields Value, Fields.WellFormed fields → Fields.WellFormed others →
      (strictEquals (some (.obj fields)) (some (.obj others)) ↔
        fields.length = others.length ∧
        ∀ entry ∈ fields, strictEquals (some entry.2) (Fields.get? others entry.1)) :=
  ⟨strictEquals_equivalence,
    fun _ _ h => ⟨isTruthy_congr h, fun c => ⟨strictEquals_congr h c, order_congr h c⟩⟩,
    fun _ _ => strictEquals_obj_iff⟩

/-- Zero and the double that is negative zero, on their own and in an object. -/
theorem strictEquals_congruence_of_zeros :
    let zero : Value := .int 0
    let negative : Value := .num (.double Double.zero.neg)
    let fields : Fields Value := [("list", .arr [zero]), ("note", .null)]
    let others : Fields Value := [("list", .arr [negative]), ("note", .null)]
    strictEquals (some zero) (some negative) ∧ isTruthy (some zero) = isTruthy (some negative) ∧
      order (some zero) (some (.int 7)) = order (some negative) (some (.int 7)) ∧
      Fields.WellFormed fields ∧ Fields.WellFormed others ∧
      strictEquals (some (.obj fields)) (some (.obj others)) := by
  intro zero negative fields others
  obtain ⟨-, halike, hobj⟩ := strictEquals_congruence
  have hzero : strictEquals (some zero) (some negative) := by decide +kernel
  have hlist : strictEquals (some (.arr [zero])) (some (.arr [negative])) := by decide +kernel
  have hfields : Fields.WellFormed fields := by decide
  have hothers : Fields.WellFormed others := by decide
  obtain ⟨htruth, horder⟩ := halike _ _ hzero
  refine ⟨hzero, htruth, (horder _).2, hfields, hothers, (hobj _ _ hfields hothers).mpr ?_⟩
  exact ⟨rfl, List.forall_mem_cons.mpr ⟨hlist, List.forall_mem_singleton.mpr rfl⟩⟩

end Value

end ScreenLogic
