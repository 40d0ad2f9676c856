import ScreenLogic.Proofs.Decode

/-!
# Decoders that settle

A value has many spellings, of which one is written. A decoder settles if what it has read comes
back when it is written and read again.

## Main definitions

* `Decode.Settles`: what was read comes back.

## Main statements

* `Decode.list_map_iff`, `Decode.entries_mapValues_iff`, `Decode.optional_map_iff`: items survive
  the wire together if each of them does.
-/

namespace ScreenLogic.Decode

variable {α : Type}

/-- What was read comes back when it is written and read again. -/
def Settles (decode : Decoder α) (toValue : α → Value) : Prop :=
  ∀ v a, decode v = .ok a → decode (toValue a) = .ok a

variable {decode : Decoder α} {write : α → Value}

theorem settles_of_forall (h : ∀ a, decode (write a) = .ok a) : Settles decode write :=
  fun _ a _ => h a

theorem settles_text : Settles text .str := settles_of_forall fun _ => rfl

theorem settles_flag : Settles flag .bool := settles_of_forall fun _ => rfl

theorem expression_eq_ok_iff {read : Value → Except ExprError α} {v : Value} {a : α} :
    expression read v = .ok a ↔ read v = .ok a := by
  unfold expression
  cases read v with
  | ok b =>
    change (Except.ok b : Except DecodeError α) = .ok a ↔ _
    rw [Except.ok.injEq, Except.ok.injEq]
  | error e => exact ⟨nofun, nofun⟩

/-! ## Lists -/

theorem items_map_iff {as : List α} :
    items decode (as.map write) = .ok as ↔ ∀ a ∈ as, decode (write a) = .ok a := by
  induction as with
  | nil => simp [items]
  | cons a as ih =>
    rw [List.map_cons, items, List.forall_mem_cons, ← ih]
    simp [bind_eq_ok, pure, Except.pure]

theorem list_map_iff {as : List α} :
    list decode (.arr (as.map write)) = .ok as ↔ ∀ a ∈ as, decode (write a) = .ok a :=
  items_map_iff

theorem settles_list (h : Settles decode write) :
    Settles (list decode) fun as => .arr (as.map write) := by
  intro _ as has
  refine list_map_iff.mpr fun a ha => ?_
  obtain ⟨v, hv⟩ := exists_decode_of_mem_list has ha
  exact h v a hv

/-! ## Named entries -/

theorem entries_mapValues_iff {as : Fields α} :
    entries decode (.obj (Fields.mapValues write as)) = .ok as ↔
      ∀ a ∈ as, decode (write a.2) = .ok a.2 := by
  change namedItems decode (as.map fun entry => (entry.1, write entry.2)) = _ ↔ _
  induction as with
  | nil => simp [namedItems]
  | cons a as ih =>
    obtain ⟨name, a⟩ := a
    rw [List.map_cons, namedItems, List.forall_mem_cons, ← ih]
    simp [bind_eq_ok, pure, Except.pure]

theorem exists_decode_of_mem_namedItems {entries : List (String × Value)} {as : Fields α}
    (h : namedItems decode entries = .ok as) {a : String × α} (ha : a ∈ as) :
    ∃ v, decode v = .ok a.2 := by
  induction entries generalizing as with
  | nil =>
    obtain rfl := Except.ok.inj h
    cases ha
  | cons entry entries ih =>
    obtain ⟨first, hfirst, h⟩ := bind_eq_ok.mp h
    obtain ⟨rest, hrest, h⟩ := bind_eq_ok.mp h
    obtain rfl := Except.ok.inj h
    rcases List.mem_cons.mp ha with rfl | ha
    · exact ⟨entry.2, hfirst⟩
    · exact ih hrest ha

theorem exists_decode_of_mem_entries {v : Value} {as : Fields α} (h : entries decode v = .ok as)
    {a : String × α} (ha : a ∈ as) : ∃ v, decode v = .ok a.2 := by
  unfold entries at h
  split at h
  · exact exists_decode_of_mem_namedItems h ha
  · cases h

/-! ## Options -/

theorem optional_of_ne_null {v : Value} (h : v ≠ .null) :
    optional decode v = (decode v).map some := by
  unfold optional
  split
  · exact absurd rfl h
  · rfl

theorem decode_of_optional {v : Value} {a : α} (h : optional decode v = .ok (some a)) :
    v ≠ .null ∧ decode v = .ok a := by
  have hv : v ≠ .null := by
    rintro rfl
    cases h
  rw [optional_of_ne_null hv, map_eq_ok] at h
  obtain ⟨_, ha, heq⟩ := h
  obtain rfl := Option.some.inj heq
  exact ⟨hv, ha⟩

/-- What is absent is not written, and so a null would be lost. -/
theorem optional_map_iff {o : Option α} :
    (o.map write).elim (.ok none) (optional decode) = .ok o ↔
      ∀ a, o = some a → write a ≠ .null ∧ decode (write a) = .ok a := by
  cases o with
  | none => simp
  | some a =>
    simp only [Option.map_some, Option.elim_some, Option.some.injEq, forall_eq']
    refine ⟨decode_of_optional, fun ⟨hnull, ha⟩ => ?_⟩
    rw [optional_of_ne_null hnull, ha]
    rfl

end ScreenLogic.Decode
