import ScreenLogic.Decode.Basic

/-!
# What an accepted value was read from

A decoder that accepts has read each part of its result by the decoder of that part, and one
that refuses has the error of the first part that was refused.
-/

namespace ScreenLogic.Decode

variable {α β ε : Type}

theorem bind_eq_ok {x : Except ε α} {f : α → Except ε β} {b : β} :
    x >>= f = .ok b ↔ ∃ a, x = .ok a ∧ f a = .ok b := by
  cases x with
  | ok a => simp [bind, Except.bind]
  | error e => simp [bind, Except.bind]

theorem map_eq_ok {x : Except ε α} {f : α → β} {b : β} :
    x.map f = .ok b ↔ ∃ a, x = .ok a ∧ f a = b := by
  cases x <;> simp [Except.map]

theorem need_eq_ok {present : Fields Value} {field : String} {decode : Decoder α} {a : α} :
    need present field decode = .ok a ↔
      ∃ v, Fields.get? present field = some v ∧ decode v = .ok a := by
  unfold need
  cases Fields.get? present field <;> simp

/-- Each item was read by the decoder of items. -/
theorem exists_decode_of_mem_items {decode : Decoder α} {vs : List Value} {as : List α}
    (h : items decode vs = .ok as) {a : α} (ha : a ∈ as) : ∃ v, decode v = .ok a := by
  induction vs generalizing as with
  | nil =>
    obtain rfl := Except.ok.inj h
    cases ha
  | cons v vs ih =>
    obtain ⟨first, hfirst, h⟩ := bind_eq_ok.mp h
    obtain ⟨rest, hrest, h⟩ := bind_eq_ok.mp h
    obtain rfl := Except.ok.inj h
    rcases List.mem_cons.mp ha with rfl | ha
    · exact ⟨v, hfirst⟩
    · exact ih hrest ha

theorem exists_decode_of_mem_list {decode : Decoder α} {v : Value} {as : List α}
    (h : list decode v = .ok as) {a : α} (ha : a ∈ as) : ∃ v, decode v = .ok a := by
  unfold list at h
  split at h
  · exact exists_decode_of_mem_items h ha
  · cases h

/-! ## Errors -/

/-- The error of a computation that failed. -/
def error? : Except ε α → Option ε
  | .ok _ => none
  | .error e => some e

theorem error?_eq_none_iff (x : Except ε α) : error? x = none ↔ ∃ a, x = .ok a := by
  cases x <;> simp [error?]

theorem error?_eq_some_iff (x : Except ε α) (e : ε) : error? x = some e ↔ x = .error e := by
  cases x <;> simp [error?]

@[simp] theorem error?_map (x : Except ε α) (f : α → β) : error? (x.map f) = error? x := by
  cases x <;> rfl

/-- Of two computations in a row, the first that fails decides. -/
theorem error?_both {γ : Type} (x : Except ε α) (y : Except ε β) (f : α → β → γ) :
    error? (do let a ← x; let b ← y; return f a b) = (error? x).or (error? y) := by
  cases x <;> cases y <;> rfl

end ScreenLogic.Decode
