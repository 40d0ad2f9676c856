import ScreenLogic.Pattern.Basic

/-!
# Stretches of a text

Which stretches a pattern describes is read off its parts. A stretch goes forward and stays in the
text, so that of several stretches in a row those that are empty can be left out.

## Main definitions

* `Pattern.Forward`: what the beginning and the end of a stretch have to do with each other.

## Main statements

* `Pattern.Matches.forward`: where stretches end.
* `Pattern.Repeats.exists_le`: repetitions as many as characters are enough.
-/

namespace ScreenLogic.Pattern

variable {text : List Char} {p q : Pattern} {i j n : Nat}

/-! ## Compound patterns -/

theorem matches_empty_iff : Matches text .empty i j ↔ i = j := by
  constructor
  · intro h
    cases h
    rfl
  · rintro rfl
    exact .empty

theorem matches_char_iff {set : Text.CharSet} :
    Matches text (.char set) i j ↔ j = i + 1 ∧ ∃ c, text[i]? = some c ∧ set.contains c := by
  constructor
  · intro h
    cases h with
    | char hc hset => exact ⟨rfl, _, hc, hset⟩
  · rintro ⟨rfl, c, hc, hset⟩
    exact .char hc hset

theorem matches_look_iff {l : Look} :
    Matches text (.look l) i j ↔ i = j ∧ l.holds (before text i) text[i]? := by
  constructor
  · intro h
    cases h with
    | look hholds => exact ⟨rfl, hholds⟩
  · rintro ⟨rfl, hholds⟩
    exact .look hholds

theorem matches_seq_iff :
    Matches text (.seq p q) i j ↔ ∃ k, Matches text p i k ∧ Matches text q k j := by
  constructor
  · intro h
    cases h with
    | seq hfirst hsecond => exact ⟨_, hfirst, hsecond⟩
  · rintro ⟨k, hfirst, hsecond⟩
    exact .seq hfirst hsecond

theorem matches_alt_iff :
    Matches text (.alt p q) i j ↔ Matches text p i j ∨ Matches text q i j := by
  constructor
  · intro h
    cases h with
    | altFirst h => exact .inl h
    | altSecond h => exact .inr h
  · rintro (h | h)
    · exact .altFirst h
    · exact .altSecond h

theorem matches_times_iff {min : Nat} {max : Option Nat} :
    Matches text (.times min max p) i j ↔
      ∃ n, min ≤ n ∧ (∀ m, max = some m → n ≤ m) ∧ Repeats text p n i j := by
  constructor
  · intro h
    cases h with
    | times hmin hmax hrepeats => exact ⟨_, hmin, hmax, hrepeats⟩
  · rintro ⟨n, hmin, hmax, hrepeats⟩
    exact .times hmin hmax hrepeats

theorem matches_seq_assoc {r : Pattern} :
    Matches text (.seq p (.seq q r)) i j ↔ Matches text (.seq (.seq p q) r) i j := by
  simp only [matches_seq_iff]
  constructor
  · rintro ⟨k, hp, l, hq, hr⟩
    exact ⟨l, ⟨k, hp, hq⟩, hr⟩
  · rintro ⟨l, ⟨k, hp, hq⟩, hr⟩
    exact ⟨k, hp, l, hq, hr⟩

/-! ## Repetitions -/

theorem repeats_zero_iff : Repeats text p 0 i j ↔ i = j := by
  constructor
  · intro h
    cases h
    rfl
  · rintro rfl
    exact .done

theorem repeats_succ_iff :
    Repeats text p (n + 1) i j ↔ ∃ k, Repeats text p n i k ∧ Matches text p k j := by
  constructor
  · intro h
    cases h with
    | more hmany hone => exact ⟨_, hmany, hone⟩
  · rintro ⟨k, hmany, hone⟩
    exact .more hmany hone

/-- Stretches in a row are followed by stretches in a row. -/
theorem repeats_add_iff {m : Nat} :
    Repeats text p (m + n) i j ↔ ∃ k, Repeats text p m i k ∧ Repeats text p n k j := by
  induction n generalizing j with
  | zero => simp [repeats_zero_iff]
  | succ n ih =>
    rw [← Nat.add_assoc, repeats_succ_iff]
    simp only [ih, repeats_succ_iff]
    constructor
    · rintro ⟨l, ⟨k, hfirst, hmany⟩, hone⟩
      exact ⟨k, hfirst, l, hmany, hone⟩
    · rintro ⟨k, hfirst, l, hmany, hone⟩
      exact ⟨l, ⟨k, hfirst, hmany⟩, hone⟩

/-- The first of several stretches in a row taken apart. -/
theorem repeats_succ_iff_head :
    Repeats text p (n + 1) i j ↔ ∃ k, Matches text p i k ∧ Repeats text p n k j := by
  rw [Nat.add_comm, repeats_add_iff]
  simp [repeats_succ_iff, repeats_zero_iff]

/-! ## Positions -/

/-- Position `j` does not come before position `i`, and is in the text if `i` is. -/
structure Forward (text : List Char) (i j : Nat) : Prop where
  le : i ≤ j
  le_length : i ≤ text.length → j ≤ text.length

theorem Forward.refl (text : List Char) (i : Nat) : Forward text i i := ⟨Nat.le_refl i, id⟩

theorem Forward.trans {k : Nat} (h : Forward text i k) (h' : Forward text k j) :
    Forward text i j :=
  ⟨Nat.le_trans h.le h'.le, fun hi => h'.le_length (h.le_length hi)⟩

theorem Repeats.forward_of (hp : ∀ {i j : Nat}, Matches text p i j → Forward text i j)
    (h : Repeats text p n i j) : Forward text i j := by
  induction n generalizing j with
  | zero =>
    obtain rfl := repeats_zero_iff.mp h
    exact .refl text i
  | succ n ih =>
    obtain ⟨k, hmany, hone⟩ := repeats_succ_iff.mp h
    exact (ih hmany).trans (hp hone)

theorem Matches.forward (h : Matches text p i j) : Forward text i j := by
  induction p generalizing i j with
  | empty =>
    obtain rfl := matches_empty_iff.mp h
    exact .refl text i
  | char set =>
    obtain ⟨rfl, c, hc, -⟩ := matches_char_iff.mp h
    obtain ⟨hi, -⟩ := List.getElem?_eq_some_iff.mp hc
    exact ⟨Nat.le_succ i, fun _ => hi⟩
  | look l =>
    obtain ⟨rfl, -⟩ := matches_look_iff.mp h
    exact .refl text i
  | seq p q ihp ihq =>
    obtain ⟨k, hfirst, hsecond⟩ := matches_seq_iff.mp h
    exact (ihp hfirst).trans (ihq hsecond)
  | alt p q ihp ihq =>
    obtain h | h := matches_alt_iff.mp h
    · exact ihp h
    · exact ihq h
  | times min max p ih =>
    obtain ⟨n, -, -, hrepeats⟩ := matches_times_iff.mp h
    exact hrepeats.forward_of ih

theorem Repeats.forward (h : Repeats text p n i j) : Forward text i j :=
  h.forward_of Matches.forward

/-- Stretches in a row can be reduced to those that are not empty. -/
theorem Repeats.exists_le (h : Repeats text p n i j) :
    ∃ m ≤ n, m ≤ j - i ∧ Repeats text p m i j := by
  induction n generalizing j with
  | zero => exact ⟨0, Nat.le_refl 0, Nat.zero_le _, h⟩
  | succ n ih =>
    obtain ⟨k, hmany, hone⟩ := repeats_succ_iff.mp h
    obtain ⟨m, hmn, hmk, hfew⟩ := ih hmany
    have hik := hmany.forward.le
    obtain rfl | hlt := Nat.eq_or_lt_of_le hone.forward.le
    · exact ⟨m, Nat.le_succ_of_le hmn, hmk, hfew⟩
    · exact ⟨m + 1, Nat.succ_le_succ hmn, by omega, .more hfew hone⟩

end ScreenLogic.Pattern
