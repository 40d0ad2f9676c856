import ScreenLogic.Pattern.Search
import ScreenLogic.Proofs.Pattern.Matches

/-!
# What a search finds

A search carries a set of positions through a pattern. It is taken from the positions where
stretches of the pattern begin to those where they end, part by part. Repetitions are followed no
more often than the text is long, which is enough, as those that are empty can be left out.

## Main definitions

* `Pattern.Ordered`: patterns whose repetitions have bounds in order.
* `Pattern.Finds`: steps from the beginnings of the stretches of a pattern to their ends.

## Main statements

* `Pattern.finds_run_prepare`: what a search does with a set of positions.
* `Pattern.occurs_iff`: a search finds a pattern if and only if it occurs.
-/

namespace ScreenLogic.Pattern

/-- No repetition may be made less often than it must be. -/
def Ordered : Pattern → Prop
  | .empty => True
  | .char _ => True
  | .look _ => True
  | .seq p q => p.Ordered ∧ q.Ordered
  | .alt p q => p.Ordered ∧ q.Ordered
  | .times min max p => (∀ m, max = some m → min ≤ m) ∧ p.Ordered

variable {text : List Char} {p q : Pattern} {i j n : Nat}

/-! ## Sets of positions -/

theorem testBit_ofBits (bits : List Bool) (i : Nat) :
    (ofBits bits).testBit i = bits[i]?.getD false := by
  induction bits generalizing i with
  | nil => simp [ofBits]
  | cons b bits ih =>
    have hhalf : (2 * ofBits bits + b.toNat) / 2 = ofBits bits := by
      cases b <;> simp [Nat.mul_add_div]
    cases i with
    | zero => cases b <;> simp [ofBits, Nat.testBit_zero]
    | succ i => simp [ofBits, Nat.testBit_succ, hhalf, ih]

theorem getElem?_lookBits_zero (l : Look) (before : Option Char) (cs : List Char) :
    (lookBits l before cs)[0]? = some (l.holds before cs[0]?) := by
  cases cs <;> rfl

theorem getElem?_lookBits_succ (l : Look) (before : Option Char) {cs : List Char}
    (hi : i < cs.length) :
    (lookBits l before cs)[i + 1]? = some (l.holds cs[i]? cs[i + 1]?) := by
  induction cs generalizing before i with
  | nil => simp at hi
  | cons c cs ih =>
    cases i with
    | zero => simpa [lookBits] using getElem?_lookBits_zero l (some c) cs
    | succ i => simpa [lookBits] using ih (some c) (by simpa using hi)

/-- The positions of a text where a look holds. -/
theorem testBit_lookBits (l : Look) (hi : i ≤ text.length) :
    (ofBits (lookBits l none text)).testBit i = l.holds (before text i) text[i]? := by
  rw [testBit_ofBits]
  cases i with
  | zero => simp [getElem?_lookBits_zero, before]
  | succ i => simp [getElem?_lookBits_succ l none hi, before]

/-- The set holds positions of the text alone, its end included. -/
def Within (text : List Char) (set : Nat) : Prop := ∀ ⦃i : Nat⦄, set.testBit i → i ≤ text.length

/-- A step from the positions where stretches of the pattern begin to those where they end. -/
def Finds (text : List Char) (p : Pattern) (f : Nat → Nat) : Prop :=
  ∀ ⦃set : Nat⦄, Within text set →
    ∀ ⦃j : Nat⦄, (f set).testBit j ↔ ∃ i, set.testBit i ∧ Matches text p i j

namespace Finds

variable {f : Nat → Nat} {set : Nat}

theorem within (hf : Finds text p f) (hset : Within text set) : Within text (f set) := by
  intro j hj
  obtain ⟨i, hi, hmatch⟩ := (hf hset).mp hj
  exact hmatch.forward.le_length (hset hi)

theorem testBit_iterate (hf : Finds text p f) (hset : Within text set) :
    (iterate f n set).testBit j ↔ ∃ i, set.testBit i ∧ Repeats text p n i j := by
  induction n generalizing set with
  | zero => simp [iterate, repeats_zero_iff]
  | succ n ih =>
    rw [iterate]
    split
    · rename_i hempty
      simp [hempty]
    · rw [ih (hf.within hset)]
      simp only [hf hset, repeats_succ_iff_head]
      constructor
      · rintro ⟨k, ⟨i, hi, hone⟩, hmany⟩
        exact ⟨i, hi, k, hone, hmany⟩
      · rintro ⟨i, hi, k, hone, hmany⟩
        exact ⟨k, ⟨i, hi, hone⟩, hmany⟩

/-- From a set that a step leaves no more than it is, no other position is reached. -/
theorem testBit_of_repeats (hf : Finds text p f) (hset : Within text set)
    (hclosed : set ||| f set = set) (hi : set.testBit i) (h : Repeats text p n i j) :
    set.testBit j := by
  induction n generalizing j with
  | zero =>
    obtain rfl := repeats_zero_iff.mp h
    exact hi
  | succ n ih =>
    obtain ⟨k, hmany, hone⟩ := repeats_succ_iff.mp h
    have hj : (f set).testBit j := (hf hset).mpr ⟨k, ih hmany, hone⟩
    rw [← hclosed, Nat.testBit_or, hj, Bool.or_true]

theorem testBit_collect (hf : Finds text p f) (hset : Within text set) :
    (collect f n set).testBit j ↔ ∃ i, set.testBit i ∧ ∃ m ≤ n, Repeats text p m i j := by
  induction n generalizing set with
  | zero => simp [collect, repeats_zero_iff]
  | succ n ih =>
    simp only [collect]
    split
    · rename_i hclosed
      constructor
      · exact fun hj => ⟨j, hj, 0, Nat.zero_le _, .done⟩
      · rintro ⟨i, hi, m, -, hmany⟩
        exact hf.testBit_of_repeats hset hclosed hi hmany
    · have hlarger : Within text (set ||| f set) := by
        intro i hi
        rw [Nat.testBit_or, Bool.or_eq_true] at hi
        exact hi.elim (fun hi => hset hi) fun hi => hf.within hset hi
      rw [ih hlarger]
      simp only [Nat.testBit_or, Bool.or_eq_true, hf hset]
      constructor
      · rintro ⟨k, hk | ⟨i, hi, hone⟩, m, hm, hmany⟩
        · exact ⟨k, hk, m, Nat.le_succ_of_le hm, hmany⟩
        · exact ⟨i, hi, m + 1, Nat.succ_le_succ hm, repeats_succ_iff_head.mpr ⟨k, hone, hmany⟩⟩
      · rintro ⟨i, hi, m, hm, hmany⟩
        cases m with
        | zero => exact ⟨i, .inl hi, 0, Nat.zero_le n, hmany⟩
        | succ m =>
          obtain ⟨k, hone, hmany⟩ := repeats_succ_iff_head.mp hmany
          exact ⟨k, .inr ⟨i, hi, hone⟩, m, Nat.le_of_succ_le_succ hm, hmany⟩

/-- What is reached by so many repetitions and then by up to so many more. -/
theorem testBit_collect_iterate (hf : Finds text p f) (hset : Within text set) {min more : Nat} :
    (collect f more (iterate f min set)).testBit j ↔
      ∃ i, set.testBit i ∧ ∃ m ≤ more, Repeats text p (min + m) i j := by
  have hstart : Within text (iterate f min set) := by
    intro k hk
    obtain ⟨i, hi, hmany⟩ := (hf.testBit_iterate hset).mp hk
    exact hmany.forward.le_length (hset hi)
  simp only [hf.testBit_collect hstart, hf.testBit_iterate hset, repeats_add_iff]
  constructor
  · rintro ⟨k, ⟨i, hi, hmin⟩, m, hm, hmany⟩
    exact ⟨i, hi, m, hm, k, hmin, hmany⟩
  · rintro ⟨i, hi, m, hm, k, hmin, hmany⟩
    exact ⟨k, ⟨i, hi, hmin⟩, m, hm, hmany⟩

end Finds

/-! ## Searching -/

/-- A pattern that was prepared for a text takes sets of positions from beginnings to ends. -/
theorem finds_run_prepare (h : p.Ordered) : Finds text p ((prepare text p).run text.length) := by
  induction p with
  | empty =>
    intro set hset j
    simp [prepare, Walk.run, matches_empty_iff]
  | char accepted =>
    intro set hset j
    have hbit (i : Nat) : (ofBits (text.map accepted.contains)).testBit i ↔
        ∃ c, text[i]? = some c ∧ accepted.contains c := by
      rw [testBit_ofBits, List.getElem?_map]
      cases text[i]? <;> simp
    simp only [prepare, Walk.run, Nat.testBit_shiftLeft, Nat.testBit_and, Bool.and_eq_true,
      decide_eq_true_eq, hbit, matches_char_iff]
    constructor
    · rintro ⟨hpos, hi, hc⟩
      exact ⟨j - 1, hi, by omega, hc⟩
    · rintro ⟨i, hi, rfl, hc⟩
      exact ⟨Nat.le_add_left 1 i, hi, hc⟩
  | look l =>
    intro set hset j
    simp only [prepare, Walk.run, Nat.testBit_and, Bool.and_eq_true, matches_look_iff]
    constructor
    · rintro ⟨hj, hholds⟩
      exact ⟨j, hj, rfl, by rwa [← testBit_lookBits l (hset hj)]⟩
    · rintro ⟨i, hi, rfl, hholds⟩
      exact ⟨hi, by rwa [testBit_lookBits l (hset hi)]⟩
  | seq p q ihp ihq =>
    intro set hset j
    simp only [prepare, Walk.run, ihq h.2 ((ihp h.1).within hset), ihp h.1 hset, matches_seq_iff]
    constructor
    · rintro ⟨k, ⟨i, hi, hfirst⟩, hsecond⟩
      exact ⟨i, hi, k, hfirst, hsecond⟩
    · rintro ⟨i, hi, k, hfirst, hsecond⟩
      exact ⟨k, ⟨i, hi, hfirst⟩, hsecond⟩
  | alt p q ihp ihq =>
    intro set hset j
    simp only [prepare, Walk.run, Nat.testBit_or, Bool.or_eq_true, ihp h.1 hset, ihq h.2 hset,
      matches_alt_iff]
    constructor
    · rintro (⟨i, hi, hfirst⟩ | ⟨i, hi, hsecond⟩)
      · exact ⟨i, hi, .inl hfirst⟩
      · exact ⟨i, hi, .inr hsecond⟩
    · rintro ⟨i, hi, hfirst | hsecond⟩
      · exact .inl ⟨i, hi, hfirst⟩
      · exact .inr ⟨i, hi, hsecond⟩
  | times min max p ih =>
    intro set hset j
    have hp := ih h.2
    simp only [matches_times_iff]
    cases max with
    | none =>
      simp only [prepare, Walk.run, hp.testBit_collect_iterate hset]
      constructor
      · rintro ⟨i, hi, m, -, hmany⟩
        exact ⟨i, hi, min + m, Nat.le_add_right min m, by simp, hmany⟩
      · rintro ⟨i, hi, n, hmin, -, hmany⟩
        -- What comes after the repetitions that must be need not be longer than the text.
        obtain ⟨m, rfl⟩ := Nat.exists_eq_add_of_le hmin
        obtain ⟨k, hmust, hmore⟩ := repeats_add_iff.mp hmany
        obtain ⟨m', -, hlength, hfew⟩ := hmore.exists_le
        have hj := hmany.forward.le_length (hset hi)
        exact ⟨i, hi, m', by omega, repeats_add_iff.mpr ⟨k, hmust, hfew⟩⟩
    | some most =>
      have hbounds : min ≤ most := h.1 most rfl
      simp only [prepare, Walk.run, hp.testBit_collect_iterate hset, Option.some.injEq,
        forall_eq']
      constructor
      · rintro ⟨i, hi, m, hm, hmany⟩
        exact ⟨i, hi, min + m, Nat.le_add_right min m, by omega, hmany⟩
      · rintro ⟨i, hi, n, hmin, hmax, hmany⟩
        obtain ⟨m, rfl⟩ := Nat.exists_eq_add_of_le hmin
        exact ⟨i, hi, m, by omega, hmany⟩

theorem testBit_everywhere : (everywhere text).testBit i ↔ i ≤ text.length := by
  rw [everywhere, Nat.one_shiftLeft, Nat.testBit_two_pow_sub_one, decide_eq_true_eq]
  exact Nat.lt_succ_iff

/-- A search finds a pattern in the texts in which it occurs. -/
theorem occurs_iff (h : p.Ordered) : occurs p text ↔ Occurs p text := by
  have hfinds : Finds text p ((prepare text p).run text.length) := finds_run_prepare h
  have hall : Within text (everywhere text) := fun _ => testBit_everywhere.mp
  have hends {j : Nat} : ((prepare text p).run text.length (everywhere text)).testBit j ↔
      ∃ i, i ≤ text.length ∧ Matches text p i j := by
    simp only [hfinds hall, testBit_everywhere]
  rw [occurs, bne_iff_ne]
  constructor
  · intro hne
    obtain ⟨j, hj⟩ := Nat.exists_testBit_of_ne_zero hne
    obtain ⟨i, hi, hmatch⟩ := hends.mp hj
    exact ⟨i, j, hi, hmatch⟩
  · rintro ⟨i, j, hi, hmatch⟩ hzero
    have hj := hends.mpr ⟨i, hi, hmatch⟩
    simp [hzero] at hj

end ScreenLogic.Pattern
