import Mathlib.Computability.Language
import ScreenLogic.Proofs.Pattern.Matches

/-!
# The language of a pattern

A pattern without looks describes a stretch of a text by its characters alone: which stretches it
matches is settled by a language, whatever stands around them.

## Main definitions

* `Pattern.Stretch`: the characters between two positions of a text.
* `Pattern.language`: the texts that a pattern describes, what its looks demand left out.

## Main statements

* `Pattern.matches_iff_mem_language`: a pattern without looks matches the stretches in its language.
* `Pattern.occurs_between_ends_iff`: between the ends of a text it matches texts in its language.
-/

namespace ScreenLogic.Pattern

/-- The characters of the text from position `i` to position `j`. -/
def Stretch (text : List Char) (i j : Nat) (cs : List Char) : Prop :=
  text.drop i = cs ++ text.drop j ∧ j = i + cs.length

def language : Pattern → Language Char
  | .empty => 1
  | .char set => {cs | ∃ c, cs = [c] ∧ set.contains c}
  | .look _ => 1
  | .seq p q => p.language * q.language
  | .alt p q => p.language + q.language
  | .times min max p => {cs | ∃ n, min ≤ n ∧ (∀ m, max = some m → n ≤ m) ∧ cs ∈ p.language ^ n}

def LookFree : Pattern → Prop
  | .empty => True
  | .char _ => True
  | .look _ => False
  | .seq p q => p.LookFree ∧ q.LookFree
  | .alt p q => p.LookFree ∧ q.LookFree
  | .times _ _ p => p.LookFree

variable {text cs : List Char} {i j : Nat}

/-! ## Stretches -/

theorem stretch_nil_iff : Stretch text i j [] ↔ j = i := by
  constructor
  · exact fun h => h.2
  · rintro rfl
    exact ⟨rfl, rfl⟩

theorem stretch_singleton_iff {c : Char} :
    Stretch text i j [c] ↔ text[i]? = some c ∧ j = i + 1 := by
  constructor
  · rintro ⟨hdrop, hj⟩
    have := congrArg List.head? hdrop
    exact ⟨by simpa using this, hj⟩
  · rintro ⟨hc, rfl⟩
    obtain ⟨hi, rfl⟩ := List.getElem?_eq_some_iff.mp hc
    exact ⟨List.drop_eq_getElem_cons hi, rfl⟩

theorem stretch_append_iff {xs ys : List Char} :
    Stretch text i j (xs ++ ys) ↔ ∃ k, Stretch text i k xs ∧ Stretch text k j ys := by
  constructor
  · rintro ⟨hdrop, hj⟩
    have hys : text.drop (i + xs.length) = ys ++ text.drop j := by
      have := congrArg (List.drop xs.length) hdrop
      simpa using this
    refine ⟨i + xs.length, ⟨?_, rfl⟩, hys, by simp [hj, Nat.add_assoc]⟩
    rw [hdrop, hys, List.append_assoc]
  · rintro ⟨k, ⟨hxs, rfl⟩, hys, rfl⟩
    exact ⟨by rw [hxs, hys, List.append_assoc], by simp [Nat.add_assoc]⟩

/-- A stretch in a product of two languages is one in the first that is followed by one in the
second. -/
theorem exists_stretch_mul_iff {l m : Language Char} :
    (∃ cs ∈ l * m, Stretch text i j cs) ↔
      ∃ k, (∃ cs ∈ l, Stretch text i k cs) ∧ ∃ cs ∈ m, Stretch text k j cs := by
  constructor
  · rintro ⟨_, hmem, hstretch⟩
    obtain ⟨xs, hxs, ys, hys, rfl⟩ := Language.mem_mul.mp hmem
    obtain ⟨k, hfirst, hsecond⟩ := stretch_append_iff.mp hstretch
    exact ⟨k, ⟨xs, hxs, hfirst⟩, ys, hys, hsecond⟩
  · rintro ⟨k, ⟨xs, hxs, hfirst⟩, ys, hys, hsecond⟩
    exact ⟨xs ++ ys, Language.append_mem_mul hxs hys, stretch_append_iff.mpr ⟨k, hfirst, hsecond⟩⟩

/-- Stretches of one character or more are what stands between two parts of the text. -/
theorem stretch_iff_of_ne_nil (h : cs ≠ []) :
    Stretch text i j cs ↔
      ∃ front back, text = front ++ (cs ++ back) ∧ front.length = i ∧ j = i + cs.length := by
  constructor
  · rintro ⟨hdrop, hj⟩
    have hi : i ≤ text.length := by
      by_contra hout
      rw [List.drop_eq_nil_of_le (by omega)] at hdrop
      exact h (List.append_eq_nil_iff.mp hdrop.symm).1
    refine ⟨text.take i, text.drop j, ?_, List.length_take_of_le hi, hj⟩
    rw [← hdrop, List.take_append_drop]
  · rintro ⟨front, back, rfl, rfl, rfl⟩
    refine ⟨?_, rfl⟩
    rw [List.drop_left, ← List.append_assoc, ← List.length_append, List.drop_left]

/-! ## What a pattern matches -/

variable {p : Pattern} {n : Nat}

/-- Repetitions of a pattern match the powers of its language. -/
theorem repeats_iff_mem_pow
    (hp : ∀ {i j : Nat}, Matches text p i j ↔ ∃ cs ∈ p.language, Stretch text i j cs) :
    Repeats text p n i j ↔ ∃ cs ∈ p.language ^ n, Stretch text i j cs := by
  induction n generalizing j with
  | zero => simp [repeats_zero_iff, Language.mem_one, stretch_nil_iff, eq_comm]
  | succ n ih =>
    -- Repetitions are added at the end, and so are factors.
    simp only [repeats_succ_iff, ih, hp, pow_succ]
    exact exists_stretch_mul_iff.symm

/-- A pattern without looks matches just the stretches whose characters are in its language. -/
theorem matches_iff_mem_language (h : p.LookFree) :
    Matches text p i j ↔ ∃ cs ∈ p.language, Stretch text i j cs := by
  induction p generalizing i j with
  | empty => simp [matches_empty_iff, language, Language.mem_one, stretch_nil_iff, eq_comm]
  | char set =>
    rw [matches_char_iff]
    constructor
    · rintro ⟨rfl, c, hc, hset⟩
      exact ⟨[c], ⟨c, rfl, hset⟩, stretch_singleton_iff.mpr ⟨hc, rfl⟩⟩
    · rintro ⟨_, ⟨c, rfl, hset⟩, hstretch⟩
      obtain ⟨hc, hj⟩ := stretch_singleton_iff.mp hstretch
      exact ⟨hj, c, hc, hset⟩
  | look => cases h
  | seq p q ihp ihq =>
    simp only [matches_seq_iff, ihp h.1, ihq h.2, language]
    exact exists_stretch_mul_iff.symm
  | alt p q ihp ihq =>
    rw [matches_alt_iff, ihp h.1, ihq h.2]
    constructor
    · rintro (⟨cs, hcs, hstretch⟩ | ⟨cs, hcs, hstretch⟩)
      · exact ⟨cs, .inl hcs, hstretch⟩
      · exact ⟨cs, .inr hcs, hstretch⟩
    · rintro ⟨cs, hcs | hcs, hstretch⟩
      · exact .inl ⟨cs, hcs, hstretch⟩
      · exact .inr ⟨cs, hcs, hstretch⟩
  | times min max p ih =>
    have hrepeats {n : Nat} : Repeats text p n i j ↔ ∃ cs ∈ p.language ^ n, Stretch text i j cs :=
      repeats_iff_mem_pow fun {_ _} => ih h
    simp only [matches_times_iff, hrepeats]
    constructor
    · rintro ⟨n, hmin, hmax, cs, hcs, hstretch⟩
      exact ⟨cs, ⟨n, hmin, hmax, hcs⟩, hstretch⟩
    · rintro ⟨cs, ⟨n, hmin, hmax, hcs⟩, hstretch⟩
      exact ⟨n, hmin, hmax, cs, hcs, hstretch⟩

/-- A pattern that begins and ends at the ends of a text occurs in the texts that it describes as a
whole. -/
theorem occurs_between_ends_iff (h : p.LookFree) :
    Occurs (.seq (.look .startOfText) (.seq p (.look .endOfText))) text ↔ text ∈ p.language := by
  simp only [Occurs, matches_seq_iff, matches_look_iff, matches_iff_mem_language h, Look.holds]
  constructor
  · rintro ⟨i, j, hi, _, ⟨rfl, hstart⟩, k, ⟨cs, hcs, hstretch⟩, rfl, hend⟩
    obtain rfl : i = 0 := by
      cases i with
      | zero => rfl
      | succ i => simp [before, Nat.not_le.mpr hi] at hstart
    have hk : text.length ≤ k := by simpa using hend
    obtain ⟨htext, -⟩ := hstretch
    rw [List.drop_eq_nil_of_le hk, List.append_nil, List.drop_zero] at htext
    rwa [htext]
  · intro hmem
    refine ⟨0, text.length, Nat.zero_le _, 0, ⟨rfl, rfl⟩, text.length,
      ⟨text, hmem, ?_⟩, rfl, by simp⟩
    exact ⟨by simp, by simp⟩

/-! ## Characters in a row -/

theorem mem_language_char_pow_iff {set : Text.CharSet} :
    cs ∈ (Pattern.char set).language ^ n ↔ cs.length = n ∧ ∀ c ∈ cs, set.contains c := by
  induction n generalizing cs with
  | zero => simp +contextual [Language.mem_one]
  | succ n ih =>
    rw [pow_succ']
    constructor
    · intro hmem
      obtain ⟨_, ⟨c, rfl, hc⟩, cs, hcs, rfl⟩ := Language.mem_mul.mp hmem
      obtain ⟨rfl, hall⟩ := ih.mp hcs
      simpa [hc] using hall
    · rintro ⟨hlength, hall⟩
      obtain ⟨c, cs, rfl⟩ := List.exists_cons_of_length_eq_add_one hlength
      have hmem := ih.mpr ⟨by simpa using hlength, fun c hc => hall c (List.mem_cons_of_mem _ hc)⟩
      exact Language.append_mem_mul (a := [c]) ⟨c, rfl, hall c (List.mem_cons_self ..)⟩ hmem

/-- One character of a set or more. -/
theorem mem_language_plus_char_iff {set : Text.CharSet} :
    cs ∈ (plus (.char set)).language ↔ cs ≠ [] ∧ ∀ c ∈ cs, set.contains c := by
  constructor
  · rintro ⟨n, hmin, -, hmem⟩
    obtain ⟨rfl, hall⟩ := mem_language_char_pow_iff.mp hmem
    exact ⟨List.length_pos_iff.mp hmin, hall⟩
  · rintro ⟨hne, hall⟩
    exact ⟨cs.length, List.length_pos_iff.mpr hne, by simp,
      mem_language_char_pow_iff.mpr ⟨rfl, hall⟩⟩

theorem contains_single_iff {c d : Char} : (Text.CharSet.single c).contains d ↔ d = c := by
  have hcodes : (Text.CharSet.single c).contains d ↔ c.toNat ≤ d.toNat ∧ d.toNat ≤ c.toNat := by
    simp [Text.CharSet.contains, Text.CharSet.containsCode, Text.CharSet.single]
  rw [hcodes, ← Char.toNat_inj]
  omega

theorem mem_language_literal_iff {c : Char} : cs ∈ (literal c).language ↔ cs = [c] := by
  constructor
  · rintro ⟨d, rfl, hd⟩
    rw [contains_single_iff.mp hd]
  · rintro rfl
    exact ⟨c, rfl, contains_single_iff.mpr rfl⟩

end ScreenLogic.Pattern
