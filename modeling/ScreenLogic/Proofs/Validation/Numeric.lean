import Mathlib.Data.List.TakeWhile
import ScreenLogic.Validation.Builtin

/-!
# Numeric texts

The number that a text begins with is found in digits of any script, as far as it goes: whatever
else at the beginning of the text is a number is a part of it. The text counts as numeric if that
number is in ASCII. Such a text begins with an ASCII number, but not every text that does is
numeric, as the number may run on in digits of another script. This is also the only way in which
more text can make a numeric text one that is not.

## Main definitions

* `BuiltinCheck.IsNumeral`: numbers in digits of some kind, with a sign and an exponent.
* `BuiltinCheck.BeginsWithNumber`: texts that begin with an ASCII number.
* `BuiltinCheck.RunsOn`: texts whose number runs on in digits of another script.

## Main statements

* `BuiltinCheck.isNumeral_of_leadingNumber?`, `BuiltinCheck.leadingNumber?_of_isNumeral`: what is
  found is a number, and nothing longer is one.
* `BuiltinCheck.numeric_iff`: which texts are numeric, and which of those that begin with them.
-/

namespace ScreenLogic.BuiltinCheck

open Text (isDecimalDigit)

/-! ## Numbers -/

def IsSign (cs : List Char) : Prop := cs = [] ∨ cs = ['+'] ∨ cs = ['-']

/-- One digit or more. -/
def IsDigits (digit : Char → Bool) (cs : List Char) : Prop := cs ≠ [] ∧ ∀ c ∈ cs, digit c

/-- Digits, with a point after, between or before them. -/
inductive IsSignificand (digit : Char → Bool) : List Char → Prop where
  | whole {ds : List Char} : IsDigits digit ds → IsSignificand digit ds
  | pointed {ds es : List Char} :
      IsDigits digit ds → (∀ c ∈ es, digit c) → IsSignificand digit (ds ++ '.' :: es)
  | fraction {es : List Char} : IsDigits digit es → IsSignificand digit ('.' :: es)

inductive IsExponent (digit : Char → Bool) : List Char → Prop where
  | absent : IsExponent digit []
  | present {c : Char} {sign ds : List Char} :
      c = 'e' ∨ c = 'E' → IsSign sign → IsDigits digit ds → IsExponent digit (c :: (sign ++ ds))

/-- A number in digits of some kind. Only a finite one may have an exponent. -/
inductive IsNumeral (digit : Char → Bool) : List Char → Prop where
  | infinity {sign : List Char} : IsSign sign → IsNumeral digit (sign ++ "Infinity".toList)
  | finite {sign ds exponent : List Char} :
      IsSign sign → IsSignificand digit ds → IsExponent digit exponent →
      IsNumeral digit (sign ++ (ds ++ exponent))

/-- The text begins with a number in ASCII digits. -/
def BeginsWithNumber (cs : List Char) : Prop :=
  ∃ sign number, IsSign sign ∧
    (number = "Infinity".toList ∨ IsSignificand Char.isDigit number) ∧ sign ++ number <+: cs

/-- A number at the beginning of the text has digits of another script. -/
def RunsOn (cs : List Char) : Prop :=
  ∃ number, IsNumeral isDecimalDigit number ∧ number <+: cs ∧ ∃ c ∈ number, 128 ≤ c.toNat

/-! ## Digits -/

@[simp] theorem isDecimalDigit_point : isDecimalDigit '.' = false := by decide

theorem isDecimalDigit_eq_isDigit {c : Char} (h : c.toNat < 128) :
    isDecimalDigit c = c.isDigit := by
  have hascii : ∀ n < 128, isDecimalDigit (Char.ofNat n) = (Char.ofNat n).isDigit := by
    decide +kernel
  simpa using hascii c.toNat h

theorem isDecimalDigit_of_isDigit {c : Char} (h : c.isDigit) : isDecimalDigit c := by
  have hascii : c.toNat < 128 := by
    simp only [Char.isDigit, Bool.and_eq_true, decide_eq_true_eq] at h
    have := UInt32.le_iff_toNat_le.mp h.2
    simp only [Char.toNat]
    exact Nat.lt_of_le_of_lt this (by decide)
  rwa [isDecimalDigit_eq_isDigit hascii]

section

variable {digit other : Char → Bool} {cs : List Char}

theorem IsDigits.mono (h : IsDigits digit cs) (himp : ∀ c ∈ cs, digit c → other c) :
    IsDigits other cs :=
  ⟨h.1, fun c hc => himp c hc (h.2 c hc)⟩

theorem IsSignificand.mono (h : IsSignificand digit cs)
    (himp : ∀ c ∈ cs, digit c → other c) : IsSignificand other cs := by
  cases h with
  | whole hds => exact .whole (hds.mono himp)
  | pointed hds hes =>
    refine .pointed (hds.mono fun c hc => himp c (by simp [hc])) fun c hc => ?_
    exact himp c (by simp [hc]) (hes c hc)
  | fraction hes => exact .fraction (hes.mono fun c hc => himp c (by simp [hc]))

end

theorem isDigits_takeWhile {cs : List Char} (h : cs.takeWhile isDecimalDigit ≠ []) :
    IsDigits isDecimalDigit (cs.takeWhile isDecimalDigit) :=
  ⟨h, fun _ hc => List.mem_takeWhile_imp hc⟩

/-! ## What is found is a number -/

theorem splitSign_fst_append (cs : List Char) :
    (leadingExponent.splitSign cs).1 ++ (leadingExponent.splitSign cs).2 = cs := by
  unfold leadingExponent.splitSign
  split <;> rfl

theorem isSign_splitSign (cs : List Char) : IsSign (leadingExponent.splitSign cs).1 := by
  unfold leadingExponent.splitSign IsSign
  split <;> simp

theorem isSignificand_of_leadingDigits? {cs ds rest : List Char}
    (h : leadingDigits? cs = some (ds, rest)) :
    IsSignificand isDecimalDigit ds ∧ cs = ds ++ rest := by
  have hcs := List.takeWhile_append_dropWhile (p := isDecimalDigit) (l := cs)
  unfold leadingDigits? at h
  split at h
  · rename_i after htake hdrop
    split at h
    · cases h
    · rename_i hnonempty
      obtain ⟨rfl, rfl⟩ : '.' :: after.takeWhile isDecimalDigit = ds ∧
        after.dropWhile isDecimalDigit = rest := by simpa using h
      refine ⟨.fraction (isDigits_takeWhile hnonempty), ?_⟩
      simpa [htake, hdrop] using hcs.symm
  · cases h
  · rename_i after hdrop hnonempty
    obtain ⟨rfl, rfl⟩ : cs.takeWhile isDecimalDigit ++ '.' :: after.takeWhile isDecimalDigit = ds ∧
      after.dropWhile isDecimalDigit = rest := by simpa using h
    refine ⟨.pointed (isDigits_takeWhile hnonempty) fun _ => List.mem_takeWhile_imp, ?_⟩
    simpa [hdrop] using hcs.symm
  · rename_i hnonempty _ _
    obtain ⟨rfl, rfl⟩ : cs.takeWhile isDecimalDigit = ds ∧
      cs.dropWhile isDecimalDigit = rest := by simpa using h
    exact ⟨.whole (isDigits_takeWhile hnonempty), hcs.symm⟩

theorem isExponent_leadingExponent (cs : List Char) :
    IsExponent isDecimalDigit (leadingExponent cs) ∧ leadingExponent cs <+: cs := by
  cases cs with
  | nil => exact ⟨.absent, List.nil_prefix⟩
  | cons c cs =>
    simp only [leadingExponent]
    split
    · rename_i hc
      split
      · exact ⟨.absent, List.nil_prefix⟩
      · rename_i hnonempty
        refine ⟨.present hc (isSign_splitSign cs) (isDigits_takeWhile hnonempty), ?_⟩
        rw [List.cons_prefix_cons]
        have hdigits := List.takeWhile_prefix (l := (leadingExponent.splitSign cs).2) isDecimalDigit
        have hsigned := (List.prefix_append_right_inj (leadingExponent.splitSign cs).1).mpr hdigits
        rw [splitSign_fst_append] at hsigned
        exact ⟨rfl, hsigned⟩
    · exact ⟨.absent, List.nil_prefix⟩

/-- What is found at the beginning of a text is a number there. -/
theorem isNumeral_of_leadingNumber? {cs number : List Char}
    (h : leadingNumber? cs = some number) :
    IsNumeral isDecimalDigit number ∧ number <+: cs := by
  have hcs := splitSign_fst_append cs
  have hsign := isSign_splitSign cs
  unfold leadingNumber? at h
  generalize leadingExponent.splitSign cs = split at h hcs hsign
  obtain ⟨sign, rest⟩ := split
  subst hcs
  simp only at h
  split at h
  · rename_i hinfinity
    obtain rfl : sign ++ "Infinity".toList = number := by simpa using h
    refine ⟨.infinity hsign, ?_⟩
    rw [List.prefix_append_right_inj]
    exact List.isPrefixOf_iff_prefix.mp hinfinity
  · obtain ⟨⟨ds, after⟩, hfound, rfl⟩ := Option.map_eq_some_iff.mp h
    obtain ⟨hds, rfl⟩ := isSignificand_of_leadingDigits? hfound
    obtain ⟨hexponent, hstart⟩ := isExponent_leadingExponent after
    rw [List.append_assoc, List.prefix_append_right_inj, List.prefix_append_right_inj]
    exact ⟨.finite hsign hds hexponent, hstart⟩

/-! ## Nothing longer is a number -/

/-- What follows a sign, or stands where there is none. -/
def Unsigned (cs : List Char) : Prop := ∃ c rest, cs = c :: rest ∧ c ≠ '+' ∧ c ≠ '-'

theorem splitSign_append {sign cs : List Char} (hsign : IsSign sign) (hcs : Unsigned cs) :
    leadingExponent.splitSign (sign ++ cs) = (sign, cs) := by
  obtain ⟨c, rest, rfl, hplus, hminus⟩ := hcs
  rcases hsign with rfl | rfl | rfl
  · unfold leadingExponent.splitSign
    grind
  · rfl
  · rfl

theorem IsDigits.exists_cons {ds : List Char} (h : IsDigits isDecimalDigit ds) :
    ∃ c cs, ds = c :: cs ∧ isDecimalDigit c := by
  obtain ⟨c, cs, rfl⟩ := List.exists_cons_of_ne_nil h.1
  exact ⟨c, cs, rfl, h.2 c (List.mem_cons_self ..)⟩

theorem IsSignificand.exists_cons {ds : List Char} (h : IsSignificand isDecimalDigit ds) :
    ∃ c cs, ds = c :: cs ∧ (isDecimalDigit c ∨ c = '.') := by
  cases h with
  | whole hds =>
    obtain ⟨c, cs, rfl, hc⟩ := hds.exists_cons
    exact ⟨c, cs, rfl, .inl hc⟩
  | pointed hds =>
    obtain ⟨c, cs, rfl, hc⟩ := hds.exists_cons
    exact ⟨c, _, rfl, .inl hc⟩
  | fraction => exact ⟨'.', _, rfl, .inr rfl⟩

/-- Digits and the point are no other characters that numbers are made of. -/
theorem ne_of_digit_or_point {c : Char} (h : isDecimalDigit c ∨ c = '.') :
    c ≠ '+' ∧ c ≠ '-' ∧ c ≠ 'I' ∧ c ≠ 'e' ∧ c ≠ 'E' := by
  refine ⟨?_, ?_, ?_, ?_, ?_⟩ <;> rintro rfl <;> revert h <;> decide

theorem unsigned_of_digit_or_point {c : Char} {cs : List Char}
    (h : isDecimalDigit c ∨ c = '.') : Unsigned (c :: cs) :=
  ⟨c, cs, rfl, (ne_of_digit_or_point h).1, (ne_of_digit_or_point h).2.1⟩

/-- A significand is found as far as it goes, which may be further on, but then over digits and the
point. -/
theorem leadingDigits?_of_isSignificand {ds : List Char} (h : IsSignificand isDecimalDigit ds)
    (rest : List Char) :
    ∃ tail after, leadingDigits? (ds ++ rest) = some (ds ++ tail, after) ∧ rest = tail ++ after ∧
      ∀ c ∈ tail.head?, isDecimalDigit c ∨ c = '.' := by
  have hrest := List.takeWhile_append_dropWhile (p := isDecimalDigit) (l := rest)
  have hhead : ∀ c ∈ (rest.takeWhile isDecimalDigit).head?, isDecimalDigit c :=
    fun c hc => List.mem_takeWhile_imp (List.mem_of_mem_head? hc)
  cases h with
  | whole hds =>
    unfold leadingDigits?
    rw [List.takeWhile_append_of_pos hds.2, List.dropWhile_append_of_pos hds.2]
    split
    · simp_all [IsDigits]
    · simp_all [IsDigits]
    · -- The number goes on over a point.
      rename_i after hpoint _
      refine ⟨rest.takeWhile isDecimalDigit ++ '.' :: after.takeWhile isDecimalDigit,
        after.dropWhile isDecimalDigit, by simp, ?_, fun c hc => ?_⟩
      · simp [← hpoint, hrest]
      · cases hdigits : rest.takeWhile isDecimalDigit with
        | nil => exact .inr (by simpa [hdigits, eq_comm] using hc)
        | cons d more => exact .inl (hhead c (by simpa [hdigits] using hc))
    · exact ⟨rest.takeWhile isDecimalDigit, rest.dropWhile isDecimalDigit, rfl, hrest.symm,
        fun c hc => .inl (hhead c hc)⟩
  | @pointed ds es hds hes =>
    refine ⟨rest.takeWhile isDecimalDigit, rest.dropWhile isDecimalDigit, ?_, hrest.symm, by grind⟩
    unfold leadingDigits?
    simp only [List.append_assoc, List.cons_append, List.takeWhile_append_of_pos hds.2,
      List.dropWhile_append_of_pos hds.2]
    obtain ⟨d, ds, rfl, hd⟩ := hds.exists_cons
    simp [List.takeWhile_append_of_pos hes, List.dropWhile_append_of_pos hes]
  | @fraction es hes =>
    refine ⟨rest.takeWhile isDecimalDigit, rest.dropWhile isDecimalDigit, ?_, hrest.symm, by grind⟩
    unfold leadingDigits?
    simp only [List.cons_append, List.takeWhile_cons, List.dropWhile_cons, isDecimalDigit_point,
      Bool.false_eq_true, if_false, List.takeWhile_append_of_pos hes.2,
      List.dropWhile_append_of_pos hes.2]
    obtain ⟨d, es, rfl, hd⟩ := hes.exists_cons
    simp

theorem leadingExponent_of_isExponent {exponent : List Char}
    (h : IsExponent isDecimalDigit exponent) (rest : List Char) :
    exponent <+: leadingExponent (exponent ++ rest) := by
  cases h with
  | absent => exact List.nil_prefix
  | @present c sign ds hc hsign hds =>
    have hunsigned : Unsigned (ds ++ rest) := by
      obtain ⟨d, es, rfl, hd⟩ := hds.exists_cons
      exact unsigned_of_digit_or_point (.inl hd)
    have hsplit := splitSign_append hsign hunsigned
    have hnonempty := hds.1
    simp only [List.cons_append, List.append_assoc, leadingExponent, hc, if_true, hsplit,
      List.takeWhile_append_of_pos hds.2]
    split
    · simp_all
    · rw [List.cons_prefix_cons, List.prefix_append_right_inj]
      exact ⟨rfl, List.prefix_append _ _⟩

/-- Whatever number a text begins with is a part of the number that is found. -/
theorem leadingNumber?_of_isNumeral {cs number : List Char}
    (h : IsNumeral isDecimalDigit number) (hstart : number <+: cs) :
    ∃ longest, leadingNumber? cs = some longest ∧ number <+: longest := by
  obtain ⟨rest, rfl⟩ := hstart
  cases h with
  | @infinity sign hsign =>
    have hunsigned : Unsigned ("Infinity".toList ++ rest) :=
      ⟨'I', _, rfl, by decide, by decide⟩
    have hsplit := splitSign_append hsign hunsigned
    refine ⟨sign ++ "Infinity".toList, ?_, List.prefix_rfl⟩
    have hinfinity : "Infinity".toList.isPrefixOf ("Infinity".toList ++ rest) := by simp
    simp only [leadingNumber?, List.append_assoc, hsplit, hinfinity, if_true]
  | @finite sign ds exponent hsign hds hexponent =>
    obtain ⟨tail, after, hfound, hrest, hhead⟩ :=
      leadingDigits?_of_isSignificand hds (exponent ++ rest)
    obtain ⟨d, es, rfl, hd⟩ := hds.exists_cons
    have hunsigned : Unsigned (d :: es ++ (exponent ++ rest)) := unsigned_of_digit_or_point hd
    have hsplit := splitSign_append hsign hunsigned
    have hinfinity : "Infinity".toList.isPrefixOf (d :: es ++ (exponent ++ rest)) = false := by
      have hd := (ne_of_digit_or_point hd).2.2.1
      simp [List.isPrefixOf, hd.symm]
    refine ⟨sign ++ (d :: es ++ tail) ++ leadingExponent after, ?_, ?_⟩
    · rw [List.append_assoc sign, leadingNumber?, List.append_assoc, hsplit]
      simp only [hinfinity, hfound, Option.map_some, Bool.false_eq_true, if_false,
        List.append_assoc]
    · rw [List.append_assoc, List.append_assoc, List.prefix_append_right_inj,
        List.prefix_append_right_inj]
      cases hexponent with
      | absent => exact List.nil_prefix
      | @present c sign' ds' hc hsign' hds' =>
        -- An exponent does not begin with a digit or the point, so nothing came before it.
        obtain rfl : tail = [] := by
          cases tail with
          | nil => rfl
          | cons c' tail =>
            obtain rfl : c = c' := by
              injection hrest
            have hne := ne_of_digit_or_point (hhead c rfl)
            grind
        rw [List.nil_append] at hrest ⊢
        rw [← hrest]
        exact leadingExponent_of_isExponent (.present hc hsign' hds') rest

/-! ## Numeric texts -/

theorem isNumericText_iff (s : String) :
    isNumericText s ↔ ∃ number, leadingNumber? (Text.trimStart s.toList) = some number ∧
      ∀ c ∈ number, c.toNat < 128 := by
  unfold isNumericText
  split <;> simp_all

/-- A number in ASCII digits is a number. -/
theorem exists_isNumeral_of_beginsWithNumber {cs : List Char} (h : BeginsWithNumber cs) :
    ∃ number, IsNumeral isDecimalDigit number ∧ number <+: cs := by
  obtain ⟨sign, number, hsign, rfl | hnumber, hstart⟩ := h
  · exact ⟨_, .infinity hsign, hstart⟩
  · have hdigits := hnumber.mono fun c _ hc => isDecimalDigit_of_isDigit hc
    refine ⟨sign ++ (number ++ []), .finite hsign hdigits .absent, ?_⟩
    rwa [List.append_nil]

/-- Without its exponent, a number all in ASCII is one in ASCII digits. -/
theorem beginsWithNumber_of_isNumeral {cs number : List Char}
    (h : IsNumeral isDecimalDigit number) (hstart : number <+: cs)
    (hascii : ∀ c ∈ number, c.toNat < 128) : BeginsWithNumber cs := by
  cases h with
  | infinity hsign => exact ⟨_, _, hsign, .inl rfl, hstart⟩
  | @finite sign ds exponent hsign hds =>
    have hdigits : IsSignificand Char.isDigit ds := hds.mono fun c hc hdigit => by
      rwa [← isDecimalDigit_eq_isDigit (hascii c (by simp [hc]))]
    rw [← List.append_assoc] at hstart
    exact ⟨sign, ds, hsign, .inr hdigits, (List.prefix_append _ _).trans hstart⟩

theorem isNumericText_iff_beginsWithNumber (s : String) :
    isNumericText s ↔
      BeginsWithNumber (Text.trimStart s.toList) ∧ ¬ RunsOn (Text.trimStart s.toList) := by
  rw [isNumericText_iff]
  constructor
  · rintro ⟨longest, hfound, hascii⟩
    obtain ⟨hnumeral, hstart⟩ := isNumeral_of_leadingNumber? hfound
    refine ⟨beginsWithNumber_of_isNumeral hnumeral hstart hascii, ?_⟩
    rintro ⟨number, hnumber, hbegins, c, hc, hforeign⟩
    obtain ⟨found, hfound', hpart⟩ := leadingNumber?_of_isNumeral hnumber hbegins
    obtain rfl : longest = found := Option.some.inj (hfound.symm.trans hfound')
    exact absurd (hascii c (hpart.subset hc)) (Nat.not_lt.mpr hforeign)
  · rintro ⟨hbegins, hnot⟩
    obtain ⟨number, hnumber, hstart⟩ := exists_isNumeral_of_beginsWithNumber hbegins
    obtain ⟨longest, hfound, -⟩ := leadingNumber?_of_isNumeral hnumber hstart
    obtain ⟨hnumeral, hstart⟩ := isNumeral_of_leadingNumber? hfound
    refine ⟨longest, hfound, fun c hc => ?_⟩
    by_contra hforeign
    exact hnot ⟨longest, hnumeral, hstart, c, hc, Nat.le_of_not_lt hforeign⟩

theorem BeginsWithNumber.append {cs : List Char} (h : BeginsWithNumber cs) (more : List Char) :
    BeginsWithNumber (cs ++ more) := by
  obtain ⟨sign, number, hsign, hnumber, hstart⟩ := h
  exact ⟨sign, number, hsign, hnumber, hstart.trans (List.prefix_append _ _)⟩

theorem BeginsWithNumber.ne_nil {cs : List Char} (h : BeginsWithNumber cs) : cs ≠ [] := by
  rintro rfl
  obtain ⟨sign, number, -, hnumber, hstart⟩ := h
  obtain ⟨-, rfl⟩ := List.append_eq_nil_iff.mp (List.prefix_nil.mp hstart)
  rcases hnumber with h | h
  · cases h
  · have hdecimal : IsSignificand isDecimalDigit [] := h.mono fun c hc => nomatch hc
    obtain ⟨c, cs, hcons, -⟩ := hdecimal.exists_cons
    cases hcons

theorem trimStart_append {cs : List Char} (h : Text.trimStart cs ≠ []) (more : List Char) :
    Text.trimStart (cs ++ more) = Text.trimStart cs ++ more := by
  rw [Text.trimStart, List.dropWhile_append, if_neg (by simpa [Text.trimStart] using h)]
  rfl

/-- A text is numeric if, blanks aside, it begins with a number in ASCII digits and the number does
not run on in digits of another script. With more text after it, it stays numeric as long as the
number does not run on. -/
theorem numeric_iff (s : String) (args : Fields Value) :
    (run .numeric (some (.str s)) args ↔
      BeginsWithNumber (Text.trimStart s.toList) ∧ ¬ RunsOn (Text.trimStart s.toList)) ∧
    ∀ t : String, run .numeric (some (.str s)) args →
      (run .numeric (some (.str (s ++ t))) args ↔
        ¬ RunsOn (Text.trimStart s.toList ++ t.toList)) := by
  refine ⟨isNumericText_iff_beginsWithNumber s, fun t hs => ?_⟩
  obtain ⟨hbegins, -⟩ := (isNumericText_iff_beginsWithNumber s).mp hs
  have hiff := isNumericText_iff_beginsWithNumber (s ++ t)
  rw [String.toList_append, trimStart_append hbegins.ne_nil] at hiff
  exact hiff.trans (and_iff_right (hbegins.append t.toList))

/-- A number with a unit after it. -/
theorem numeric_iff_of_unit :
    run .numeric (some (.str " 12")) [] ∧ run .numeric (some (.str (" 12" ++ "px"))) [] ∧
      ¬ RunsOn (Text.trimStart " 12".toList ++ "px".toList) := by
  have hnumber : run .numeric (some (.str " 12")) [] := by decide
  have hmeasure : run .numeric (some (.str (" 12" ++ "px"))) [] := by decide
  exact ⟨hnumber, hmeasure, ((numeric_iff " 12" []).2 "px" hnumber).mp hmeasure⟩

/-- An Arabic zero after a number makes it one that is not in ASCII, so that the text is not
numeric, although it begins with a number and with a text that is. -/
theorem not_numeric_of_arabic_zero :
    BeginsWithNumber (Text.trimStart ("1" ++ "\u0660").toList) ∧
      run .numeric (some (.str "1")) [] = true ∧
      run .numeric (some (.str ("1" ++ "\u0660"))) [] = false := by
  have hone : IsSignificand Char.isDigit ['1'] :=
    .whole ⟨by decide, List.forall_mem_singleton.mpr (by decide)⟩
  exact ⟨⟨[], ['1'], .inl rfl, .inr hone, by decide⟩, by decide, by decide⟩

end ScreenLogic.BuiltinCheck
