import Mathlib.Algebra.Group.Int.Defs
import Mathlib.Algebra.Group.Nat.Defs
import ScreenLogic.Number.Basic

/-!
# Integers as doubles

An integer that is compared is first rounded to 53 significant bits. Rounding keeps the order of
integers, if not always strictly, and leaves alone all that have no more bits than that, so all up
to `2 ^ 53`. Beyond, two integers may collapse into one double, and then they are near each other.

## Main definitions

* `Number.nearest`: the integer to which an integer is rounded.
* `Number.Collapse`: different integers that are rounded to the same one.

## Main statements

* `roundBits_mono`, `roundBits_eq_self`, `roundBits_mul_two_pow`: rounding keeps the order, is
  exact if it can be, and does not depend on the unit.
* `Number.compare_nearest`: what rounding makes of the order of integers.
* `Number.Collapse.le_natAbs`, `Number.Collapse.natAbs_sub_le`: how large integers are that
  collapse, and how near.
-/

namespace ScreenLogic

/-! ## Rounding to a multiple -/

theorem roundDiv_of_dvd {num den : Nat} (hden : 0 < den) (h : den ∣ num) :
    roundDiv num den = num / den := by
  have hmod : num % den = 0 := Nat.mod_eq_zero_of_dvd h
  simp only [roundDiv, hmod]
  split <;> omega

theorem roundDiv_mono {a b : Nat} (h : a ≤ b) (den : Nat) : roundDiv a den ≤ roundDiv b den := by
  have hdiv : a / den ≤ b / den := Nat.div_le_div_right h
  have ha := Nat.div_add_mod a den
  have hb := Nat.div_add_mod b den
  -- With equal quotients the remainders are in order.
  have hmod : a / den = b / den → a % den ≤ b % den := by
    intro heq
    rw [heq] at ha
    omega
  simp only [roundDiv]
  split <;> split <;> omega

/-- Rounding depends on the value of a fraction alone. -/
theorem roundDiv_mul_right (num den : Nat) {c : Nat} (hc : 0 < c) :
    roundDiv (num * c) (den * c) = roundDiv num den := by
  have hlt : den * c < 2 * (num % den * c) ↔ den < 2 * (num % den) := by
    rw [← Nat.mul_assoc]
    exact Nat.mul_lt_mul_right hc
  have heq : 2 * (num % den * c) = den * c ↔ 2 * (num % den) = den := by
    rw [← Nat.mul_assoc]
    exact Nat.mul_left_inj (by omega)
  simp only [roundDiv, Nat.mul_div_mul_right num den hc, Nat.mul_mod_mul_right, hlt, heq]

/-- What is rounded moves by half a step at most. -/
theorem roundDiv_near (num : Nat) {den : Nat} (hden : 0 < den) :
    2 * (roundDiv num den * den) ≤ 2 * num + den ∧
      2 * num ≤ 2 * (roundDiv num den * den) + den := by
  have hnum := Nat.div_add_mod num den
  have hmod := Nat.mod_lt num hden
  rw [Nat.mul_comm] at hnum
  simp only [roundDiv]
  split
  · rw [Nat.add_mul]
    omega
  · omega

/-! ## Rounding to 53 bits -/

/-- The distance of neighbours of 53 bits, around a number. -/
def spacing (n : Nat) : Nat := 2 ^ (n.log2 - 52)

theorem spacing_pos (n : Nat) : 0 < spacing n := Nat.two_pow_pos _

theorem roundBits_one (n : Nat) : roundBits n 1 = roundDiv n (spacing n) * spacing n := by
  simp [roundBits, spacing, Nat.shiftLeft_eq]

/-- A number of at most 53 bits, zeros at the end not counted, stays what it is. -/
theorem roundBits_eq_self {n : Nat} (h : spacing n ∣ n) : roundBits n 1 = n := by
  rw [roundBits_one, roundDiv_of_dvd (spacing_pos n) h, Nat.div_mul_cancel h]

theorem roundBits_near (n : Nat) :
    2 * roundBits n 1 ≤ 2 * n + spacing n ∧ 2 * n ≤ 2 * roundBits n 1 + spacing n := by
  rw [roundBits_one]
  exact roundDiv_near n (spacing_pos n)

theorem spacing_eq_one {n : Nat} (h : n < 2 ^ 53) : spacing n = 1 := by
  have hlog : n.log2 < 53 := by
    by_cases hn : n = 0
    · simp [hn]
    · exact (Nat.log2_lt hn).mpr h
  rw [spacing, show n.log2 - 52 = 0 by omega, Nat.pow_zero]

theorem roundBits_eq_self_of_le {n : Nat} (h : n ≤ 2 ^ 53) : roundBits n 1 = n := by
  rcases Nat.lt_or_eq_of_le h with hlt | rfl
  · exact roundBits_eq_self (by rw [spacing_eq_one hlt]; exact Nat.one_dvd n)
  · decide

theorem spacing_le {n : Nat} (h : n < 2 ^ 64) : spacing n ≤ 2 ^ 11 := by
  have hlog : n.log2 < 64 := by
    by_cases hn : n = 0
    · simp [hn]
    · exact (Nat.log2_lt hn).mpr h
  exact Nat.pow_le_pow_right (by decide) (by omega)

theorem log2_mul_two_pow {n : Nat} (hn : n ≠ 0) (p : Nat) : (n * 2 ^ p).log2 = n.log2 + p := by
  have hpos := Nat.two_pow_pos p
  rw [Nat.log2_eq_iff (Nat.mul_ne_zero hn (Nat.ne_of_gt hpos)), Nat.pow_add, Nat.add_right_comm,
    Nat.pow_add]
  exact ⟨Nat.mul_le_mul_right _ (Nat.log2_self_le hn),
    Nat.mul_lt_mul_of_pos_right Nat.lt_log2_self hpos⟩

/-- Rounding does not depend on the unit, if this is a power of two. -/
theorem roundBits_mul_two_pow (n p : Nat) : roundBits (n * 2 ^ p) 1 = roundBits n 1 * 2 ^ p := by
  by_cases hn : n = 0
  · simp [hn, roundBits, roundDiv]
  have hlog := log2_mul_two_pow hn p
  by_cases hbits : 52 ≤ n.log2
  · have hspacing : spacing (n * 2 ^ p) = spacing n * 2 ^ p := by
      rw [spacing, spacing, hlog, ← Nat.pow_add]
      congr 1
      omega
    rw [roundBits_one, roundBits_one, hspacing, roundDiv_mul_right _ _ (Nat.two_pow_pos p),
      Nat.mul_assoc]
  · -- All bits are kept on both sides.
    have hself : roundBits n 1 = n := by
      refine roundBits_eq_self ?_
      rw [spacing, show n.log2 - 52 = 0 by omega]
      exact Nat.one_dvd n
    rw [hself]
    refine roundBits_eq_self (Nat.dvd_mul_left_of_dvd ?_ n)
    rw [spacing, hlog]
    exact Nat.pow_dvd_pow 2 (by omega)

/-- Among numbers of the same length rounding keeps the order, since it is to multiples of the
same number. -/
theorem roundBits_le_of_log2_eq {a b : Nat} (hlog : a.log2 = b.log2) (h : a ≤ b) :
    roundBits a 1 ≤ roundBits b 1 := by
  have hspacing : spacing a = spacing b := by rw [spacing, spacing, hlog]
  rw [roundBits_one, roundBits_one, hspacing]
  exact Nat.mul_le_mul_right _ (roundDiv_mono h _)

/-- A number is not rounded below the power of two at its first bit. -/
theorem two_pow_log2_le_roundBits {n : Nat} (hn : n ≠ 0) : 2 ^ n.log2 ≤ roundBits n 1 := by
  have hpow : roundBits (2 ^ n.log2) 1 = 2 ^ n.log2 := by
    refine roundBits_eq_self ?_
    rw [spacing, Nat.log2_two_pow]
    exact Nat.pow_dvd_pow 2 (by omega)
  rw [← hpow]
  exact roundBits_le_of_log2_eq Nat.log2_two_pow (Nat.log2_self_le hn)

/-- A number is not rounded above the power of two that follows it. -/
theorem roundBits_le_two_pow (n : Nat) : roundBits n 1 ≤ 2 ^ (n.log2 + 1) := by
  have hdvd : spacing n ∣ 2 ^ (n.log2 + 1) := Nat.pow_dvd_pow 2 (by omega)
  calc
    roundBits n 1 = roundDiv n (spacing n) * spacing n := roundBits_one n
    _ ≤ roundDiv (2 ^ (n.log2 + 1)) (spacing n) * spacing n :=
      Nat.mul_le_mul_right _ (roundDiv_mono (Nat.le_of_lt Nat.lt_log2_self) _)
    _ = 2 ^ (n.log2 + 1) := by
      rw [roundDiv_of_dvd (spacing_pos n) hdvd, Nat.div_mul_cancel hdvd]

theorem roundBits_mono {a b : Nat} (h : a ≤ b) : roundBits a 1 ≤ roundBits b 1 := by
  by_cases ha : a = 0
  · subst ha
    exact Nat.zero_le _
  have hb : b ≠ 0 := by omega
  have hlog : a.log2 ≤ b.log2 := (Nat.le_log2 hb).mpr (Nat.le_trans (Nat.log2_self_le ha) h)
  rcases Nat.lt_or_eq_of_le hlog with hlt | heq
  · -- A power of two lies between the two.
    calc
      roundBits a 1 ≤ 2 ^ (a.log2 + 1) := roundBits_le_two_pow a
      _ ≤ 2 ^ b.log2 := Nat.pow_le_pow_right (by decide) hlt
      _ ≤ roundBits b 1 := two_pow_log2_le_roundBits hb
  · exact roundBits_le_of_log2_eq heq h

/-! ## Integers -/

namespace Number

/-- The integer to which an integer is rounded: the nearest one of at most 53 bits, zeros at the
end not counted. -/
def nearest (n : Int) : Int := n.sign * (roundBits n.natAbs 1 : Nat)

/-- Different integers that are one double. -/
def Collapse (i j : Int) : Prop := i ≠ j ∧ nearest i = nearest j

instance (i j : Int) : Decidable (Collapse i j) := inferInstanceAs (Decidable (_ ∧ _))

theorem unitsOfInt_eq (n : Int) : unitsOfInt n = nearest n * (unitsPerOne : Nat) := by
  unfold unitsOfInt nearest unitsPerOne
  -- Any other power of two would do.
  generalize 1074 = p
  rw [Nat.pow_eq, roundBits_mul_two_pow, Int.natCast_mul, Int.mul_assoc]

theorem nearest_natCast (n : Nat) : nearest n = (roundBits n 1 : Nat) := by
  by_cases hn : n = 0
  · subst hn
    decide
  · rw [nearest, Int.natAbs_natCast, Int.sign_natCast_of_ne_zero hn, Int.one_mul]

@[simp] theorem nearest_neg (n : Int) : nearest (-n) = -nearest n := by
  rw [nearest, nearest, Int.sign_neg, Int.natAbs_neg, Int.neg_mul]

theorem natAbs_nearest (n : Int) : (nearest n).natAbs = roundBits n.natAbs 1 := by
  obtain ⟨m, rfl | rfl⟩ := Int.eq_nat_or_neg n <;> simp [nearest_natCast]

/-- Rounding keeps the order of integers. -/
theorem nearest_mono {i j : Int} (h : i ≤ j) : nearest i ≤ nearest j := by
  obtain ⟨a, rfl | rfl⟩ := Int.eq_nat_or_neg i <;> obtain ⟨b, rfl | rfl⟩ := Int.eq_nat_or_neg j
  · have := roundBits_mono (a := a) (b := b) (by omega)
    simp only [nearest_natCast]
    omega
  · obtain ⟨rfl, rfl⟩ : a = 0 ∧ b = 0 := by omega
    simp
  · simp only [nearest_neg, nearest_natCast]
    omega
  · have := roundBits_mono (a := b) (b := a) (by omega)
    simp only [nearest_neg, nearest_natCast]
    omega

theorem nearest_eq_self {n : Int} (h : n.natAbs ≤ 2 ^ 53) : nearest n = n := by
  rw [nearest, roundBits_eq_self_of_le h, Int.sign_mul_natAbs]

theorem nearest_near (n : Int) : 2 * (nearest n - n).natAbs ≤ spacing n.natAbs := by
  obtain ⟨m, rfl | rfl⟩ := Int.eq_nat_or_neg n <;>
    · have := roundBits_near m
      simp only [nearest_neg, nearest_natCast, Int.natAbs_neg, Int.natAbs_natCast]
      omega

namespace Collapse

variable {i j : Int}

theorem symm (h : Collapse i j) : Collapse j i := ⟨h.1.symm, h.2.symm⟩

/-- An integer that collapses with another one has more than 53 bits. -/
theorem le_natAbs (h : Collapse i j) : 2 ^ 53 ≤ i.natAbs := by
  obtain ⟨hne, heq⟩ := h
  refine Nat.le_of_not_lt fun hlt => ?_
  rw [nearest_eq_self (Nat.le_of_lt hlt)] at heq
  have hsize : roundBits j.natAbs 1 = i.natAbs := by rw [heq, natAbs_nearest]
  by_cases hj : j.natAbs ≤ 2 ^ 53
  · exact hne (heq.trans (nearest_eq_self hj))
  · have hmono := roundBits_mono (Nat.le_of_not_le hj)
    rw [roundBits_eq_self_of_le (Nat.le_refl _)] at hmono
    omega

/-- Up to 64 bits only integers collapse that are near each other. -/
theorem natAbs_sub_le (h : Collapse i j) (hi : i.natAbs < 2 ^ 64) (hj : j.natAbs < 2 ^ 64) :
    (i - j).natAbs ≤ 2 ^ 11 := by
  have hnear := nearest_near i
  have hnear' := nearest_near j
  have hspacing := spacing_le hi
  have hspacing' := spacing_le hj
  have heq := h.2
  omega

end Collapse

theorem unitsPerOne_pos : 0 < unitsPerOne := by
  unfold unitsPerOne
  generalize 1074 = p
  exact Nat.two_pow_pos p

/-- The unit in which doubles are counted does not change their order. -/
theorem compare_unitsOfInt (i j : Int) :
    Ord.compare (unitsOfInt i) (unitsOfInt j) = Ord.compare (nearest i) (nearest j) := by
  have hpos : (0 : Int) < unitsPerOne := Int.natCast_pos.mpr unitsPerOne_pos
  rw [unitsOfInt_eq, unitsOfInt_eq]
  rcases Int.lt_trichotomy (nearest i) (nearest j) with hlt | heq | hgt
  · rw [Int.compare_eq_lt.mpr hlt, Int.compare_eq_lt.mpr (Int.mul_lt_mul_of_pos_right hlt hpos)]
  · rw [heq, Int.compare_eq_eq.mpr rfl, Int.compare_eq_eq.mpr rfl]
  · rw [Int.compare_eq_gt.mpr hgt, Int.compare_eq_gt.mpr (Int.mul_lt_mul_of_pos_right hgt hpos)]

/-- Rounding does not tell integers apart that collapse, and keeps the order of all others. -/
theorem compare_nearest (i j : Int) :
    Ord.compare (nearest i) (nearest j) = if Collapse i j then .eq else Ord.compare i j := by
  split
  · rename_i h
    exact Int.compare_eq_eq.mpr h.2
  · rename_i h
    have hne : i ≠ j → nearest i ≠ nearest j := fun hij heq => h ⟨hij, heq⟩
    rcases Int.lt_trichotomy i j with hlt | rfl | hgt
    · have := nearest_mono (Int.le_of_lt hlt)
      have := hne (Int.ne_of_lt hlt)
      rw [Int.compare_eq_lt.mpr hlt, Int.compare_eq_lt.mpr (by omega)]
    · rw [Int.compare_eq_eq.mpr rfl, Int.compare_eq_eq.mpr rfl]
    · have := nearest_mono (Int.le_of_lt hgt)
      have := hne (Int.ne_of_gt hgt)
      rw [Int.compare_eq_gt.mpr hgt, Int.compare_eq_gt.mpr (by omega)]

end Number

end ScreenLogic
