import ScreenLogic.Proofs.Fields
import ScreenLogic.Proofs.Number.Rounding
import ScreenLogic.Proofs.Validation.Run

/-!
# Lengths and thresholds

The two checks of the length of a text round both the length and the threshold to doubles before
they compare them. A length below `2 ^ 53` stays what it is, and no other integer is rounded to it,
so that it is compared as if nothing had been rounded. Where there is no text or no number to
compare, the checks accept nothing.

## Main definitions

* `Check.argument?`: what an argument of a check stands for.
* `LengthCheck`: the two checks, with the name of the threshold and what it demands.
* `Engine.MeasuresBy`: checks that are one of the two in a run.

## Main statements

* `LengthCheck.run_of_int`, `LengthCheck.run_of_missing`: what the two checks accept.
* `Engine.length_checks_exact`: what the two checks come to in a run.
-/

namespace ScreenLogic

/-- What an argument of a check stands for, if it is there and refers to anything. -/
def Check.argument? (check : Check) (model : Value) (name : String) : Option Value :=
  (Fields.get? check.args name).bind (Binding.resolve model)

theorem Check.get?_resolveAll {check : Check} (h : Fields.WellFormed check.args) (model : Value)
    (name : String) :
    Fields.get? (Binding.resolveAll model check.args) name = check.argument? model name :=
  Fields.get?_filterMapValues _ (Fields.nodup_keys h) name

/-- A number of at most 53 bits compares with every integer as integers do. -/
theorem Number.compare_unitsOfInt_of_lt {length : Nat} (h : length < 2 ^ 53) (n : Int) :
    Ord.compare (unitsOfInt n) (unitsOfInt length) = Ord.compare n length := by
  have hcollapse : ¬ Collapse n length := by
    intro hcollapse
    have hlarge := hcollapse.symm.le_natAbs
    omega
  rw [compare_unitsOfInt, compare_nearest, if_neg hcollapse]

/-! ## The two checks -/

/-- The checks that compare the length of a text with a threshold. -/
inductive LengthCheck where
  | least
  | most
  deriving DecidableEq

namespace LengthCheck

def check : LengthCheck → BuiltinCheck
  | .least => .minLength
  | .most => .maxLength

/-- The name of the threshold among the arguments. -/
def argument : LengthCheck → String
  | .least => "min"
  | .most => "max"

def admits : LengthCheck → Int → Nat → Bool
  | .least, threshold, length => threshold ≤ length
  | .most, threshold, length => length ≤ threshold

/-- What a check of the length compares: the numbers as doubles. -/
def admitsUnits : LengthCheck → Number → Number → Bool
  | .least, threshold, length => threshold.units ≤ length.units
  | .most, threshold, length => length.units ≤ threshold.units

theorem run_eq_true_iff (kind : LengthCheck) {value : Option Value} {args : Fields Value} :
    kind.check.run value args ↔ ∃ s x, value = some (.str s) ∧
      Fields.get? args kind.argument = some (.num x) ∧
      kind.admitsUnits x (BuiltinCheck.lengthOf s) := by
  have htext (s : String) : value = some (.str s) ↔ value.bind Value.asStr? = some s := by
    simp [Option.bind_eq_some_iff, Value.asStr?_eq_some_iff]
  have hnumber (x : Number) : Fields.get? args kind.argument = some (.num x) ↔
      BuiltinCheck.numberArg? args kind.argument = some x := by
    simp [BuiltinCheck.numberArg?, Option.bind_eq_some_iff, Value.asNumber?_eq_some_iff]
  simp only [htext, hnumber]
  cases kind <;> simp only [check, argument, admitsUnits, BuiltinCheck.run]
  · cases value.bind Value.asStr? <;> cases BuiltinCheck.numberArg? args "min" <;> simp
  · cases value.bind Value.asStr? <;> cases BuiltinCheck.numberArg? args "max" <;> simp

/-- Rounding makes no difference to a text of fewer than `2 ^ 53` characters. -/
theorem admitsUnits_int (kind : LengthCheck) {s : String} (hs : s.length < 2 ^ 53) (n : Int) :
    kind.admitsUnits (.int n) (BuiltinCheck.lengthOf s) = kind.admits n s.length := by
  have hcompare := Number.compare_unitsOfInt_of_lt hs n
  have hleast : Number.unitsOfInt n ≤ Number.unitsOfInt s.length ↔ n ≤ s.length := by
    rw [← Int.isLE_compare, hcompare, Int.isLE_compare]
  have hmost : Number.unitsOfInt s.length ≤ Number.unitsOfInt n ↔ s.length ≤ n := by
    rw [← Int.isGE_compare, hcompare, Int.isGE_compare]
  cases kind with
  | least => exact decide_eq_decide.mpr hleast
  | most => exact decide_eq_decide.mpr hmost

theorem run_of_int (kind : LengthCheck) {s : String} (hs : s.length < 2 ^ 53) {n : Int}
    {args : Fields Value} (hn : Fields.get? args kind.argument = some (Value.int n)) :
    kind.check.run (some (.str s)) args = kind.admits n s.length := by
  rw [Bool.eq_iff_iff, run_eq_true_iff, hn, ← kind.admitsUnits_int hs]
  simp [Value.int]

/-- Without a text, or without a number for threshold, nothing is accepted. -/
theorem run_of_missing (kind : LengthCheck) {value : Option Value} {args : Fields Value}
    (h : (∀ s, value ≠ some (.str s)) ∨ ∀ x, Fields.get? args kind.argument ≠ some (.num x)) :
    kind.check.run value args = false := by
  rw [Bool.eq_false_iff, ne_eq, run_eq_true_iff]
  rintro ⟨s, x, hs, hx, -⟩
  exact h.elim (· s hs) (· x hx)

end LengthCheck

/-! ## In a run -/

namespace Engine

variable {engine : Engine} {kind : LengthCheck} {check : Check}

/-- A check of the length of a text, in the place of which no registered function is called. -/
structure MeasuresBy (engine : Engine) (kind : LengthCheck) (check : Check) : Prop where
  function_eq : check.function = .builtin kind.check
  not_registered : Fields.get? engine.custom kind.check.name = none
  wellFormed : Fields.WellFormed check.args

theorem MeasuresBy.runCheck_eq (h : engine.MeasuresBy kind check) (value : Option Value)
    (model : Value) :
    engine.runCheck check value model =
      (.ok ⟨kind.check.name, kind.check.run value (Binding.resolveAll model check.args),
        check.message⟩, []) := by
  simp only [runCheck, verdict, h.function_eq, CheckFunction.name, h.not_registered]
  rfl

/-- The checks of the length of a text compare its length with the threshold as integers, however
large the threshold is and whether it stands in the check or in the model. Both together accept
texts of one length alone. Where the value is no text, or where there is no number for threshold,
each of them rejects. -/
theorem length_checks_exact (engine : Engine) (value : Option Value) (model : Value) :
    (∀ kind check, engine.MeasuresBy kind check →
      (∀ s n, value = some (.str s) → s.length < 2 ^ 53 →
        check.argument? model kind.argument = some (Value.int n) →
        engine.runCheck check value model =
          (.ok ⟨kind.check.name, kind.admits n s.length, check.message⟩, [])) ∧
      ((∀ s, value ≠ some (.str s)) ∨
          (∀ x, check.argument? model kind.argument ≠ some (.num x)) →
        engine.runCheck check value model =
          (.ok ⟨kind.check.name, false, check.message⟩, []))) ∧
    (∀ least most, engine.MeasuresBy .least least → engine.MeasuresBy .most most →
      ∀ s n, value = some (.str s) → s.length < 2 ^ 53 →
        least.argument? model "min" = some (Value.int n) →
        most.argument? model "max" = some (Value.int n) →
        ((engine.runCheck least value model).1 = .ok ⟨"minLength", true, least.message⟩ ∧
            (engine.runCheck most value model).1 = .ok ⟨"maxLength", true, most.message⟩ ↔
          s.length = n)) := by
  have hexact : ∀ kind check, engine.MeasuresBy kind check → ∀ s n, value = some (.str s) →
      s.length < 2 ^ 53 → check.argument? model kind.argument = some (Value.int n) →
      engine.runCheck check value model =
        (.ok ⟨kind.check.name, kind.admits n s.length, check.message⟩, []) := by
    rintro kind check hcheck s n rfl hs hn
    rw [← Check.get?_resolveAll hcheck.wellFormed] at hn
    rw [hcheck.runCheck_eq, kind.run_of_int hs hn]
  refine ⟨fun kind check hcheck => ⟨hexact kind check hcheck, fun hmissing => ?_⟩, ?_⟩
  · simp only [← Check.get?_resolveAll hcheck.wellFormed] at hmissing
    rw [hcheck.runCheck_eq, kind.run_of_missing hmissing]
  · intro least most hleast hmost s n hvalue hs hmin hmax
    rw [hexact .least least hleast s n hvalue hs hmin, hexact .most most hmost s n hvalue hs hmax]
    simp [LengthCheck.check, BuiltinCheck.name, LengthCheck.admits]
    omega

/-- A text of three characters, of which one takes two bytes, against thresholds in the model and
in the check; and no number for threshold. -/
theorem length_checks_exact_of_nickname :
    let engine : Engine := ⟨[]⟩
    let least : Check := ⟨.builtin .minLength, [("min", .reference "/limits/0")], "Too short"⟩
    let most : Check := .maxLength 3 "Too long"
    let model : Value := .obj [("limits", .arr [.int 3])]
    engine.runCheck least (some (.str "né!")) model = (.ok ⟨"minLength", true, "Too short"⟩, []) ∧
      ((engine.runCheck least (some (.str "né!")) model).1 = .ok ⟨"minLength", true, "Too short"⟩ ∧
          (engine.runCheck most (some (.str "né!")) model).1 = .ok ⟨"maxLength", true, "Too long"⟩ ↔
        ("né!".length : Int) = 3) ∧
      engine.runCheck least (some (.str "né!")) .null =
        (.ok ⟨"minLength", false, "Too short"⟩, []) := by
  intro engine least most model
  have hleast : engine.MeasuresBy .least least := ⟨rfl, rfl, by decide⟩
  have hmost : engine.MeasuresBy .most most := ⟨rfl, rfl, by decide⟩
  have hlength : "né!".length < 2 ^ 53 := by decide
  have hmin : least.argument? model "min" = some (Value.int 3) := by decide
  have hmax : most.argument? model "max" = some (Value.int 3) := by decide
  have hmissing : ∀ x, least.argument? .null "min" ≠ some (.num x) := by
    intro x
    have hnone : least.argument? .null "min" = none := by decide
    simp [hnone]
  obtain ⟨hruns, hboth⟩ := length_checks_exact engine (some (.str "né!")) model
  obtain ⟨hnull, -⟩ := length_checks_exact engine (some (.str "né!")) .null
  obtain ⟨-, hclosed⟩ := hnull .least least hleast
  exact ⟨(hruns .least least hleast).1 "né!" 3 rfl hlength hmin,
    hboth least most hleast hmost "né!" 3 rfl hlength hmin hmax, hclosed (.inr hmissing)⟩

end Engine

end ScreenLogic
