import ScreenLogic.Proofs.Action.RoundTrip
import ScreenLogic.Proofs.Validation.Lint

/-!
# Rules that survive the wire

A function is read back as it was unless it has the name of a built-in check without being one,
and a switch that is written as null is lost. All else in a rule comes back if its bindings and its
switch do.

## Main statements

* `survives_wire_iff`: the rules and actions that survive the wire.
* `Rule.settles`, `ValidationResult.settles`: what was read survives it.
-/

namespace ScreenLogic

open Decode (Settles Part)

theorem Expr.toValue_eq_null_iff {e : Expr} : e.toValue = .null ↔ e = .literal .null := by
  match e with
  | .test (.literal v) => simp [toValue, Binding.toValue, literal]
  | .test (.reference path) => simp [toValue, Binding.toValue, literal]
  | .all _ | .any _ | .not _ | .compare _ _ _ => simp [toValue, literal]

namespace CheckFunction

theorem decode_toValue_iff {f : CheckFunction} : decode f.toValue = .ok f ↔ f.Canonical := by
  simp [decode, toValue, Decode.text, Except.map, Canonical]

theorem canonical_iff {f : CheckFunction} :
    f.Canonical ↔ ∀ name, f = .custom name → BuiltinCheck.ofName? name = none := by
  cases f with
  | builtin check => simp [canonical_builtin]
  | custom name => simp [canonical_custom_iff]

theorem settles : Settles decode toValue := by
  intro v f h
  obtain ⟨name, -, rfl⟩ := Decode.map_eq_ok.mp h
  exact decode_toValue_iff.mpr (canonical_ofName name)

end CheckFunction

namespace Check

theorem isRecord : Decode.IsRecord decode toValue "ValidationCheck"
    [.required "fn" CheckFunction.decode CheckFunction.toValue function,
     .defaulted "args" Binding.decodeAll [] Binding.written args,
     .required "message" Decode.text .str message] where
  nodup := by decide
  decode_eq_ok_iff := by
    intro v r
    simp only [decode, Decode.bind_eq_ok, List.forall_mem_cons, Part.reads_required,
      Part.reads_defaulted, pure, Except.pure, Except.ok.injEq]
    refine exists_congr fun present => and_congr_right fun _ => ?_
    grind
  toValue_eq check := by simp [toValue, Binding.written]

theorem decode_toValue_iff {check : Check} :
    decode check.toValue = .ok check ↔
      check.function.Canonical ∧ ∀ arg ∈ check.args, arg.2.Canonical := by
  simp only [isRecord.decode_toValue_iff, List.forall_mem_cons, Part.survives_required,
    Part.survives_defaulted, Binding.written_elim_iff, CheckFunction.decode_toValue_iff]
  simp [Decode.text]

theorem settles : Settles decode toValue := by
  refine isRecord.settles ?_
  simp only [List.forall_mem_cons]
  exact ⟨Part.settles_required CheckFunction.settles, Binding.settles_decodeAll,
    Part.settles_required Decode.settles_text, List.forall_mem_nil _⟩

end Check

namespace Trigger

theorem decode_toValue (t : Trigger) : decode t.toValue = .ok t := by
  cases t <;> rfl

end Trigger

namespace Rule

theorem isRecord : Decode.IsRecord decode toValue "ValidationRule"
    [.required "checks" (Decode.list Check.decode) (fun checks => .arr (checks.map Check.toValue))
       checks,
     .optional "enabled" Expr.decode Expr.toValue enabled,
     .defaulted "validateOn" Trigger.decode .submit (fun t => some t.toValue) validateOn] where
  nodup := by decide
  decode_eq_ok_iff := by
    intro v r
    simp only [decode, Decode.bind_eq_ok, List.forall_mem_cons, Part.reads_required,
      Part.reads_defaulted, Part.reads_optional, pure, Except.pure, Except.ok.injEq]
    refine exists_congr fun present => and_congr_right fun _ => ?_
    grind
  toValue_eq rule := by simp [toValue, wireField]

/-- A rule survives the wire if its checks do, and its switch too unless it is written as null. -/
theorem decode_toValue_iff {rule : Rule} :
    decode rule.toValue = .ok rule ↔
      (∀ check ∈ rule.checks, Check.decode check.toValue = .ok check) ∧
      ∀ e, rule.enabled = some e → e.toValue ≠ .null ∧ Expr.ofValue e.toValue = .ok e := by
  simp only [isRecord.decode_toValue_iff, List.forall_mem_cons, Part.survives_required,
    Part.survives_defaulted, Part.survives_optional, Decode.list_map_iff, Expr.decode,
    Decode.expression_eq_ok_iff]
  simp [Trigger.decode_toValue]

theorem settles : Settles decode toValue := by
  refine isRecord.settles ?_
  simp only [List.forall_mem_cons]
  refine ⟨Part.settles_required (Decode.settles_list Check.settles),
    Part.settles_optional fun v e hnull he => ?_,
    Part.settles_defaulted rfl fun _ t _ => t.decode_toValue, List.forall_mem_nil _⟩
  -- An expression is written as it was read.
  obtain ⟨rfl, -⟩ := Expr.readsBack v e (Decode.expression_eq_ok_iff.mp he)
  exact ⟨hnull, he⟩

end Rule

/-- A rule survives the wire exactly if no function of it only has the name of a built-in check,
no argument is written like a reference, and its switch is read back and is not null. An action
survives it exactly if no parameter and no target of an effect is written like a reference. -/
theorem survives_wire_iff :
    (∀ rule : Rule, Rule.decode rule.toValue = .ok rule ↔
      (∀ check ∈ rule.checks,
        (∀ name, check.function = .custom name → BuiltinCheck.ofName? name = none) ∧
        ∀ arg ∈ check.args, ∀ path, arg.2 ≠ .literal (.obj [("path", .str path)])) ∧
      ∀ e, rule.enabled = some e → Expr.ofValue e.toValue = .ok e ∧ e ≠ .literal .null) ∧
    ∀ action : Action, Action.decode action.toValue = .ok action ↔
      (∀ param ∈ action.params, ∀ path, param.2 ≠ .literal (.obj [("path", .str path)])) ∧
      ∀ target, action.onSuccess = some (.navigate target) ∨
        action.onError = some (.navigate target) →
          ∀ path, target ≠ .literal (.obj [("path", .str path)]) := by
  refine ⟨fun rule => ?_, fun action => ?_⟩
  · simp only [Rule.decode_toValue_iff, Check.decode_toValue_iff, CheckFunction.canonical_iff,
      Binding.canonical_iff, Expr.toValue_eq_null_iff, ne_eq, and_comm]
  · simp only [Action.decode_toValue_iff, Binding.canonical_iff]

/-- A rule that is always off is always on after it was stored. -/
example :
    Rule.decode (Rule.toValue ⟨[], some (.literal .null), .submit⟩) = .ok ⟨[], none, .submit⟩ :=
  rfl

namespace CheckResult

theorem isRecord : Decode.IsRecord decode toValue "CheckResult"
    [.required "fn" Decode.text .str function, .required "valid" Decode.flag .bool valid,
     .required "message" Decode.text .str message] where
  nodup := by decide
  decode_eq_ok_iff := by
    intro v r
    simp only [decode, Decode.bind_eq_ok, List.forall_mem_cons, Part.reads_required, pure,
      Except.pure, Except.ok.injEq]
    refine exists_congr fun present => and_congr_right fun _ => ?_
    grind
  toValue_eq _ := rfl

theorem settles : Settles decode toValue := by
  refine isRecord.settles ?_
  simp only [List.forall_mem_cons]
  exact ⟨Part.settles_required Decode.settles_text, Part.settles_required Decode.settles_flag,
    Part.settles_required Decode.settles_text, List.forall_mem_nil _⟩

end CheckResult

namespace ValidationResult

theorem isRecord : Decode.IsRecord decode toValue "ValidationResult"
    [.required "valid" Decode.flag .bool valid,
     .required "errors" (Decode.list Decode.text) .ofStrings errors,
     .defaulted "checks" (Decode.list CheckResult.decode) []
       (fun checks => some (.arr (checks.map CheckResult.toValue))) checks] where
  nodup := by decide
  decode_eq_ok_iff := by
    intro v r
    simp only [decode, Decode.bind_eq_ok, List.forall_mem_cons, Part.reads_required,
      Part.reads_defaulted, pure, Except.pure, Except.ok.injEq]
    refine exists_congr fun present => and_congr_right fun _ => ?_
    grind
  toValue_eq _ := rfl

theorem settles : Settles decode toValue := by
  refine isRecord.settles ?_
  simp only [List.forall_mem_cons]
  exact ⟨Part.settles_required Decode.settles_flag,
    Part.settles_required (Decode.settles_list Decode.settles_text),
    Part.settles_defaulted rfl (Decode.settles_list CheckResult.settles), List.forall_mem_nil _⟩

end ValidationResult

end ScreenLogic
