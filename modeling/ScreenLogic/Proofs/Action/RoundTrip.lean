import ScreenLogic.Proofs.Decode.Record
import ScreenLogic.Proofs.Logic.RoundTrip

/-!
# Actions that survive the wire

A binding is read back as it was unless it is a literal that is written like a reference. All
else in an action is told apart on the wire, so that an action survives it if its bindings do.

## Main definitions

* `Binding.Canonical`: bindings that survive the wire.

## Main statements

* `Action.decode_toValue_iff`: actions that survive the wire.
* `Action.settles`: what was read as an action survives it.
-/

namespace ScreenLogic

open Decode (Settles Part)

namespace Binding

/-- A binding is what it is read as when it was written. -/
def Canonical (b : Binding) : Prop := ofValue b.toValue = b

theorem canonical_ofValue (v : Value) : (ofValue v).Canonical := by
  rw [Canonical, toValue_ofValue]

theorem canonical_iff {b : Binding} :
    b.Canonical ↔ ∀ path, b ≠ .literal (.obj [("path", .str path)]) := by
  cases b with
  | reference path => simp [Canonical, toValue, ofValue]
  | literal v =>
    simp only [Canonical, toValue, ne_eq, literal.injEq]
    constructor
    · rintro h path rfl
      cases h
    · intro h
      unfold ofValue
      split
      · exact absurd rfl (h _)
      · rfl

theorem decodeAll_toValues_iff {bs : Fields Binding} :
    decodeAll (toValues bs) = .ok bs ↔ ∀ b ∈ bs, b.2.Canonical := by
  simp [decodeAll, toValues, Decode.entries_mapValues_iff, decode, Canonical]

/-- Bindings are not written if there are none. -/
def written (bs : Fields Binding) : Option Value :=
  if bs.isEmpty then none else some (toValues bs)

theorem written_elim_iff {bs : Fields Binding} :
    (written bs).elim (.ok []) decodeAll = .ok bs ↔ ∀ b ∈ bs, b.2.Canonical := by
  cases bs with
  | nil => simp [written]
  | cons b bs => exact decodeAll_toValues_iff

theorem canonical_of_decodeAll {v : Value} {bs : Fields Binding} (h : decodeAll v = .ok bs) :
    ∀ b ∈ bs, b.2.Canonical := by
  intro b hb
  obtain ⟨w, hw⟩ := Decode.exists_decode_of_mem_entries h hb
  rw [← Except.ok.inj hw]
  exact canonical_ofValue w

theorem settles_decodeAll {ρ : Type} {name : String} {component : ρ → Fields Binding} :
    (Part.defaulted name decodeAll [] written component).Settles :=
  Part.settles_defaulted rfl fun _ _ h => written_elim_iff.mpr (canonical_of_decodeAll h)

end Binding

namespace Emphasis

theorem decode_toValue (e : Emphasis) : decode e.toValue = .ok e := by
  cases e <;> rfl

theorem toValue_ne_null (e : Emphasis) : e.toValue ≠ .null := Value.noConfusion

end Emphasis

namespace ConfirmSpec

theorem isRecord : Decode.IsRecord decode toValue "ConfirmSpec"
    [.required "title" Decode.text .str title,
     .required "message" Decode.text .str message,
     .optional "confirmLabel" Decode.text .str confirmLabel,
     .optional "cancelLabel" Decode.text .str cancelLabel,
     .optional "variant" Emphasis.decode Emphasis.toValue variant] where
  nodup := by decide
  decode_eq_ok_iff := by
    intro v r
    simp only [decode, Decode.bind_eq_ok, List.forall_mem_cons, Part.reads_required,
      Part.reads_optional, pure, Except.pure, Except.ok.injEq]
    refine exists_congr fun present => and_congr_right fun _ => ?_
    grind
  toValue_eq spec := by simp [toValue]

theorem decode_toValue (spec : ConfirmSpec) : decode spec.toValue = .ok spec := by
  simp [isRecord.decode_toValue_iff, Part.survives_required, Part.survives_optional, Decode.text,
    Emphasis.toValue_ne_null, Emphasis.decode_toValue]

theorem toValue_ne_null (spec : ConfirmSpec) : spec.toValue ≠ .null := Value.noConfusion

end ConfirmSpec

namespace Effect

theorem decode_toValue_iff {effect : Effect} :
    decode effect.toValue = .ok effect ↔
      ∀ target, effect = .navigate target → target.Canonical := by
  rw [decode, Decode.expression_eq_ok_iff]
  cases effect with
  | navigate target => simp [toValue, ofValue, Fields.get?, Binding.Canonical]
  | set entries => simp [toValue, ofValue, Fields.get?]
  | chain name => simp [toValue, ofValue, Fields.get?]

theorem settles : Settles decode toValue := by
  intro v effect h
  rw [decode, Decode.expression_eq_ok_iff] at h
  refine decode_toValue_iff.mpr ?_
  rintro target rfl
  unfold ofValue at h
  repeat' split at h
  all_goals cases h
  exact Binding.canonical_ofValue _

theorem toValue_ne_null (effect : Effect) : effect.toValue ≠ .null := by
  cases effect <;> nofun

end Effect

namespace Action

theorem isRecord : Decode.IsRecord decode toValue "Action"
    [.required "name" Decode.text .str name,
     .defaulted "params" Binding.decodeAll [] Binding.written params,
     .optional "confirm" ConfirmSpec.decode ConfirmSpec.toValue confirm,
     .optional "onSuccess" Effect.decode Effect.toValue onSuccess,
     .optional "onError" Effect.decode Effect.toValue onError] where
  nodup := by decide
  decode_eq_ok_iff := by
    intro v r
    simp only [decode, Decode.bind_eq_ok, List.forall_mem_cons, Part.reads_required,
      Part.reads_defaulted, Part.reads_optional, pure, Except.pure, Except.ok.injEq]
    refine exists_congr fun present => and_congr_right fun _ => ?_
    grind
  toValue_eq action := by simp [toValue, Binding.written]

/-- An action survives the wire if its parameters and the targets of its effects do. -/
theorem decode_toValue_iff {action : Action} :
    decode action.toValue = .ok action ↔
      (∀ param ∈ action.params, param.2.Canonical) ∧
      ∀ target, action.onSuccess = some (.navigate target) ∨
        action.onError = some (.navigate target) → target.Canonical := by
  simp only [isRecord.decode_toValue_iff, List.forall_mem_cons, Part.survives_required,
    Part.survives_defaulted, Part.survives_optional, Binding.written_elim_iff,
    Effect.decode_toValue_iff]
  grind [Decode.text, ConfirmSpec.toValue_ne_null, ConfirmSpec.decode_toValue,
    Effect.toValue_ne_null]

theorem settles : Settles decode toValue := by
  have heffect : ∀ v effect, v ≠ .null → Effect.decode v = .ok effect →
      effect.toValue ≠ .null ∧ Effect.decode effect.toValue = .ok effect :=
    fun v effect _ h => ⟨effect.toValue_ne_null, Effect.settles v effect h⟩
  refine isRecord.settles ?_
  simp only [List.forall_mem_cons]
  exact ⟨Part.settles_required Decode.settles_text, Binding.settles_decodeAll,
    Part.settles_optional fun _ spec _ _ => ⟨spec.toValue_ne_null, spec.decode_toValue⟩,
    Part.settles_optional heffect, Part.settles_optional heffect, List.forall_mem_nil _⟩

end Action

end ScreenLogic
