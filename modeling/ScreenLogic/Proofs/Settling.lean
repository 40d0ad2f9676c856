import ScreenLogic.Executor.Config
import ScreenLogic.Proofs.Validation.RoundTrip
import ScreenLogic.Proofs.Visibility.RoundTrip

/-!
# Reading settles

Whatever spelling a rule, an action, a context, a result or a configuration comes in, what was
read is read again from what is written for it. Nothing is lost or invented after the first time.

## Main statements

* `decoding_settles`: reading settles after one pass, and a record may come as an array.
-/

namespace ScreenLogic

open Decode (Settles Part ReadsArrays)

namespace Decode

theorem settles_count (expected : String) : Settles (count expected) fun n => .int n :=
  settles_of_forall fun n => by simp [count, Value.int]

/-- What is absent may be written as null. -/
theorem settles_optional_or_null {α : Type} {decode : Decoder α} {write : α → Value}
    (h : ∀ v a, v ≠ .null → decode v = .ok a → write a ≠ .null ∧ decode (write a) = .ok a) :
    Settles (optional decode) fun o => o.elim .null write := by
  rintro v (_ | a) hv
  · rfl
  · obtain ⟨hnull, ha⟩ := decode_of_optional hv
    obtain ⟨hnull, ha⟩ := h v a hnull ha
    change optional decode (write a) = _
    rw [optional_of_ne_null hnull, ha]
    rfl

end Decode

namespace Config

theorem timeoutValue_eq (c : Config) :
    c.timeoutValue = c.handlerTimeout.elim .null fun ms => .int ms := by
  unfold timeoutValue
  cases c.handlerTimeout <;> rfl

theorem isRecord : Decode.IsRecord decode toValue "ExecutorConfig"
    [.defaulted "error_message_sentinel" Decode.text initial.errorMessageSentinel
       (fun s => some (.str s)) errorMessageSentinel,
     .defaulted "max_chain_depth" (Decode.count "usize") initial.maxChainDepth
       (fun n => some (.int n)) maxChainDepth,
     .defaulted "handler_timeout_ms" (Decode.optional (Decode.count "u64")) initial.handlerTimeout
       (fun o => some (o.elim .null fun ms => .int ms)) handlerTimeout] where
  nodup := by decide
  decode_eq_ok_iff := by
    intro v r
    simp only [decode, Decode.bind_eq_ok, List.forall_mem_cons, Part.reads_defaulted, pure,
      Except.pure, Except.ok.injEq]
    refine exists_congr fun present => and_congr_right fun _ => ?_
    grind
  toValue_eq c := by simp [toValue, timeoutValue_eq, wireField]

theorem settles : Settles decode toValue := by
  refine isRecord.settles ?_
  simp only [List.forall_mem_cons]
  refine ⟨Part.settles_defaulted rfl fun _ _ _ => rfl,
    Part.settles_defaulted rfl (Decode.settles_count "usize"),
    Part.settles_defaulted rfl ?_, List.forall_mem_nil _⟩
  exact Decode.settles_optional_or_null fun v n _ h =>
    ⟨Value.noConfusion, Decode.settles_count "u64" v n h⟩

end Config

/-- What was read is read again from what is written for it, a context from every list of its
facts. What is read from an object that has all fields of a record is read from the array of
these fields in the order of their declaration. -/
theorem decoding_settles :
    (Settles Rule.decode Rule.toValue ∧ Settles Check.decode Check.toValue ∧
      Settles Action.decode Action.toValue ∧ Settles ConfirmSpec.decode ConfirmSpec.toValue ∧
      Settles Effect.decode Effect.toValue ∧ Settles AuthContext.decode AuthContext.toValue ∧
      Settles ValidationResult.decode ValidationResult.toValue ∧
      Settles Config.decode Config.toValue) ∧
    (∀ v auth, AuthContext.decode v = .ok auth →
      ∀ facts : List String, (∀ name, name ∈ facts ↔ name ∈ auth.facts) →
        AuthContext.decode (.obj [("facts", .ofStrings facts), ("signedIn", .bool auth.signedIn)]) =
          .ok auth) ∧
    ReadsArrays Rule.decode Rule.fields ∧ ReadsArrays Check.decode Check.fields ∧
    ReadsArrays Action.decode Action.fields ∧
    ReadsArrays ConfirmSpec.decode ConfirmSpec.fields ∧
    ReadsArrays AuthContext.decode AuthContext.fields ∧
    ReadsArrays ValidationResult.decode ValidationResult.fields ∧
    ReadsArrays Config.decode Config.fields := by
  refine ⟨⟨Rule.settles, Check.settles, Action.settles, ?_, Effect.settles, AuthContext.settles,
    ValidationResult.settles, Config.settles⟩, ?_, Rule.isRecord.readsArrays,
    Check.isRecord.readsArrays, Action.isRecord.readsArrays, ConfirmSpec.isRecord.readsArrays,
    AuthContext.readsArrays, ValidationResult.isRecord.readsArrays, Config.isRecord.readsArrays⟩
  · exact Decode.settles_of_forall ConfirmSpec.decode_toValue
  · exact fun v auth h facts hfacts => AuthContext.decode_of_same_facts h hfacts

end ScreenLogic
