import Mathlib.Data.List.Sort
import ScreenLogic.Proofs.Decode.Record
import ScreenLogic.Proofs.Visibility.Facts

/-!
# Contexts that survive the wire

The facts of a context are a set: in which order they come, and how often each of them does, makes
no difference to what is read.

## Main statements

* `AuthContext.ofFacts_congr`: a context depends on its set of facts only.
* `AuthContext.settles`: a context that was read survives the wire.
-/

namespace ScreenLogic.AuthContext

open Decode (Settles Part)

/-! ## Sets of facts -/

theorem pairwise_insertFact {facts : List String} (h : facts.Pairwise (· < ·)) (fact : String) :
    (insertFact facts fact).Pairwise (· < ·) := by
  induction facts with
  | nil => exact List.pairwise_singleton _ _
  | cons first rest ih =>
    obtain ⟨hfirst, hrest⟩ := List.pairwise_cons.mp h
    simp only [insertFact]
    split
    · exact h
    · rename_i hne
      split
      · rename_i hlt
        refine List.pairwise_cons.mpr ⟨List.forall_mem_cons.mpr ⟨hlt, fun f hf => ?_⟩, h⟩
        exact String.lt_trans hlt (hfirst f hf)
      · rename_i hlt
        refine List.pairwise_cons.mpr ⟨fun f hf => ?_, ih hrest⟩
        rcases mem_insertFact.mp hf with rfl | hf
        · exact String.not_le.mp fun hle => hne (String.le_antisymm (String.not_lt.mp hlt) hle)
        · exact hfirst f hf

theorem pairwise_foldl_insertFact (facts : List String) {known : List String}
    (h : known.Pairwise (· < ·)) : (facts.foldl insertFact known).Pairwise (· < ·) := by
  induction facts generalizing known with
  | nil => exact h
  | cons fact facts ih => exact ih (pairwise_insertFact h fact)

theorem mem_foldl_insertFact {facts known : List String} {name : String} :
    name ∈ facts.foldl insertFact known ↔ name ∈ facts ∨ name ∈ known := by
  induction facts generalizing known with
  | nil => simp
  | cons fact facts ih =>
    rw [List.foldl_cons, ih, mem_insertFact, List.mem_cons]
    grind

theorem mem_facts_ofFacts {signedIn : Bool} {facts : List String} {name : String} :
    name ∈ (ofFacts signedIn facts).facts ↔ name ∈ facts := by
  simp [ofFacts, mem_foldl_insertFact]

/-- A context depends on its set of facts only. -/
theorem ofFacts_congr (signedIn : Bool) {facts others : List String}
    (h : ∀ name, name ∈ facts ↔ name ∈ others) :
    ofFacts signedIn facts = ofFacts signedIn others := by
  have hfacts : facts.foldl insertFact [] = others.foldl insertFact [] := by
    refine (pairwise_foldl_insertFact facts .nil).eq_of_mem_iff
      (pairwise_foldl_insertFact others .nil) fun name => ?_
    simp [mem_foldl_insertFact, h]
  rw [ofFacts, ofFacts, hfacts]

/-! ## Reading and writing -/

/-- What a context is read from: whether somebody is signed in, and a list of facts. -/
def decodeParts : Decoder (Bool × List String) := fun v => do
  let present ← Decode.record "AuthContext" fields v
  let signedIn ← Decode.need present "signedIn" Decode.flag
  let facts ← Decode.orElse present "facts" (Decode.list Decode.text) []
  return (signedIn, facts)

theorem decode_eq_ok_iff {v : Value} {auth : AuthContext} :
    decode v = .ok auth ↔ ∃ parts, decodeParts v = .ok parts ∧ ofFacts parts.1 parts.2 = auth := by
  simp only [decode, decodeParts, Decode.bind_eq_ok, pure, Except.pure, Except.ok.injEq]
  grind

theorem isRecord : Decode.IsRecord decodeParts
    (fun parts => .obj [("facts", .ofStrings parts.2), ("signedIn", .bool parts.1)]) "AuthContext"
    [.required "signedIn" Decode.flag .bool Prod.fst,
     .defaulted "facts" (Decode.list Decode.text) [] (fun facts => some (.ofStrings facts))
       Prod.snd] where
  nodup := by decide
  decode_eq_ok_iff := by
    intro v r
    simp only [decodeParts, Decode.bind_eq_ok, List.forall_mem_cons, Part.reads_required,
      Part.reads_defaulted, pure, Except.pure, Except.ok.injEq]
    refine exists_congr fun present => and_congr_right fun _ => ?_
    grind
  toValue_eq parts := by
    have hlt : "facts" < "signedIn" := by decide
    have hput : Fields.ofList [("signedIn", .bool parts.1), ("facts", .ofStrings parts.2)] =
        [("facts", .ofStrings parts.2), ("signedIn", Value.bool parts.1)] := if_pos hlt
    exact congrArg Value.obj hput.symm

theorem decodeParts_ofStrings (signedIn : Bool) (facts : List String) :
    decodeParts (.obj [("facts", .ofStrings facts), ("signedIn", .bool signedIn)]) =
      .ok (signedIn, facts) := by
  refine (isRecord.decode_toValue_iff (r := (signedIn, facts))).mpr ?_
  simp only [List.forall_mem_cons, Part.survives_required, Part.survives_defaulted]
  exact ⟨rfl, Decode.list_map_iff.mpr fun _ _ => rfl, List.forall_mem_nil _⟩

/-- A context that was read is read from every list of its facts. -/
theorem decode_of_same_facts {v : Value} {auth : AuthContext} (h : decode v = .ok auth)
    {facts : List String} (hfacts : ∀ name, name ∈ facts ↔ name ∈ auth.facts) :
    decode (.obj [("facts", .ofStrings facts), ("signedIn", .bool auth.signedIn)]) = .ok auth := by
  obtain ⟨⟨signedIn, names⟩, -, rfl⟩ := decode_eq_ok_iff.mp h
  exact decode_eq_ok_iff.mpr ⟨(signedIn, facts), decodeParts_ofStrings signedIn facts,
    ofFacts_congr signedIn fun name => (hfacts name).trans mem_facts_ofFacts⟩

theorem settles : Settles decode toValue :=
  fun _ _ h => decode_of_same_facts h fun _ => Iff.rfl

theorem readsArrays : Decode.ReadsArrays decode fields := by
  intro entries auth h vs hvs
  obtain ⟨parts, hparts, hauth⟩ := decode_eq_ok_iff.mp h
  exact decode_eq_ok_iff.mpr ⟨parts, isRecord.readsArrays entries parts hparts vs hvs, hauth⟩

end ScreenLogic.AuthContext
