import ScreenLogic.Action.Wire
import ScreenLogic.Proofs.Decode.Settling
import ScreenLogic.Proofs.Fields

/-!
# Records

A record is read field by field. What a field contributes depends on what is found under its name,
whatever else is in the object, and it does not matter whether the fields are told by name or, in
an array, by position. It is written field by field as well, so that it comes back as it was if
each of its fields does.

## Main definitions

* `Decode.Part`: a field of a record, as it is read and written.
* `Decode.IsRecord`: a type that is read and written part by part.
* `Decode.ReadsArrays`: what is read from an object is read from the array of its fields.

## Main statements

* `Decode.IsRecord.decode_toValue_iff`: a record survives the wire if its parts do.
* `Decode.IsRecord.settles`: reading settles if it settles for each part.
* `Decode.IsRecord.readsArrays`: by name and by position the same record is read.
-/

namespace ScreenLogic

namespace Decode

/-- What is found under the name of a field is accepted, and nothing may be missing but what has a
value to fall back on. -/
def Field.Fits (field : Field) : Option Value → Prop
  | some v => field.accepts v = .ok ()
  | none => field.isRequired = false

/-- A field of a record: the records that may be read as far as what is found under its name is
concerned, and what is written there, if anything. -/
structure Part (ρ : Type) where
  field : Field
  Reads : Option Value → ρ → Prop
  written : ρ → Option Value
  fits : ∀ {found r}, Reads found r → field.Fits found

variable {α ρ : Type}

namespace Part

/-- A record comes back as far as this part is concerned. -/
def Survives (part : Part ρ) (r : ρ) : Prop := part.Reads (part.written r) r

protected def Settles (part : Part ρ) : Prop := ∀ found r, part.Reads found r → part.Survives r

/-- A field that has to be there, and always is written. -/
def required (name : String) (decode : Decoder α) (write : α → Value) (component : ρ → α) :
    Part ρ where
  field := .required name decode
  Reads found r := ∃ v, found = some v ∧ decode v = .ok (component r)
  written r := some (write (component r))
  fits := by
    rintro _ r ⟨v, rfl, hv⟩
    simp [Field.required, Field.Fits, hv, Except.map]

/-- A field with a value to fall back on, which may be left out. -/
def defaulted (name : String) (decode : Decoder α) (fallback : α) (write : α → Option Value)
    (component : ρ → α) : Part ρ where
  field := .defaulted name decode
  Reads found r := found.elim (.ok fallback) decode = .ok (component r)
  written r := write (component r)
  fits := by
    rintro (_ | v) r h
    · rfl
    · have hv : decode v = .ok (component r) := h
      simp [Field.defaulted, Field.Fits, hv, Except.map]

/-- A field that is left out if there is nothing to write. -/
def optional (name : String) (decode : Decoder α) (write : α → Value) (component : ρ → Option α) :
    Part ρ :=
  defaulted name (Decode.optional decode) none (Option.map write) component

section

variable {name : String} {decode : Decoder α} {fallback : α} {component : ρ → α} {r : ρ}

theorem reads_required {write : α → Value} {present : Fields Value} :
    (required name decode write component).Reads
        (Fields.get? present (required name decode write component).field.name) r ↔
      need present name decode = .ok (component r) :=
  need_eq_ok.symm

theorem reads_defaulted {write : α → Option Value} {present : Fields Value} :
    (defaulted name decode fallback write component).Reads
        (Fields.get? present (defaulted name decode fallback write component).field.name) r ↔
      orElse present name decode fallback = .ok (component r) := by
  change (Fields.get? present name).elim (.ok fallback) decode = _ ↔ _
  rw [orElse]
  cases Fields.get? present name <;> rfl

theorem reads_optional {write : α → Value} {component : ρ → Option α} {present : Fields Value} :
    (optional name decode write component).Reads
        (Fields.get? present (optional name decode write component).field.name) r ↔
      orElse present name (Decode.optional decode) none = .ok (component r) :=
  reads_defaulted

theorem survives_required {write : α → Value} :
    (required name decode write component).Survives r ↔
      decode (write (component r)) = .ok (component r) := by
  simp [Survives, required]

theorem survives_defaulted {write : α → Option Value} :
    (defaulted name decode fallback write component).Survives r ↔
      (write (component r)).elim (.ok fallback) decode = .ok (component r) :=
  Iff.rfl

theorem survives_optional {write : α → Value} {component : ρ → Option α} :
    (optional name decode write component).Survives r ↔
      ∀ a, component r = some a → write a ≠ .null ∧ decode (write a) = .ok a :=
  optional_map_iff

theorem settles_required {write : α → Value} (h : Settles decode write) :
    (required name decode write component).Settles := by
  rintro _ r ⟨v, -, hv⟩
  exact survives_required.mpr (h v _ hv)

theorem settles_defaulted {write : α → Option Value}
    (hfallback : (write fallback).elim (.ok fallback) decode = .ok fallback)
    (h : ∀ v a, decode v = .ok a → (write a).elim (.ok fallback) decode = .ok a) :
    (defaulted name decode fallback write component).Settles := by
  rintro (_ | v) r hr
  · have hr : fallback = component r := Except.ok.inj hr
    rwa [survives_defaulted, ← hr]
  · exact survives_defaulted.mpr (h v _ hr)

theorem settles_optional {write : α → Value} {component : ρ → Option α}
    (h : ∀ v a, v ≠ .null → decode v = .ok a → write a ≠ .null ∧ decode (write a) = .ok a) :
    (optional name decode write component).Settles := by
  refine settles_defaulted rfl fun v o hv => optional_map_iff.mpr ?_
  rintro a rfl
  obtain ⟨hnull, ha⟩ := decode_of_optional hv
  exact h v a hnull ha

end

end Part

/-! ## Fields that are present -/

section Present

variable {name : String} {fields : List Field} {entries present : Fields Value} {vs : List Value}

/-- Whether a record has a field of a name. -/
def isKnown (fields : List Field) (name : String) : Bool := (fields.find? (·.name == name)).isSome

theorem isKnown_of_mem {field : Field} (h : field ∈ fields) : isKnown fields field.name := by
  rw [isKnown, List.find?_isSome]
  exact ⟨field, h, beq_self_eq_true _⟩

/-- The fields that are present are the entries with known names, if all these are accepted. -/
theorem knownEntries_eq_ok_iff : knownEntries fields entries = .ok present ↔
    (∀ entry ∈ entries, ∀ field, fields.find? (·.name == entry.1) = some field →
      field.accepts entry.2 = .ok ()) ∧
    present = entries.filter fun entry => isKnown fields entry.1 := by
  induction entries generalizing present with
  | nil => simp [knownEntries, eq_comm]
  | cons entry rest ih =>
    obtain ⟨k, v⟩ := entry
    rw [List.forall_mem_cons, List.filter_cons, knownEntries, isKnown]
    cases hfind : fields.find? (·.name == k) with
    | none => simpa using ih
    | some field =>
      simp only [bind_eq_ok, ih, Option.some.injEq, forall_eq', Option.isSome_some, if_true]
      constructor
      · rintro ⟨_, haccepts, known, ⟨hrest, rfl⟩, hpresent⟩
        exact ⟨⟨haccepts, hrest⟩, (Except.ok.inj hpresent).symm⟩
      · rintro ⟨⟨haccepts, hrest⟩, rfl⟩
        exact ⟨_, haccepts, _, ⟨hrest, rfl⟩, rfl⟩

theorem firstMissing?_eq_none_iff : firstMissing? fields present = none ↔
    ∀ field ∈ fields, field.isRequired → Fields.has present field.name := by
  simp [firstMissing?]

theorem record_obj_eq_ok_iff : record name fields (.obj entries) = .ok present ↔
    knownEntries fields entries = .ok present ∧ firstMissing? fields present = none := by
  rw [record, bind_eq_ok]
  constructor
  · rintro ⟨known, hknown, h⟩
    cases hmissing : firstMissing? fields known with
    | none =>
      rw [hmissing] at h
      obtain rfl := Except.ok.inj h
      exact ⟨hknown, hmissing⟩
    | some field =>
      rw [hmissing] at h
      cases h
  · rintro ⟨hknown, hmissing⟩
    refine ⟨present, hknown, ?_⟩
    rw [hmissing]
    rfl

/-- What is read of a field is what the object has under its name. -/
theorem get?_record_obj (h : record name fields (.obj entries) = .ok present) {field : Field}
    (hfield : field ∈ fields) :
    Fields.get? present field.name = Fields.get? entries field.name := by
  obtain ⟨-, rfl⟩ := knownEntries_eq_ok_iff.mp (record_obj_eq_ok_iff.mp h).1
  rw [Fields.get?_filter, if_pos (isKnown_of_mem hfield)]

/-- An object is accepted if what it has under the names of the fields suits them. -/
theorem exists_record_obj (name : String) (hkeys : (Fields.keys entries).Nodup)
    (hfits : ∀ field ∈ fields, field.Fits (Fields.get? entries field.name)) :
    ∃ present, record name fields (.obj entries) = .ok present := by
  refine ⟨_, record_obj_eq_ok_iff.mpr ⟨knownEntries_eq_ok_iff.mpr ⟨?_, rfl⟩,
    firstMissing?_eq_none_iff.mpr ?_⟩⟩
  · intro entry hentry field hfind
    have hfound := List.find?_some hfind
    have hname : field.name = entry.1 := eq_of_beq hfound
    have hfit := hfits field (List.mem_of_find?_eq_some hfind)
    rwa [hname, Fields.get?_eq_some_of_mem hkeys hentry] at hfit
  · intro field hfield hrequired
    have hfit := hfits field hfield
    rw [Fields.has, Fields.get?_filter, if_pos (isKnown_of_mem hfield)]
    cases hget : Fields.get? entries field.name with
    | some v => rfl
    | none =>
      rw [hget] at hfit
      exact absurd hrequired (by simp [show field.isRequired = false from hfit])

/-- An array is accepted if its elements suit the fields in their places. -/
theorem exists_positional (record : String) (arity position : Nat)
    (hnames : (fields.map (·.name)).Nodup)
    (hvs : fields.map (fun field => Fields.get? entries field.name) = vs.map some)
    (hfits : ∀ field ∈ fields, field.Fits (Fields.get? entries field.name)) :
    ∃ present, positional record arity fields vs position = .ok present ∧
      ∀ field ∈ fields, Fields.get? present field.name = Fields.get? entries field.name := by
  induction fields generalizing vs position with
  | nil =>
    obtain rfl : vs = [] := by simpa using hvs
    exact ⟨[], rfl, List.forall_mem_nil _⟩
  | cons field fields ih =>
    cases vs with
    | nil => cases hvs
    | cons v vs =>
      obtain ⟨hget, hvs⟩ := List.cons.inj hvs
      replace hget : Fields.get? entries field.name = some v := hget
      obtain ⟨hname, hnames⟩ := List.nodup_cons.mp hnames
      obtain ⟨hfit, hfits⟩ := List.forall_mem_cons.mp hfits
      obtain ⟨present, hpresent, hsame⟩ := ih (position + 1) hnames hvs hfits
      rw [hget] at hfit
      refine ⟨(field.name, v) :: present, ?_, List.forall_mem_cons.mpr ⟨?_, fun other hother => ?_⟩⟩
      · rw [positional, show field.accepts v = .ok () from hfit, hpresent]
        rfl
      · rw [Fields.get?_cons, if_pos rfl, hget]
      · have hne : field.name ≠ other.name := fun heq =>
          hname (List.mem_map.mpr ⟨other, hother, heq.symm⟩)
        rw [Fields.get?_cons, if_neg hne, hsame other hother]

end Present

/-! ## What is written -/

namespace Part

/-- The entries of a record. -/
def entries (parts : List (Part ρ)) (r : ρ) : List (String × Value) :=
  parts.flatMap fun part => wireField part.field.name (part.written r)

@[simp] theorem entries_nil (r : ρ) : entries [] r = [] := rfl

@[simp] theorem entries_required_cons (name : String) (decode : Decoder α) (write : α → Value)
    (component : ρ → α) (parts : List (Part ρ)) (r : ρ) :
    entries (required name decode write component :: parts) r =
      (name, write (component r)) :: entries parts r :=
  rfl

@[simp] theorem entries_defaulted_cons (name : String) (decode : Decoder α) (fallback : α)
    (write : α → Option Value) (component : ρ → α) (parts : List (Part ρ)) (r : ρ) :
    entries (defaulted name decode fallback write component :: parts) r =
      wireField name (write (component r)) ++ entries parts r :=
  rfl

@[simp] theorem entries_optional_cons (name : String) (decode : Decoder α) (write : α → Value)
    (component : ρ → Option α) (parts : List (Part ρ)) (r : ρ) :
    entries (optional name decode write component :: parts) r =
      wireField name ((component r).map write) ++ entries parts r :=
  rfl

theorem get?_reverse_wireField (name key : String) (v : Option Value) :
    Fields.get? (wireField name v).reverse key = if name = key then v else none := by
  cases v <;> simp [wireField, Fields.get?_cons]

theorem get?_reverse_entries_of_notMem {parts : List (Part ρ)} {key : String}
    (h : key ∉ parts.map (·.field.name)) (r : ρ) :
    Fields.get? (entries parts r).reverse key = none := by
  induction parts with
  | nil => rfl
  | cons part parts ih =>
    obtain ⟨hpart, hparts⟩ := not_or.mp (mt List.mem_cons.mpr h)
    rw [entries, List.flatMap_cons, List.reverse_append, Fields.get?_append,
      get?_reverse_wireField, if_neg (Ne.symm hpart), Option.or_none]
    exact ih hparts

theorem get?_reverse_entries {parts : List (Part ρ)} (hnames : (parts.map (·.field.name)).Nodup)
    {part : Part ρ} (hpart : part ∈ parts) (r : ρ) :
    Fields.get? (entries parts r).reverse part.field.name = part.written r := by
  induction parts with
  | nil => cases hpart
  | cons first parts ih =>
    obtain ⟨hfirst, hrest⟩ := List.nodup_cons.mp hnames
    rw [entries, List.flatMap_cons, List.reverse_append, Fields.get?_append,
      get?_reverse_wireField]
    rcases List.mem_cons.mp hpart with rfl | hpart
    · rw [if_pos rfl]
      have hnone := get?_reverse_entries_of_notMem hfirst r
      rw [entries] at hnone
      rw [hnone, Option.none_or]
    · have hne : first.field.name ≠ part.field.name := fun heq =>
        hfirst (List.mem_map.mpr ⟨part, hpart, heq.symm⟩)
      rw [if_neg hne, Option.or_none]
      exact ih hrest hpart

end Part

/-! ## Records -/

/-- A type is read part by part from the fields that are present, and written part by part. -/
structure IsRecord (decode : Decoder ρ) (toValue : ρ → Value) (name : String)
    (parts : List (Part ρ)) : Prop where
  nodup : (parts.map (·.field.name)).Nodup
  decode_eq_ok_iff : ∀ {v r}, decode v = .ok r ↔
    ∃ present, record name (parts.map (·.field)) v = .ok present ∧
      ∀ part ∈ parts, part.Reads (Fields.get? present part.field.name) r
  toValue_eq : ∀ r, toValue r = wireObject (Part.entries parts r)

/-- The fields of a record may as well come in an array, in the order of their declaration. -/
def ReadsArrays (decode : Decoder ρ) (fields : List Field) : Prop :=
  ∀ entries r, decode (.obj entries) = .ok r →
    ∀ vs, fields.map (fun field => Fields.get? entries field.name) = vs.map some →
      decode (.arr vs) = .ok r

namespace IsRecord

variable {decode : Decoder ρ} {toValue : ρ → Value} {name : String} {parts : List (Part ρ)}
  (h : IsRecord decode toValue name parts)

include h

theorem reads_of_decode_obj {entries : Fields Value} {r : ρ} (hr : decode (.obj entries) = .ok r) :
    ∀ part ∈ parts, part.Reads (Fields.get? entries part.field.name) r := by
  obtain ⟨present, hpresent, hreads⟩ := h.decode_eq_ok_iff.mp hr
  intro part hpart
  rw [← get?_record_obj hpresent (List.mem_map_of_mem hpart)]
  exact hreads part hpart

/-- From an object with distinct names that record is read which all parts read. -/
theorem decode_obj_iff {entries : Fields Value} {r : ρ} (hkeys : (Fields.keys entries).Nodup) :
    decode (.obj entries) = .ok r ↔
      ∀ part ∈ parts, part.Reads (Fields.get? entries part.field.name) r := by
  refine ⟨h.reads_of_decode_obj, fun hreads => ?_⟩
  have hfits : ∀ field ∈ parts.map (·.field), field.Fits (Fields.get? entries field.name) :=
    List.forall_mem_map.mpr fun part hpart => part.fits (hreads part hpart)
  obtain ⟨present, hpresent⟩ := exists_record_obj name hkeys hfits
  refine h.decode_eq_ok_iff.mpr ⟨present, hpresent, fun part hpart => ?_⟩
  rw [get?_record_obj hpresent (List.mem_map_of_mem hpart)]
  exact hreads part hpart

/-- A record survives the wire if its parts do. -/
theorem decode_toValue_iff {r : ρ} :
    decode (toValue r) = .ok r ↔ ∀ part ∈ parts, part.Survives r := by
  rw [h.toValue_eq, wireObject, h.decode_obj_iff (Fields.nodup_keys (Fields.wellFormed_ofList _))]
  refine forall₂_congr fun part hpart => ?_
  rw [Fields.get?_ofList, Part.get?_reverse_entries h.nodup hpart, Part.Survives]

theorem settles (hparts : ∀ part ∈ parts, part.Settles) : Settles decode toValue := by
  intro v r hr
  obtain ⟨present, -, hreads⟩ := h.decode_eq_ok_iff.mp hr
  exact h.decode_toValue_iff.mpr fun part hpart => hparts part hpart _ r (hreads part hpart)

/-- By name and by position the same record is read. -/
theorem readsArrays : ReadsArrays decode (parts.map (·.field)) := by
  intro entries r hr vs hvs
  have hreads := h.reads_of_decode_obj hr
  obtain ⟨present, hpresent, hsame⟩ := exists_positional name (parts.map (·.field)).length 0
    (by simpa [Function.comp_def] using h.nodup) hvs
    (List.forall_mem_map.mpr fun part hpart => part.fits (hreads part hpart))
  refine h.decode_eq_ok_iff.mpr ⟨present, hpresent, fun part hpart => ?_⟩
  rw [hsame part.field (List.mem_map_of_mem hpart)]
  exact hreads part hpart

end IsRecord

end Decode

end ScreenLogic
