import ScreenLogic.Fields

/-!
# Laws of named entries

Looking up after writing and erasing, that both keep the names in order, and that writes to
different names commute.
-/

namespace ScreenLogic.Fields

universe u v

variable {α : Type u}

/-! ## Looking up -/

@[simp] theorem get?_nil (key : String) : get? ([] : Fields α) key = none := rfl

theorem get?_cons (entry : String × α) (rest : Fields α) (key : String) :
    get? (entry :: rest) key = if entry.1 = key then some entry.2 else get? rest key := rfl

theorem has_cons (entry : String × α) (rest : Fields α) (key : String) :
    has (entry :: rest) key = (decide (entry.1 = key) || has rest key) := by
  by_cases h : entry.1 = key <;> simp [has, get?_cons, h]

theorem mem_keys_iff_get?_ne_none (fields : Fields α) (key : String) :
    key ∈ keys fields ↔ get? fields key ≠ none := by
  induction fields with
  | nil => simp [keys]
  | cons entry rest ih =>
    rw [get?_cons]
    by_cases h : entry.1 = key
    · simp [keys, h]
    · rw [if_neg h, ← ih]
      simp [keys, Ne.symm h]

theorem get?_append (fields others : Fields α) (key : String) :
    get? (fields ++ others) key = (get? fields key).or (get? others key) := by
  induction fields with
  | nil => rfl
  | cons entry rest ih =>
    rw [List.cons_append, get?_cons, get?_cons, ih]
    split <;> rfl

theorem get?_filter (p : String → Bool) (fields : Fields α) (key : String) :
    get? (fields.filter fun entry => p entry.1) key = if p key then get? fields key else none := by
  induction fields with
  | nil => simp
  | cons entry rest ih =>
    obtain ⟨k, v⟩ := entry
    by_cases hk : k = key
    · subst hk
      cases hp : p k <;> simp [hp, ih, get?_cons]
    · cases hp : p k <;> simp [hp, ih, get?_cons, hk]

theorem get?_eq_some_of_mem {fields : Fields α} (hkeys : (keys fields).Nodup)
    {entry : String × α} (h : entry ∈ fields) : get? fields entry.1 = some entry.2 := by
  induction fields with
  | nil => cases h
  | cons first rest ih =>
    obtain ⟨hfirst, hrest⟩ := List.nodup_cons.mp hkeys
    rw [get?_cons]
    rcases List.mem_cons.mp h with rfl | h
    · rw [if_pos rfl]
    · have hmem : entry.1 ∈ keys rest := List.mem_map_of_mem h
      have hne : first.1 ≠ entry.1 := fun heq => hfirst (show first.1 ∈ keys rest from heq ▸ hmem)
      rw [if_neg hne, ih hrest h]

theorem mem_of_get?_eq_some {fields : Fields α} {key : String} {value : α}
    (h : get? fields key = some value) : (key, value) ∈ fields := by
  induction fields with
  | nil => simp at h
  | cons entry rest ih =>
    rw [get?_cons] at h
    split at h
    · rename_i hkey
      obtain rfl := Option.some.inj h
      exact hkey ▸ List.mem_cons_self
    · exact List.mem_cons_of_mem _ (ih h)

theorem get?_filterMapValues {β : Type v} (f : α → Option β) {fields : Fields α}
    (hkeys : (keys fields).Nodup) (key : String) :
    get? (filterMapValues f fields) key = (get? fields key).bind f := by
  induction fields with
  | nil => rfl
  | cons entry rest ih =>
    obtain ⟨hfirst, hrest⟩ := List.nodup_cons.mp hkeys
    have hskip : entry.1 = key → get? rest key = none := by
      rintro rfl
      exact Classical.not_not.mp fun hne => hfirst ((mem_keys_iff_get?_ne_none rest _).mpr hne)
    have ih := ih hrest
    unfold filterMapValues at ih ⊢
    rw [get?_cons]
    cases hf : f entry.2 with
    | none =>
      rw [List.filterMap_cons_none (by rw [hf, Option.map_none]), ih]
      split
      · rename_i hkey
        rw [hskip hkey, Option.bind_none, Option.bind_some, hf]
      · rfl
    | some w =>
      rw [List.filterMap_cons_some (by rw [hf, Option.map_some]), get?_cons, ih]
      split
      · rw [Option.bind_some, hf]
      · rfl

/-! ## Writing -/

theorem get?_replace (fields : Fields α) (key other : String) (value : α)
    (hkey : has fields key) :
    get? (replace fields key value) other =
      if key = other then some value else get? fields other := by
  induction fields with
  | nil => simp [has] at hkey
  | cons entry rest ih =>
    obtain ⟨k, v⟩ := entry
    by_cases hk : k = key
    · subst hk
      simp only [replace, get?_cons, if_true]
      split <;> rfl
    · have hrest : has rest key := by simpa [has_cons, hk] using hkey
      simp only [replace, hk, if_false, get?_cons, ih hrest]
      by_cases hko : k = other
      · simp [hko, show key ≠ other from fun h => hk (hko.trans h.symm)]
      · simp [hko]

theorem get?_insert (fields : Fields α) (key other : String) (value : α)
    (hkey : has fields key = false) :
    get? (insert fields key value) other =
      if key = other then some value else get? fields other := by
  induction fields with
  | nil => simp [insert, get?_cons]
  | cons entry rest ih =>
    obtain ⟨k, v⟩ := entry
    obtain ⟨hk, hrest⟩ : k ≠ key ∧ has rest key = false := by simpa [has_cons] using hkey
    simp only [insert]
    split
    · rfl
    · simp only [get?_cons, ih hrest]
      by_cases hko : k = other
      · simp [hko, show key ≠ other from fun h => hk (hko.trans h.symm)]
      · simp [hko]

theorem get?_put (fields : Fields α) (key other : String) (value : α) :
    get? (put fields key value) other =
      if key = other then some value else get? fields other := by
  unfold put
  split
  · rename_i hkey
    exact get?_replace fields key other value hkey
  · rename_i hkey
    exact get?_insert fields key other value (by simpa using hkey)

@[simp] theorem get?_put_self (fields : Fields α) (key : String) (value : α) :
    get? (put fields key value) key = some value := by
  rw [get?_put, if_pos rfl]

/-- Overwriting an entry with what it holds changes nothing. -/
theorem put_eq_self_of_get? {fields : Fields α} {key : String} {value : α}
    (h : get? fields key = some value) : put fields key value = fields := by
  have hkey : has fields key := by simp [has, h]
  rw [put, if_pos hkey]
  clear hkey
  induction fields with
  | nil => rfl
  | cons entry rest ih =>
    obtain ⟨k, v⟩ := entry
    rw [get?_cons] at h
    by_cases hk : k = key
    · obtain rfl : v = value := by simpa [hk] using h
      simp [replace, hk]
    · simp only [replace, hk, if_false]
      rw [ih (by simpa [hk] using h)]

/-! ## Erasing -/

theorem get?_erase (fields : Fields α) (key other : String) :
    get? (erase fields key) other = if key = other then none else get? fields other := by
  rw [erase, get?_filter (· != key)]
  by_cases h : key = other
  · simp [h]
  · simp [h, Ne.symm h]

/-! ## Order of names -/

instance (fields : Fields α) : Decidable (WellFormed fields) :=
  inferInstanceAs (Decidable (List.Pairwise _ fields))

theorem keys_replace (fields : Fields α) (key : String) (value : α) :
    keys (replace fields key value) = keys fields := by
  induction fields with
  | nil => rfl
  | cons entry rest ih =>
    obtain ⟨k, v⟩ := entry
    by_cases hk : k = key
    · simp [replace, hk, keys]
    · simpa [replace, hk, keys] using ih

theorem mem_keys_insert (fields : Fields α) (key name : String) (value : α) :
    name ∈ keys (insert fields key value) ↔ name = key ∨ name ∈ keys fields := by
  induction fields with
  | nil => simp [insert, keys]
  | cons entry rest ih =>
    obtain ⟨k, v⟩ := entry
    simp only [insert]
    split
    · simp [keys]
    · simp only [keys, List.map_cons, List.mem_cons] at ih ⊢
      rw [ih]
      exact or_left_comm

theorem wellFormed_iff_keys (fields : Fields α) :
    WellFormed fields ↔ (keys fields).Pairwise (· < ·) := by
  simp [WellFormed, keys, List.pairwise_map]

theorem WellFormed.replace {fields : Fields α} (h : WellFormed fields) (key : String) (value : α) :
    WellFormed (Fields.replace fields key value) := by
  rwa [wellFormed_iff_keys, keys_replace, ← wellFormed_iff_keys]

theorem WellFormed.insert {fields : Fields α} (h : WellFormed fields) {key : String}
    (hkey : has fields key = false) (value : α) : WellFormed (Fields.insert fields key value) := by
  induction fields with
  | nil => simp [Fields.insert, WellFormed]
  | cons entry rest ih =>
    obtain ⟨k, v⟩ := entry
    obtain ⟨hk, hrest⟩ : k ≠ key ∧ has rest key = false := by simpa [has_cons] using hkey
    rw [wellFormed_iff_keys] at h ⊢
    obtain ⟨hfirst, htail⟩ := List.pairwise_cons.mp h
    simp only [Fields.insert]
    split
    · rename_i hlt
      refine List.pairwise_cons.mpr ⟨fun name hname => ?_, h⟩
      rcases List.mem_cons.mp hname with rfl | hname
      · exact hlt
      · exact String.lt_trans hlt (hfirst name hname)
    · rename_i hlt
      have hlt' : k < key := String.not_le.mp fun hle =>
        hk (String.le_antisymm (String.not_lt.mp hlt) hle)
      refine List.pairwise_cons.mpr ⟨fun name hname => ?_, ?_⟩
      · rcases (mem_keys_insert rest key name value).mp hname with rfl | hname
        · exact hlt'
        · exact hfirst name hname
      · exact (wellFormed_iff_keys _).mp (ih ((wellFormed_iff_keys rest).mpr htail) hrest)

theorem WellFormed.put {fields : Fields α} (h : WellFormed fields) (key : String) (value : α) :
    WellFormed (Fields.put fields key value) := by
  unfold Fields.put
  split
  · exact h.replace key value
  · rename_i hkey
    exact h.insert (by simpa using hkey) value

theorem nodup_keys {fields : Fields α} (h : WellFormed fields) : (keys fields).Nodup := by
  refine ((wellFormed_iff_keys fields).mp h).imp fun hlt heq => ?_
  rw [heq] at hlt
  exact String.lt_irrefl _ hlt

theorem WellFormed.erase {fields : Fields α} (h : WellFormed fields) (key : String) :
    WellFormed (Fields.erase fields key) :=
  List.Pairwise.filter _ h

/-! ## Lists of entries -/

theorem get?_foldl_put (entries : List (String × α)) (fields : Fields α) (key : String) :
    get? (entries.foldl (fun fields entry => put fields entry.1 entry.2) fields) key =
      (get? entries.reverse key).or (get? fields key) := by
  induction entries generalizing fields with
  | nil => rfl
  | cons entry rest ih =>
    rw [List.foldl_cons, ih, get?_put, List.reverse_cons, get?_append, get?_cons, get?_nil]
    cases get? rest.reverse key <;> split <;> rfl

/-- Of several entries of one name the last one is found. -/
theorem get?_ofList (entries : List (String × α)) (key : String) :
    get? (ofList entries) key = get? entries.reverse key := by
  rw [ofList, get?_foldl_put, get?_nil, Option.or_none]

theorem wellFormed_ofList (entries : List (String × α)) : WellFormed (ofList entries) := by
  suffices h : ∀ fields : Fields α, WellFormed fields →
      WellFormed (entries.foldl (fun fields entry => put fields entry.1 entry.2) fields) from
    h [] List.Pairwise.nil
  induction entries with
  | nil => exact fun _ h => h
  | cons entry rest ih => exact fun _ h => ih _ (h.put entry.1 entry.2)

/-! ## Writing twice -/

theorem has_iff_mem_keys (fields : Fields α) (key : String) :
    has fields key ↔ key ∈ keys fields := by
  rw [mem_keys_iff_get?_ne_none, has, Option.isSome_iff_ne_none]

theorem has_replace (fields : Fields α) (key other : String) (value : α) :
    has (replace fields key value) other = has fields other := by
  rw [Bool.eq_iff_iff, has_iff_mem_keys, has_iff_mem_keys, keys_replace]

theorem has_insert (fields : Fields α) (key other : String) (value : α) :
    has (insert fields key value) other = (decide (other = key) || has fields other) := by
  rw [Bool.eq_iff_iff, has_iff_mem_keys, mem_keys_insert, Bool.or_eq_true, decide_eq_true_eq,
    has_iff_mem_keys]

theorem replace_replace_self (fields : Fields α) (key : String) (value later : α) :
    replace (replace fields key value) key later = replace fields key later := by
  induction fields with
  | nil => rfl
  | cons entry rest ih =>
    obtain ⟨k, v⟩ := entry
    by_cases hk : k = key <;> simp [replace, hk, ih]

theorem replace_insert_self (fields : Fields α) (key : String) (value later : α)
    (hkey : has fields key = false) :
    replace (insert fields key value) key later = insert fields key later := by
  induction fields with
  | nil => simp [insert, replace]
  | cons entry rest ih =>
    obtain ⟨k, v⟩ := entry
    obtain ⟨hk, hrest⟩ : k ≠ key ∧ has rest key = false := by simpa [has_cons] using hkey
    by_cases hlt : key < k <;> simp [insert, replace, hlt, hk, ih hrest]

theorem replace_comm (fields : Fields α) {key other : String} (h : key ≠ other) (a b : α) :
    replace (replace fields key a) other b = replace (replace fields other b) key a := by
  induction fields with
  | nil => rfl
  | cons entry rest ih =>
    obtain ⟨k, v⟩ := entry
    by_cases hk : k = key
    · subst hk
      simp [replace, h]
    · by_cases ho : k = other
      · subst ho
        simp [replace, hk]
      · simp [replace, hk, ho, ih]

theorem replace_insert (fields : Fields α) {key other : String} (h : key ≠ other) (a b : α) :
    replace (insert fields key a) other b = insert (replace fields other b) key a := by
  induction fields with
  | nil => simp [insert, replace, h]
  | cons entry rest ih =>
    obtain ⟨k, v⟩ := entry
    by_cases ho : k = other
    · subst ho
      simp only [insert, replace, if_true]
      split <;> simp [replace, h]
    · simp only [insert, replace, ho, if_false]
      split <;> simp [replace, h, ho, ih]

theorem insert_comm (fields : Fields α) {key other : String} (h : key ≠ other) (a b : α) :
    insert (insert fields key a) other b = insert (insert fields other b) key a := by
  -- One of the two names comes first.
  have hasymm : key < other ∧ ¬ other < key ∨ other < key ∧ ¬ key < other := by
    grind
  induction fields with
  | nil => grind [insert]
  | cons entry rest ih =>
    obtain ⟨k, v⟩ := entry
    grind [insert]

/-- Only the last of several writes to one name counts. -/
theorem put_put_self (fields : Fields α) (key : String) (value later : α) :
    put (put fields key value) key later = put fields key later := by
  unfold put
  cases hkey : has fields key with
  | true => simp [has_replace, hkey, replace_replace_self]
  | false => simp [has_insert, replace_insert_self, hkey]

/-- Writes to different names commute. -/
theorem put_comm (fields : Fields α) {key other : String} (h : key ≠ other) (a b : α) :
    put (put fields key a) other b = put (put fields other b) key a := by
  unfold put
  cases hkey : has fields key <;> cases hother : has fields other
  · simp [has_insert, hkey, hother, h, h.symm, insert_comm _ h]
  · simp [has_insert, has_replace, hkey, hother, replace_insert _ h]
  · simp [has_insert, has_replace, hkey, hother, replace_insert _ h.symm]
  · simp [has_replace, hkey, hother, replace_comm _ h]

end ScreenLogic.Fields
