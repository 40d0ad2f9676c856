import Mathlib.Algebra.BigOperators.Group.List.Basic
import Mathlib.Algebra.GroupWithZero.Nat
import ScreenLogic.Proofs.Model.Independence

/-!
# How much a write adds

A write adds the value that it writes, an object for every segment below which nothing was there,
and the nulls of at most one list that it fills up. Past the end of that list everything is new,
so there is no second list to fill up. How far past the end the write may go is decided before
anything is added, so that on machine words no difference falls below zero and no sum is too large.

## Main definitions

* `Value.nodes`: the number of values that a value is made of.
* `Model.place`: the place that segments lead to, by the names and slots that they stand for.
* `Model.length?`: the length of the list at a place.
* `Model.setOnWords?`: a write whose arithmetic is that of machine words.

## Main statements

* `Model.nodes_write_le`: what a write adds to the number of nodes.
* `Model.exists_length?_write`: the one list that a write makes longer.
* `Model.writeOnWords?_eq`: a write on machine words is a write.
* `Model.set_growth`: all of it for paths, and for any number of writes.
-/

namespace ScreenLogic

/-! ## Nodes -/

namespace Value

mutual

/-- The number of values that a value is made of, itself included. -/
def nodes : Value → Nat
  | .arr items => 1 + itemNodes items
  | .obj fields => 1 + fieldNodes fields
  | .null | .bool _ | .num _ | .str _ => 1
termination_by structural v => v

def itemNodes : List Value → Nat
  | [] => 0
  | v :: rest => nodes v + itemNodes rest
termination_by structural v => v

def fieldNodes : List (String × Value) → Nat
  | [] => 0
  | (_, v) :: rest => nodes v + fieldNodes rest
termination_by structural v => v

end

theorem itemNodes_append (items others : List Value) :
    itemNodes (items ++ others) = itemNodes items + itemNodes others := by
  induction items with
  | nil => simp [itemNodes]
  | cons v items ih => simp [itemNodes, ih, Nat.add_assoc]

theorem itemNodes_replicate_null (n : Nat) : itemNodes (List.replicate n .null) = n := by
  induction n with
  | zero => rfl
  | succ n ih => simp [List.replicate_succ, itemNodes, nodes, ih, Nat.add_comm]

theorem itemNodes_modify {items : List Value} {i : Nat} {v : Value} (f : Value → Value)
    (h : items[i]? = some v) :
    itemNodes (items.modify i f) + nodes v = itemNodes items + nodes (f v) := by
  induction items generalizing i with
  | nil => simp at h
  | cons first items ih =>
    cases i with
    | zero =>
      obtain rfl : first = v := by simpa using h
      simp only [List.modify_zero_cons, itemNodes]
      omega
    | succ i =>
      have hrest := ih (i := i) (by simpa using h)
      simp only [List.modify_succ_cons, itemNodes]
      omega

theorem fieldNodes_replace {fields : Fields Value} {key : String} {v : Value} (value : Value)
    (h : Fields.get? fields key = some v) :
    fieldNodes (Fields.replace fields key value) + nodes v = fieldNodes fields + nodes value := by
  induction fields with
  | nil => simp at h
  | cons entry fields ih =>
    obtain ⟨k, first⟩ := entry
    by_cases hk : k = key
    · obtain rfl : first = v := by simpa [Fields.get?_cons, hk] using h
      simp only [Fields.replace, hk, if_true, fieldNodes]
      omega
    · have hrest := ih (by simpa [Fields.get?_cons, hk] using h)
      simp only [Fields.replace, hk, if_false, fieldNodes]
      omega

theorem fieldNodes_insert (fields : Fields Value) (key : String) (value : Value) :
    fieldNodes (Fields.insert fields key value) = fieldNodes fields + nodes value := by
  induction fields with
  | nil => simp [Fields.insert, fieldNodes]
  | cons entry fields ih =>
    simp only [Fields.insert]
    split <;> simp only [fieldNodes, ih] <;> omega

theorem fieldNodes_put_of_get? {fields : Fields Value} {key : String} {v : Value} (value : Value)
    (h : Fields.get? fields key = some v) :
    fieldNodes (Fields.put fields key value) + nodes v = fieldNodes fields + nodes value := by
  have hhas : Fields.has fields key := by simp [Fields.has, h]
  rw [Fields.put, if_pos hhas, fieldNodes_replace value h]

theorem fieldNodes_put_of_missing {fields : Fields Value} {key : String} (value : Value)
    (h : Fields.get? fields key = none) :
    fieldNodes (Fields.put fields key value) = fieldNodes fields + nodes value := by
  have hhas : ¬ Fields.has fields key := by simp [Fields.has, h]
  rw [Fields.put, if_neg hhas, fieldNodes_insert]

end Value

namespace Model

open Value

/-- A change of a child that is there changes the number of nodes by as much as that of the
child. -/
theorem nodes_updateChild {v child : Value} {segment : String} (f : Value → Value)
    (h : child? v segment = some child) :
    nodes (updateChild v segment f) + nodes child = nodes v + nodes (f child) := by
  cases v with
  | arr items =>
    obtain ⟨i, hi, hitem⟩ := Option.bind_eq_some_iff.mp h
    obtain ⟨hinside, -⟩ := List.getElem?_eq_some_iff.mp hitem
    have hnodes := itemNodes_modify f hitem
    simp only [updateChild, ensureContainer, hi, updateSlot, hinside, if_true, nodes]
    omega
  | obj fields =>
    have hget : Fields.get? fields segment = some child := h
    have hnodes := fieldNodes_put_of_get? (f child) hget
    simp only [updateChild, ensureContainer, hget, Option.getD_some, nodes]
    omega
  | null | bool | num | str => simp [child?] at h

/-- A child that was missing is added, after so many nulls at most as a list may be filled up
with. -/
theorem nodes_updateChild_le {v : Value} {segment : String} (f : Value → Value)
    (h : child? v segment = none) :
    nodes (updateChild v segment f) ≤ nodes v + nodes (f .null) + maxPadding := by
  cases v with
  | arr items =>
    simp only [updateChild, ensureContainer]
    cases hi : Path.index? segment with
    | none => simp only; omega
    | some i =>
      have hpast : items.length ≤ i := by simpa [child?, hi] using h
      simp only [updateSlot, Nat.not_lt.mpr hpast, if_false]
      split
      · simp only [nodes, itemNodes_append, itemNodes_replicate_null, itemNodes]
        omega
      · omega
  | obj fields =>
    have hget : Fields.get? fields segment = none := h
    have hnodes := fieldNodes_put_of_missing (f .null) hget
    simp only [updateChild, ensureContainer, hget, Option.getD_none, nodes]
    omega
  | null | bool | num | str =>
    simp [updateChild, ensureContainer, Fields.put, Fields.has, Fields.insert, nodes, fieldNodes]

/-- Where nothing is, a write adds an object for each segment, and nothing is filled up. -/
theorem nodes_write_null (value : Value) (segments : List String) :
    nodes (write value segments .null) = nodes value + segments.length := by
  induction segments with
  | nil => rfl
  | cons segment segments ih =>
    simp [write, updateChild, ensureContainer, Fields.put, Fields.has, Fields.insert, nodes,
      fieldNodes, ih]
    omega

theorem nodes_write_le (value : Value) (segments : List String) (v : Value) :
    nodes (write value segments v) ≤ nodes v + nodes value + segments.length + maxPadding := by
  induction segments generalizing v with
  | nil =>
    simp only [write]
    omega
  | cons segment segments ih =>
    rw [write, List.length_cons]
    cases hchild : child? v segment with
    | some child =>
      have hnodes := nodes_updateChild (write value segments) hchild
      have hbelow := ih child
      omega
    | none =>
      -- The child is new, so that nothing further down is filled up.
      have hnodes := nodes_updateChild_le (write value segments) hchild
      rw [nodes_write_null] at hnodes
      omega

theorem nodes_set_le (model value : Value) (path : String) :
    nodes (set model path value) ≤
      nodes model + nodes value + (Path.segments path).length + maxPadding := by
  by_cases hroot : Path.isRoot path
  · rw [set_root model value hroot]
    omega
  · rw [set_eq_write model value (by simpa using hroot)]
    exact nodes_write_le value _ model

/-- Any number of writes adds at most so much for each of them, beside what they write and the
segments of their paths. -/
theorem nodes_setAll_le (model : Value) (writes : List (String × Value)) :
    nodes (setAll model writes) ≤ nodes model + writes.length * maxPadding +
      (writes.map fun w => nodes w.2 + (Path.segments w.1).length).sum := by
  induction writes generalizing model with
  | nil => simp [setAll]
  | cons w writes ih =>
    have hfirst := nodes_set_le model w.2 w.1
    have hrest := ih (set model w.1 w.2)
    simp only [List.length_cons, Nat.add_mul, Nat.one_mul, List.map_cons, List.sum_cons]
    change nodes (setAll (set model w.1 w.2) writes) ≤ _
    omega

/-! ## Lists and their lengths -/

/-- One step down: to the entry of an object under a name, or to a slot of a list. -/
inductive Edge where
  | name (key : String)
  | slot (i : Nat)
  deriving DecidableEq

def Edge.follow? : Value → Edge → Option Value
  | .obj fields, .name key => Fields.get? fields key
  | .arr items, .slot i => items[i]?
  | _, _ => none

/-- The step that a segment stands for. In a list different segments may be the same slot. -/
def edge : Value → String → Edge
  | .arr _, segment => (Path.index? segment).elim (.name segment) .slot
  | _, segment => .name segment

/-- What a value holds at the end of some steps. -/
def at? : Value → List Edge → Option Value
  | v, [] => some v
  | v, e :: rest => (Edge.follow? v e).bind (at? · rest)

/-- The place that segments lead to. -/
def place : Value → List String → List Edge
  | _, [] => []
  | v, segment :: rest => edge v segment :: place (childOrNull v segment) rest

/-- The length of the list at a place, if there is a list. -/
def length? (v : Value) (a : List Edge) : Option Nat :=
  match at? v a with
  | some (.arr items) => some items.length
  | _ => none

/-- A write at a path takes the place of what stood there, and of everything inside it. -/
def Overwritten (model : Value) (path : String) (a : List Edge) : Prop :=
  Path.isRoot path = false ∧ place model (Path.segments path) <+: a

theorem follow?_edge (v : Value) (segment : String) :
    Edge.follow? v (edge v segment) = child? v segment := by
  cases v with
  | arr items => cases hi : Path.index? segment <;> simp [edge, Edge.follow?, child?, hi]
  | null | bool | num | str | obj => rfl

theorem length?_cons (v : Value) (e : Edge) (a : List Edge) :
    length? v (e :: a) = (Edge.follow? v e).bind (length? · a) := by
  simp only [length?, at?]
  cases Edge.follow? v e <;> rfl

theorem length?_nil_eq_some_iff (v : Value) (n : Nat) :
    length? v [] = some n ↔ ∃ items, v = .arr items ∧ items.length = n := by
  cases v <;> simp [length?, at?]

/-- A change of one child leaves what there is beside it. -/
theorem follow?_updateChild_of_ne {v c : Value} {segment : String} {e : Edge}
    (f : Value → Value) (he : e ≠ edge v segment) (h : Edge.follow? v e = some c) :
    Edge.follow? (updateChild v segment f) e = some c := by
  cases v with
  | arr items =>
    cases e with
    | name key => simp [Edge.follow?] at h
    | slot j =>
      have hinside : j < items.length := (List.getElem?_eq_some_iff.mp h).1
      simp only [updateChild, ensureContainer]
      cases hi : Path.index? segment with
      | none => exact h
      | some i =>
        have hji : j ≠ i := by simpa [edge, hi] using he
        have hslot : items[j]? = some c := h
        by_cases hreach : i < items.length + maxPadding
        · simp only [Edge.follow?, getElem?_updateSlot f hreach, hji, if_false, hslot]
          split <;> rfl
        · have hfar := updateSlot_eq_self_of_far f (Nat.le_of_not_lt hreach)
          simpa only [hfar] using h
  | obj fields =>
    cases e with
    | name key =>
      have hkey : segment ≠ key := by simpa [edge, eq_comm] using he
      simpa [updateChild, ensureContainer, Edge.follow?, Fields.get?_put, hkey] using h
    | slot i => simp [Edge.follow?] at h
  | null | bool | num | str => simp [Edge.follow?] at h

theorem edge_updateChild (v : Value) (segment other : String) (f : Value → Value) :
    edge (updateChild v segment f) other = edge v other := by
  cases v with
  | arr items =>
    obtain ⟨after, hafter⟩ := (updateChild_eq_arr_iff (.arr items) segment f).mpr ⟨items, rfl⟩
    rw [hafter]
    rfl
  | null | bool | num | str | obj => rfl

/-- A list is filled up by a change of one of its slots only if that slot is not there yet. -/
theorem length?_updateChild {v : Value} {segment : String} {n : Nat} (f : Value → Value)
    (h : length? v [] = some n) :
    ∃ k, length? (updateChild v segment f) [] = some (n + k) ∧ k ≤ maxPadding ∧
      (child? v segment ≠ none → k = 0) := by
  obtain ⟨items, rfl, rfl⟩ := (length?_nil_eq_some_iff v n).mp h
  simp only [updateChild, ensureContainer, child?]
  cases hi : Path.index? segment with
  | none => exact ⟨0, rfl, Nat.zero_le _, fun _ => rfl⟩
  | some i =>
    simp only [length?, at?, updateSlot, Option.bind_some]
    split
    · exact ⟨0, by simp, Nat.zero_le _, fun _ => rfl⟩
    · split
      · refine ⟨i - items.length + 1, by simp, by omega, fun hthere => ?_⟩
        exact absurd (List.getElem?_eq_none (by omega)) hthere
      · exact ⟨0, rfl, Nat.zero_le _, fun _ => rfl⟩

/-- All lists that a write does not overwrite stay where they are, and all but one of them keep
their lengths: the one whose slot the write has to add first. -/
theorem exists_length?_write (value : Value) (segments : List String) (v : Value) :
    ∃ grown, ∀ a n, length? v a = some n → ¬ place v segments <+: a →
      ∃ k, length? (write value segments v) a = some (n + k) ∧ k ≤ maxPadding ∧
        (k ≠ 0 → a = grown) := by
  induction segments generalizing v with
  | nil => exact ⟨[], fun a n _ hnot => absurd List.nil_prefix hnot⟩
  | cons segment segments ih =>
    obtain ⟨below, hbelow⟩ := ih (childOrNull v segment)
    -- The list is the one at hand if its slot is missing, and else one further down.
    refine ⟨if child? v segment = none then [] else edge v segment :: below, fun a n ha hnot => ?_⟩
    rw [write]
    cases a with
    | nil =>
      obtain ⟨k, hk, hle, hthere⟩ := length?_updateChild (write value segments) ha
      refine ⟨k, hk, hle, fun hne => ?_⟩
      have hmissing : child? v segment = none := by
        by_contra h
        exact hne (hthere h)
      rw [if_pos hmissing]
    | cons e a =>
      rw [length?_cons] at ha ⊢
      obtain ⟨c, hc, hlist⟩ := Option.bind_eq_some_iff.mp ha
      by_cases he : e = edge v segment
      · subst he
        have hchild : child? v segment = some c := by rw [← follow?_edge, hc]
        have hc : childOrNull v segment = c := by simp [childOrNull, hchild]
        have hafter : Edge.follow? (updateChild v segment (write value segments))
            (edge v segment) = some (write value segments c) := by
          rw [← edge_updateChild v segment segment (write value segments), follow?_edge]
          exact child?_updateChild_of_child? _ hchild
        rw [hc] at hbelow
        obtain ⟨k, hk, hle, hgrown⟩ := hbelow a n hlist (by simpa [place, hc] using hnot)
        refine ⟨k, by rwa [hafter], hle, fun hne => ?_⟩
        rw [if_neg (by simp [hchild]), hgrown hne]
      · rw [follow?_updateChild_of_ne _ he hc]
        exact ⟨0, by simpa using hlist, Nat.zero_le _, fun h => absurd rfl h⟩

/-! ## Machine words -/

/-- A difference of words that is not below zero. -/
def subWord? (a b : UInt64) : Option UInt64 := if b ≤ a then some (a - b) else none

/-- A sum of words that is a word. -/
def addWord? (a b : UInt64) : Option UInt64 :=
  if a.toNat + b.toNat < UInt64.size then some (a + b) else none

/-- Fill a list up to an index, unless that is too far past its end. The list grows to the index
and one more. -/
def padOnWords? (items : List Value) (i : UInt64) : Option (List Value) :=
  let length := UInt64.ofNat items.length
  if i < length then some items
  else (subWord? i length).bind fun gap =>
    if gap.toNat < maxPadding then
      (addWord? i 1).map fun size => items.rightpad size.toNat .null
    else some items

/-- Change the slot at an index, where there is none after filling up leave it. -/
def updateSlotOnWords? (items : List Value) (i : UInt64) (f : Value → Option Value) :
    Option (List Value) :=
  (padOnWords? items i).bind fun padded =>
    match padded[i.toNat]? with
    | some item => (f item).map (padded.set i.toNat)
    | none => some padded

def updateChildOnWords? (v : Value) (segment : String) (f : Value → Option Value) :
    Option Value :=
  match ensureContainer v with
  | .obj fields =>
    (f ((Fields.get? fields segment).getD .null)).map fun child =>
      .obj (Fields.put fields segment child)
  | .arr items =>
    match Path.index? segment with
    | some i => (updateSlotOnWords? items (.ofNat i) f).map .arr
    | none => some (.arr items)
  | v => some v

def writeOnWords? (value : Value) : List String → Value → Option Value
  | [], _ => some value
  | segment :: rest, v => updateChildOnWords? v segment (writeOnWords? value rest)

/-- A write by path on machine words, which has no value if a difference falls below zero or a sum
is too large. -/
def setOnWords? (model : Value) (path : String) (value : Value) : Option Value :=
  match Path.segments path with
  | [] => some model
  | segments => writeOnWords? value segments model

/-- Lists so short that they can be filled up and still have a length in words. -/
def Short (n : Nat) : Prop := n < UInt64.size - 1 - maxPadding

instance (n : Nat) : Decidable (Short n) := inferInstanceAs (Decidable (n < _))

/-- A list filled up to an index, as it is before the slot there is changed. -/
def padTo (items : List Value) (i : Nat) : List Value :=
  if i < items.length + maxPadding then items.rightpad (i + 1) .null else items

theorem updateSlot_eq_modify (items : List Value) (i : Nat) (f : Value → Value) :
    updateSlot items i f = (padTo items i).modify i f := by
  by_cases hi : i < items.length + maxPadding
  · apply List.ext_getElem?
    intro j
    rw [getElem?_updateSlot f hi, List.getElem?_modify, padTo, if_pos hi, List.rightpad]
    grind
  · rw [updateSlot_eq_self_of_far f (Nat.le_of_not_lt hi), padTo, if_neg hi]
    exact (List.modify_eq_self (by omega)).symm

/-- The index is compared with the length before it is made less by it, and is in reach before one
is added to it. -/
theorem padOnWords?_eq {items : List Value} {i : Nat} (hlength : Short items.length)
    (hi : i < UInt64.size) : padOnWords? items (.ofNat i) = some (padTo items i) := by
  unfold Short at hlength
  have htoNat : (UInt64.ofNat i).toNat = i := UInt64.toNat_ofNat_of_lt' hi
  have hlengthToNat : (UInt64.ofNat items.length).toNat = items.length :=
    UInt64.toNat_ofNat_of_lt' (by omega)
  simp only [padOnWords?, UInt64.lt_iff_toNat_lt, htoNat, hlengthToNat, padTo]
  by_cases hinside : i < items.length
  · have hreach : i < items.length + maxPadding := by omega
    have hrightpad : items.rightpad (i + 1) .null = items := by
      simp [List.rightpad, Nat.sub_eq_zero_of_le hinside]
    simp only [hinside, hreach, if_true, hrightpad]
  · have hle : UInt64.ofNat items.length ≤ .ofNat i := by
      rw [UInt64.le_iff_toNat_le]
      omega
    simp only [hinside, if_false, subWord?, hle, if_true, Option.bind_some,
      UInt64.toNat_sub_of_le _ _ hle, htoNat, hlengthToNat]
    by_cases hreach : i < items.length + maxPadding
    · have hsum : i + 1 < UInt64.size := by omega
      have hsumToNat : (UInt64.ofNat i + 1).toNat = i + 1 := by
        rw [UInt64.toNat_add, htoNat, UInt64.toNat_one]
        exact Nat.mod_eq_of_lt hsum
      have hgap : i - items.length < maxPadding := by omega
      simp [hgap, hreach, addWord?, htoNat, hsum, hsumToNat]
    · have hgap : ¬ i - items.length < maxPadding := by omega
      simp only [hgap, hreach, if_false]

theorem updateSlotOnWords?_eq {items : List Value} {i : Nat} {f : Value → Option Value}
    {g : Value → Value} (hlength : Short items.length) (hi : i < UInt64.size)
    (hf : f (items[i]?.getD .null) = some (g (items[i]?.getD .null))) :
    updateSlotOnWords? items (.ofNat i) f = some (updateSlot items i g) := by
  have htoNat : (UInt64.ofNat i).toNat = i := UInt64.toNat_ofNat_of_lt' hi
  rw [updateSlotOnWords?, padOnWords?_eq hlength hi, Option.bind_some, htoNat,
    updateSlot_eq_modify, List.modify_eq_set_getElem?]
  cases hitem : (padTo items i)[i]? with
  | none => rfl
  | some item =>
    have hold : items[i]?.getD .null = item := by
      rw [padTo] at hitem
      split at hitem <;> grind [List.rightpad]
    rw [hold] at hf
    simp [hf]

theorem updateChildOnWords?_eq {v : Value} {segment : String} {f : Value → Option Value}
    {g : Value → Value} (hlength : ∀ n, length? v [] = some n → Short n)
    (hf : f (childOrNull v segment) = some (g (childOrNull v segment))) :
    updateChildOnWords? v segment f = some (updateChild v segment g) := by
  cases v with
  | arr items =>
    simp only [updateChildOnWords?, updateChild, ensureContainer]
    cases hi : Path.index? segment with
    | none => rfl
    | some i =>
      have hword : i < UInt64.size := by
        simp only [Path.index?] at hi
        grind
      have hslot : childOrNull (.arr items) segment = items[i]?.getD .null := by
        simp [childOrNull, child?, hi]
      rw [hslot] at hf
      simp [updateSlotOnWords?_eq (hlength _ rfl) hword hf]
  | obj fields =>
    have hget : childOrNull (.obj fields) segment = (Fields.get? fields segment).getD .null := rfl
    rw [hget] at hf
    simp [updateChildOnWords?, updateChild, ensureContainer, hf]
  | null | bool | num | str =>
    have hnull : f .null = some (g .null) := hf
    simp [updateChildOnWords?, updateChild, ensureContainer, hnull]

theorem short_childOrNull {v : Value} (segment : String)
    (h : ∀ a n, length? v a = some n → Short n) :
    ∀ a n, length? (childOrNull v segment) a = some n → Short n := by
  intro a n ha
  cases hchild : child? v segment with
  | some child =>
    apply h (edge v segment :: a) n
    rw [length?_cons, follow?_edge, hchild]
    simpa [childOrNull, hchild] using ha
  | none =>
    -- Null holds no list at any place.
    cases a <;> simp [childOrNull, hchild, length?, at?, Edge.follow?] at ha

theorem writeOnWords?_eq (value : Value) {segments : List String} {v : Value}
    (h : ∀ a n, length? v a = some n → Short n) :
    writeOnWords? value segments v = some (write value segments v) := by
  induction segments generalizing v with
  | nil => rfl
  | cons segment segments ih =>
    exact updateChildOnWords?_eq (h []) (ih (short_childOrNull segment h))

/-! ## Paths -/

/-- What a write by path adds: a bounded number of values, length to one list at most of those
that stay, and no more than words can count. After any number of writes the growth is linear in
their number, beside what they write and the segments of their paths. -/
theorem set_growth (model value : Value) (path : String) :
    nodes (set model path value) ≤
      nodes model + nodes value + (Path.segments path).length + maxPadding ∧
    (∃ grown, ∀ a n, length? model a = some n → ¬ Overwritten model path a →
      ∃ k, length? (set model path value) a = some (n + k) ∧ k ≤ maxPadding ∧
        (k ≠ 0 → a = grown)) ∧
    ((∀ a n, length? model a = some n → Short n) →
      setOnWords? model path value = some (set model path value)) ∧
    ∀ writes, nodes (setAll model writes) ≤ nodes model + writes.length * maxPadding +
      (writes.map fun w => nodes w.2 + (Path.segments w.1).length).sum := by
  refine ⟨nodes_set_le model value path, ?_, fun hshort => ?_, nodes_setAll_le model⟩
  · by_cases hroot : Path.isRoot path
    · rw [set_root model value hroot]
      exact ⟨[], fun a n ha _ => ⟨0, ha, Nat.zero_le _, fun h => absurd rfl h⟩⟩
    · have hroot : Path.isRoot path = false := by simpa using hroot
      obtain ⟨grown, hgrown⟩ := exists_length?_write value (Path.segments path) model
      rw [set_eq_write model value hroot]
      exact ⟨grown, fun a n ha hnot => hgrown a n ha fun hinside => hnot ⟨hroot, hinside⟩⟩
  · unfold setOnWords? set
    cases hsegments : Path.segments path with
    | nil => rfl
    | cons segment segments => exact writeOnWords?_eq value hshort

/-- A list of one slot that is filled up to the fourth. -/
theorem set_growth_of_list :
    let model : Value := .arr [.int 0]
    let written := set model "/3/x" (.bool true)
    (∀ a n, length? model a = some n → Short n) ∧ ¬ Overwritten model "/3/x" [] ∧
      (∃ k, length? written [] = some (1 + k) ∧ k ≤ maxPadding) ∧
      setOnWords? model "/3/x" (.bool true) = some written := by
  intro model written
  have hshort : ∀ a n, length? model a = some n → Short n := by
    intro a n ha
    cases a with
    | nil =>
      obtain rfl : 1 = n := Option.some.inj ha
      decide
    | cons e a =>
      obtain ⟨c, hc, hlist⟩ := Option.bind_eq_some_iff.mp (length?_cons model e a ▸ ha)
      have hscalar : c = .int 0 := by
        cases e with
        | name key => cases hc
        | slot i => cases i <;> simp_all [model, Edge.follow?]
      cases a <;> simp [hscalar, Value.int, length?, at?, Edge.follow?] at hlist
  have hkept : ¬ Overwritten model "/3/x" [] := by
    rintro ⟨-, hinside⟩
    have hplace : place model (Path.segments "/3/x") = [.slot 3, .name "x"] := by decide
    simp [hplace] at hinside
  obtain ⟨-, ⟨grown, hgrown⟩, hwords, -⟩ := set_growth model (.bool true) "/3/x"
  obtain ⟨k, hk, hle, -⟩ := hgrown [] 1 rfl hkept
  exact ⟨hshort, hkept, ⟨k, hk, hle⟩, hwords hshort⟩

end Model

end ScreenLogic
