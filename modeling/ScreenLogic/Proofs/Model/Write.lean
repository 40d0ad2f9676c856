import ScreenLogic.Model.Access
import ScreenLogic.Proofs.Fields

/-!
# What a write does

A write either goes through or leaves no trace. It goes through exactly along writable
paths: those whose segments, as long as the values they address exist, are indices within
reach wherever they meet a list. What is missing on the way is created as an object, so a
write that has created anything can no longer be refused.

## Main statements

* `read_write`: what was written along writable segments is read back.
* `write_eq_self`: along any other segments nothing is written.
* `get_set_of_writable_else_unchanged`: both for paths.
-/

namespace ScreenLogic.Model

/-- A segment can address a child of a value: in a list it has to be an index less than
`maxPadding` past the end, anywhere else it may be any name. -/
def addresses : Value → String → Bool
  | .arr items, segment => (Path.index? segment).any (· < items.length + maxPadding)
  | _, _ => true

/-- Each segment addresses a child of the value that it meets, as long as there is one. -/
def writable : Value → List String → Bool
  | _, [] => true
  | v, segment :: rest => addresses v segment && (child? v segment).all (writable · rest)

/-- A path along which a model can be written: not the root, and writable by segments. -/
def writableAt (model : Value) (path : String) : Bool :=
  !Path.isRoot path && writable model (Path.segments path)

/-! ## Slots of a list -/

/-- A change of one slot leaves the others as they are, and makes nulls of those between the
end of the list and it. -/
theorem getElem?_updateSlot {items : List Value} {i : Nat} (f : Value → Value)
    (h : i < items.length + maxPadding) (j : Nat) :
    (updateSlot items i f)[j]? =
      if j = i then some (f (items[j]?.getD .null))
      else if j < i then some (items[j]?.getD .null)
      else items[j]? := by
  unfold updateSlot
  split
  · rw [List.getElem?_modify]
    grind
  · rw [if_pos (by omega)]
    grind

theorem updateSlot_eq_self_of_fixed {items : List Value} {i : Nat} {f : Value → Value} {v : Value}
    (hv : items[i]? = some v) (hf : f v = v) : updateSlot items i f = items := by
  obtain ⟨hi, rfl⟩ := List.getElem?_eq_some_iff.mp hv
  rw [updateSlot, if_pos hi]
  apply List.ext_getElem (List.length_modify _ _ _)
  intro j hj hj'
  by_cases hij : i = j
  · subst hij
    rw [List.getElem_modify_eq, hf]
  · rw [List.getElem_modify_ne _ _ hij]

theorem updateSlot_eq_self_of_far {items : List Value} {i : Nat} (f : Value → Value)
    (h : items.length + maxPadding ≤ i) : updateSlot items i f = items := by
  rw [updateSlot, if_neg (by omega), if_neg (by omega)]

/-! ## Children of a value -/

theorem child?_updateChild {v : Value} {segment : String} (f : Value → Value)
    (h : addresses v segment) :
    child? (updateChild v segment f) segment = some (f ((child? v segment).getD .null)) := by
  cases v with
  | arr items =>
    obtain ⟨i, hi, hreach⟩ := (Option.any_eq_true _ _).mp h
    have hslot := getElem?_updateSlot f (of_decide_eq_true hreach) i
    rw [if_pos rfl] at hslot
    simpa [updateChild, ensureContainer, child?, hi] using hslot
  | obj fields => simp [updateChild, ensureContainer, child?]
  | null | bool | num | str => simp [updateChild, ensureContainer, child?]

/-- A child that is there can be addressed. -/
theorem addresses_of_child? {v child : Value} {segment : String}
    (h : child? v segment = some child) : addresses v segment := by
  cases v with
  | arr items =>
    obtain ⟨i, hi, hitem⟩ := Option.bind_eq_some_iff.mp h
    obtain ⟨hinside, -⟩ := List.getElem?_eq_some_iff.mp hitem
    simp only [addresses, hi, Option.any_some, decide_eq_true_eq]
    omega
  | null | bool | num | str | obj => rfl

theorem child?_updateChild_of_child? {v child : Value} {segment : String} (f : Value → Value)
    (h : child? v segment = some child) :
    child? (updateChild v segment f) segment = some (f child) := by
  simp [child?_updateChild f (addresses_of_child? h), h]

/-- Without a child to address, a change of it is dropped. -/
theorem updateChild_eq_self_of_not_addresses {v : Value} {segment : String} (f : Value → Value)
    (h : addresses v segment = false) : updateChild v segment f = v := by
  cases v with
  | arr items =>
    simp only [updateChild, ensureContainer]
    cases hi : Path.index? segment with
    | none => rfl
    | some i =>
      have hfar : items.length + maxPadding ≤ i := by simpa [addresses, hi] using h
      exact congrArg Value.arr (updateSlot_eq_self_of_far f hfar)
  | null | bool | num | str | obj => simp [addresses] at h

/-- A change that keeps a child which is there changes nothing. -/
theorem updateChild_eq_self_of_fixed {v child : Value} {segment : String} {f : Value → Value}
    (hchild : child? v segment = some child) (hf : f child = child) :
    updateChild v segment f = v := by
  cases v with
  | arr items =>
    obtain ⟨i, hi, hitem⟩ := Option.bind_eq_some_iff.mp hchild
    simp only [updateChild, ensureContainer, hi]
    rw [updateSlot_eq_self_of_fixed hitem hf]
  | obj fields =>
    have hget : Fields.get? fields segment = some child := hchild
    simp only [updateChild, ensureContainer, hget, Option.getD_some, hf]
    rw [Fields.put_eq_self_of_get? hget]
  | null | bool | num | str => simp [child?] at hchild

/-! ## Writing along segments -/

/-- From something that holds no children any segments may lead on. -/
@[simp] theorem writable_null (segments : List String) : writable .null segments := by
  cases segments <;> simp [writable, addresses, child?]

theorem read_write (value : Value) {segments : List String} {v : Value}
    (h : writable v segments) : read (write value segments v) segments = some value := by
  induction segments generalizing v with
  | nil => rfl
  | cons segment rest ih =>
    obtain ⟨haddr, hrest⟩ : addresses v segment = true ∧
        (child? v segment).all (writable · rest) = true := by
      simpa [writable] using h
    -- A child that is missing was created, and below it the write cannot be refused.
    have hchild : writable ((child? v segment).getD .null) rest := by
      cases hc : child? v segment with
      | none => simp
      | some child => simpa [hc] using hrest
    rw [write, read, child?_updateChild _ haddr, Option.bind_some, ih hchild]

theorem write_eq_self (value : Value) {segments : List String} {v : Value}
    (h : writable v segments = false) : write value segments v = v := by
  induction segments generalizing v with
  | nil => simp [writable] at h
  | cons segment rest ih =>
    rw [write]
    by_cases haddr : addresses v segment
    · -- The write is refused further down, below children that were there before it.
      have hall : (child? v segment).all (writable · rest) = false := by
        simpa [writable, haddr] using h
      obtain ⟨child, hchild, hrest⟩ :
          ∃ child, child? v segment = some child ∧ writable child rest = false := by
        simpa [Option.all_eq_false] using hall
      exact updateChild_eq_self_of_fixed hchild (ih hrest)
    · exact updateChild_eq_self_of_not_addresses _ (by simpa using haddr)

/-- The root is never written. -/
theorem set_root (model value : Value) {path : String} (h : Path.isRoot path) :
    set model path value = model := by
  have hnil : Path.segments path = [] := by simpa [Path.isRoot] using h
  rw [set, hnil]

theorem set_eq_write (model value : Value) {path : String} (h : Path.isRoot path = false) :
    set model path value = write value (Path.segments path) model := by
  have hne : Path.segments path ≠ [] := by simpa [Path.isRoot] using h
  unfold set
  split
  · contradiction
  · rfl

/-- A write is read back if its path is writable, and leaves the model as it was if not. -/
theorem get_set_of_writable_else_unchanged (model value : Value) (path : String) :
    if writableAt model path then get (set model path value) path = some value
    else set model path value = model := by
  by_cases hroot : Path.isRoot path
  · rw [if_neg (by simp [writableAt, hroot])]
    exact set_root model value hroot
  · have hset := set_eq_write model value (by simpa using hroot)
    split
    · rename_i hw
      rw [hset]
      exact read_write value (by simpa [writableAt, hroot] using hw)
    · rename_i hw
      rw [hset]
      exact write_eq_self value (by simpa [writableAt, hroot] using hw)

example : set (.obj [("a", .arr [])]) "/a/1/b" (.bool true) =
    .obj [("a", .arr [.null, .obj [("b", .bool true)]])] := by
  decide

example : set (.obj [("a", .arr [])]) "/a/x/b" (.bool true) = .obj [("a", .arr [])] := by
  decide

end ScreenLogic.Model
