import ScreenLogic.Proofs.Model.Independence

/-!
# What a write leaves alone

A write shows at its own place and at no place independent of it, with one exception: if it goes
past the end of a list, the slots between that end and its own hold null from then on, where there
was nothing before. At its own place a write leaves no trace of the writes before it, and a write
of what is there anyway changes nothing.

## Main definitions

* `Model.Padded`: a place that a write to another place fills with null.

## Main statements

* `Model.read_write_of_independent`: what is read at a place after a write to another one.
* `Model.write_eq_self_of_read`, `Model.write_write`: writing what is there, and writing twice.
* `Model.get_set_of_independent`, `Model.set_overwrites`: the same for paths.
-/

namespace ScreenLogic.Model

/-! ## Other places -/

/-- A place that a write to another one fills with null: both are in one list, `q` ends there, and
its slot lies between the end of the list and the slot through which `p` goes on. -/
def Padded (v : Value) (p q : List String) : Prop :=
  ∃ common s p' t parent, p = common ++ s :: p' ∧ q = common ++ [t] ∧
    read v common = some parent ∧ Pads parent s t

theorem padded_cons_iff (v : Value) (s t : String) (p q : List String) :
    Padded v (s :: p) (t :: q) ↔
      q = [] ∧ Pads v s t ∨ s = t ∧ Padded (childOrNull v s) p q := by
  constructor
  · rintro ⟨common, s', p', t', parent, hp, hq, hread, hpads⟩
    cases common with
    | nil =>
      obtain ⟨rfl, rfl⟩ := List.cons.inj hp
      obtain ⟨rfl, rfl⟩ := List.cons.inj hq
      obtain rfl := Option.some.inj hread
      exact .inl ⟨rfl, hpads⟩
    | cons c common =>
      obtain ⟨rfl, rfl⟩ := List.cons.inj hp
      obtain ⟨rfl, rfl⟩ := List.cons.inj hq
      obtain ⟨items, j, k, rfl, hslots⟩ := hpads
      have hbelow := (read_childOrNull v _ common items).mpr hread
      exact .inr ⟨rfl, common, s', p', t', _, rfl, rfl, hbelow, items, j, k, rfl, hslots⟩
  · rintro (⟨rfl, hpads⟩ | ⟨rfl, common, s', p', t', parent, rfl, rfl, hread, hpads⟩)
    · exact ⟨[], s, p, t, v, rfl, rfl, rfl, hpads⟩
    · obtain ⟨items, j, k, rfl, hslots⟩ := hpads
      have hbelow := (read_childOrNull v s common items).mp hread
      exact ⟨s :: common, s', p', t', _, rfl, rfl, hbelow, items, j, k, rfl, hslots⟩

theorem not_padded_null (p q : List String) : ¬ Padded .null p q := by
  rintro ⟨common, s, p', t, parent, -, -, hread, items, j, k, rfl, -⟩
  cases common <;> simp [read, child?] at hread

/-- Nothing is read below a child that is missing, nor below null. -/
theorem read_childOrNull_of_ne_nil (v : Value) (s : String) {rest : List String}
    (h : rest ≠ []) : read (childOrNull v s) rest = read v (s :: rest) := by
  obtain ⟨t, rest, rfl⟩ := List.exists_cons_of_ne_nil h
  have hread : read v (s :: t :: rest) = (child? v s).bind (read · (t :: rest)) := rfl
  rw [hread, childOrNull]
  cases child? v s <;> rfl

theorem childOrNull_of_not_addresses {v : Value} {s : String} (h : addresses v s = false) :
    childOrNull v s = .null := by
  cases v with
  | arr items =>
    cases hi : Path.index? s with
    | none => simp [childOrNull, child?, hi]
    | some i =>
      have hfar : items.length + maxPadding ≤ i := by simpa [addresses, hi] using h
      have hmissing : items[i]? = none := List.getElem?_eq_none (by omega)
      simp [childOrNull, child?, hi, hmissing]
  | null | bool | num | str | obj => simp [addresses] at h

/-- After a write an independent place holds what it held before, or null if it was filled up. -/
theorem read_write_of_independent {v : Value} {p q : List String} (value : Value)
    (h : Independent v p q) :
    (Padded v p q → read v q = none ∧ read (write value p v) q = some .null) ∧
      (¬ Padded v p q → read (write value p v) q = read v q) := by
  induction h using Independent.induction with
  | @apart v s t p q h =>
    simp only [padded_cons_iff, h.1, false_and, or_false]
    by_cases hpads : Pads v s t
    · obtain ⟨hbefore, hafter⟩ := child?_updateChild_of_pads hpads (write value p)
      rw [write, read, read, hbefore, hafter]
      cases q with
      | nil => exact ⟨fun _ => ⟨rfl, rfl⟩, fun hnot => absurd ⟨rfl, hpads⟩ hnot⟩
      | cons u q =>
        -- The slot holds null now, and below null there is nothing.
        exact ⟨fun hnil => absurd hnil.1 (List.cons_ne_nil u q), fun _ => rfl⟩
    · rw [write, read, read, child?_updateChild_of_not_pads h hpads]
      exact ⟨fun hnil => absurd hnil.2 hpads, fun _ => rfl⟩
  | @below v s p q h ih =>
    have hpadded : Padded v (s :: p) (s :: q) ↔ Padded (childOrNull v s) p q := by
      simp [padded_cons_iff, not_pads_self]
    have hq : q ≠ [] := by
      rintro rfl
      exact Independent.not_nil_left h.symm
    have hbefore := read_childOrNull_of_ne_nil v s hq
    rw [hpadded, ← hbefore]
    by_cases haddr : addresses v s
    · have hafter : read (write value (s :: p) v) (s :: q) =
          read (write value p (childOrNull v s)) q := by
        rw [write, read, child?_updateChild _ haddr]
        rfl
      rw [hafter]
      exact ih
    · have hdropped := updateChild_eq_self_of_not_addresses (write value p) (by simpa using haddr)
      rw [write, hdropped, ← hbefore, childOrNull_of_not_addresses (by simpa using haddr)]
      exact ⟨fun h => absurd h (not_padded_null p q), fun _ => rfl⟩

/-! ## The same place again -/

/-- Writing what a place holds changes nothing. -/
theorem write_eq_self_of_read {v value : Value} {p : List String} (h : read v p = some value) :
    write value p v = v := by
  induction p generalizing v with
  | nil => exact (Option.some.inj h).symm
  | cons s p ih =>
    obtain ⟨child, hchild, hread⟩ := Option.bind_eq_some_iff.mp h
    exact updateChild_eq_self_of_fixed hchild (ih hread)

/-- Of two writes to one place only the second one shows. -/
theorem write_write (a b : Value) (p : List String) (v : Value) :
    write b p (write a p v) = write b p v := by
  induction p generalizing v with
  | nil => rfl
  | cons s p ih =>
    rw [write, write, updateChild_updateChild_self]
    exact updateChild_congr (ih _)

/-! ## Paths -/

/-- What is read at one path is still read there after a write at another one that is independent
of it. What was absent is still absent, unless the write fills it up with null. -/
theorem get_set_of_independent {model : Value} {p q : String} (value : Value)
    (h : Independent model (Path.segments p) (Path.segments q)) :
    (∀ w, get model q = some w → get (set model p value) q = some w) ∧
    (get model q = none →
      (Padded model (Path.segments p) (Path.segments q) →
        get (set model p value) q = some .null) ∧
      (¬ Padded model (Path.segments p) (Path.segments q) →
        get (set model p value) q = none)) := by
  have hroot : Path.isRoot p = false := by
    cases hp : Path.segments p with
    | nil => exact absurd (hp ▸ h) Independent.not_nil_left
    | cons s rest => simp [Path.isRoot, hp]
  obtain ⟨hpadded, hkept⟩ := read_write_of_independent value h
  rw [set_eq_write model value hroot]
  simp only [get]
  refine ⟨fun w hw => ?_, fun habsent => ⟨fun h => (hpadded h).2, fun h => ?_⟩⟩
  · have hnot : ¬ Padded model (Path.segments p) (Path.segments q) := by
      intro h
      rw [(hpadded h).1] at hw
      cases hw
    rw [hkept hnot, hw]
  · rw [hkept h, habsent]

/-- A write past the end of a list, and what is read of another slot there and of another list. -/
theorem get_set_of_independent_of_slots :
    let model : Value := .obj [("list", .arr [.int 0]), ("other", .arr [.int 1])]
    let written := set model "/list/4/x" (.bool true)
    Independent model (Path.segments "/list/4/x") (Path.segments "/list/02") ∧
      Padded model (Path.segments "/list/4/x") (Path.segments "/list/02") ∧
      get model "/list/02" = none ∧ get written "/list/02" = some .null ∧
      Independent model (Path.segments "/list/4/x") (Path.segments "/other/0") ∧
      get written "/other/0" = some (.int 1) := by
  intro model written
  have hlist : Independent model (Path.segments "/list/4/x") (Path.segments "/list/02") := by
    decide
  have hother : Independent model (Path.segments "/list/4/x") (Path.segments "/other/0") := by
    decide
  have hpadded : Padded model (Path.segments "/list/4/x") (Path.segments "/list/02") :=
    ⟨["list"], "4", ["x"], "02", .arr [.int 0], by decide, by decide, by decide,
      [.int 0], 4, 2, rfl, by decide, by decide, by decide, by decide, by decide⟩
  have habsent : get model "/list/02" = none := by decide
  have hnull := ((get_set_of_independent (.bool true) hlist).2 habsent).1 hpadded
  have hkept := (get_set_of_independent (.bool true) hother).1 (.int 1) (by decide)
  exact ⟨hlist, hpadded, habsent, hnull, hother, hkept⟩

/-- To write what is read changes nothing, and of two writes to one path only the second one
shows, whatever there was on the way and whether or not they are dropped. -/
theorem set_overwrites (model : Value) (path : String) :
    (∀ v, get model path = some v → set model path v = model) ∧
      ∀ v w, set (set model path v) path w = set model path w := by
  by_cases hroot : Path.isRoot path
  · simp [set_root _ _ hroot]
  · have hset (m v : Value) : set m path v = write v (Path.segments path) m :=
      set_eq_write m v (by simpa using hroot)
    simp only [hset]
    exact ⟨fun v hv => write_eq_self_of_read hv, fun v w => write_write v w _ model⟩

/-- A slot past the end of a list, written twice and then with what it holds. -/
theorem set_overwrites_of_slot :
    let model : Value := .obj [("list", .arr [.int 0])]
    let written := set model "/list/2/x" (.bool true)
    get written "/list/2" = some (.obj [("x", .bool true)]) ∧
      set written "/list/2" (.obj [("x", .bool true)]) = written ∧
      set written "/list/2/x" (.bool false) = set model "/list/2/x" (.bool false) := by
  intro model written
  have hread : get written "/list/2" = some (.obj [("x", .bool true)]) := by decide +kernel
  exact ⟨hread, (set_overwrites written "/list/2").1 _ hread,
    (set_overwrites model "/list/2/x").2 (.bool true) (.bool false)⟩

end ScreenLogic.Model
