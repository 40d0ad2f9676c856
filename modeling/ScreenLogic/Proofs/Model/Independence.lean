import ScreenLogic.Proofs.Model.Write

/-!
# Independent writes

Two places in a model are independent if neither lies inside the other. Where their segments
part they name different children, for which it is not enough in a list that the segments
differ. A write leaves independent places as writable and as independent of each other as they
were, and so writes to places that are all independent of each other commute.

## Main definitions

* `Model.Pads`: a slot of a list that a change of another one fills with null.
* `Model.Independent`: places in a value of which neither lies inside the other.
* `Model.Compatible`: writes that can each be made, at places independent of each other.

## Main statements

* `Model.write_comm`: writes to independent places commute.
* `Model.Compatible.setAll_perm`: compatible writes have one result in any order.
* `Model.Compatible.get_setAll`: after compatible writes each place holds its own value.
-/

namespace ScreenLogic.Model

/-! ## Slots of a list -/

theorem length_le_length_updateSlot (items : List Value) (i : Nat) (f : Value → Value) :
    items.length ≤ (updateSlot items i f).length := by
  unfold updateSlot
  split
  · exact Nat.le_of_eq (List.length_modify _ _ _).symm
  · split <;> simp

theorem updateSlot_comm {items : List Value} {i j : Nat} (f g : Value → Value) (h : i ≠ j)
    (hi : i < items.length + maxPadding) (hj : j < items.length + maxPadding) :
    updateSlot (updateSlot items i f) j g = updateSlot (updateSlot items j g) i f := by
  -- Each change leaves the other slot within reach, as a list only grows.
  have hlength := length_le_length_updateSlot items i f
  have hlength' := length_le_length_updateSlot items j g
  apply List.ext_getElem?
  intro k
  rw [getElem?_updateSlot g (by omega), getElem?_updateSlot f hi,
    getElem?_updateSlot f (by omega), getElem?_updateSlot g hj]
  grind

theorem updateSlot_updateSlot_self (items : List Value) (i : Nat) (f g : Value → Value) :
    updateSlot (updateSlot items i f) i g = updateSlot items i (g ∘ f) := by
  by_cases hi : i < items.length + maxPadding
  · have hlength := length_le_length_updateSlot items i f
    apply List.ext_getElem?
    intro k
    rw [getElem?_updateSlot g (by omega), getElem?_updateSlot f hi, getElem?_updateSlot _ hi]
    grind
  · have hfar : items.length + maxPadding ≤ i := Nat.le_of_not_lt hi
    rw [updateSlot_eq_self_of_far f hfar, updateSlot_eq_self_of_far g hfar,
      updateSlot_eq_self_of_far _ hfar]

theorem updateSlot_congr {items : List Value} {i : Nat} {f g : Value → Value}
    (h : f (items[i]?.getD .null) = g (items[i]?.getD .null)) :
    updateSlot items i f = updateSlot items i g := by
  by_cases hi : i < items.length + maxPadding
  · apply List.ext_getElem?
    intro k
    rw [getElem?_updateSlot f hi, getElem?_updateSlot g hi]
    grind
  · have hfar : items.length + maxPadding ≤ i := Nat.le_of_not_lt hi
    rw [updateSlot_eq_self_of_far f hfar, updateSlot_eq_self_of_far g hfar]

/-! ## Children of a value -/

/-- A child, or null if it is missing. -/
def childOrNull (v : Value) (s : String) : Value := (child? v s).getD .null

/-- Segments that name different children of a value. In a list different segments may be the
same index. -/
def Apart (v : Value) (s t : String) : Prop :=
  s ≠ t ∧ ∀ items i, v = .arr items → Path.index? s = some i → Path.index? t ≠ some i

theorem Apart.symm {v : Value} {s t : String} (h : Apart v s t) : Apart v t s :=
  ⟨h.1.symm, fun items i hv ht hs => h.2 items i hv hs ht⟩

instance (v : Value) (s t : String) : Decidable (Apart v s t) :=
  match v with
  | .arr items =>
    decidable_of_iff (s ≠ t ∧ ∀ i ∈ Path.index? s, Path.index? t ≠ some i)
      ⟨fun h => ⟨h.1, fun _ i _ hs => h.2 i hs⟩, fun h => ⟨h.1, fun i hs => h.2 items i rfl hs⟩⟩
  | .null | .bool _ | .num _ | .str _ | .obj _ =>
    decidable_of_iff (s ≠ t) ⟨fun h => ⟨h, nofun⟩, And.left⟩

/-- A list stays a list, and nothing else becomes one. -/
theorem updateChild_eq_arr_iff (v : Value) (s : String) (f : Value → Value) :
    (∃ items, updateChild v s f = .arr items) ↔ ∃ items, v = .arr items := by
  cases v with
  | arr items =>
    simp only [updateChild, ensureContainer]
    split <;> simp
  | null | bool | num | str | obj => simp [updateChild, ensureContainer]

theorem Apart.updateChild {v : Value} {s t : String} (h : Apart v s t) (u : String)
    (f : Value → Value) : Apart (Model.updateChild v u f) s t := by
  refine ⟨h.1, fun items i hv => ?_⟩
  obtain ⟨former, hformer⟩ := (updateChild_eq_arr_iff v u f).mp ⟨items, hv⟩
  exact h.2 former i hformer

/-- What can be addressed still can be after a change, as a list only grows. -/
theorem addresses_updateChild {v : Value} {t : String} (s : String) (f : Value → Value)
    (h : addresses v t) : addresses (updateChild v s f) t := by
  cases v with
  | arr items =>
    simp only [updateChild, ensureContainer]
    split
    · rename_i i hi
      obtain ⟨j, hj, hreach⟩ := (Option.any_eq_true _ _).mp h
      have hlength := length_le_length_updateSlot items i f
      have hlt := of_decide_eq_true hreach
      exact (Option.any_eq_true _ _).mpr ⟨j, hj, decide_eq_true (by omega)⟩
    · exact h
  | null | bool | num | str | obj => rfl

theorem updateChild_updateChild_self (v : Value) (s : String) (f g : Value → Value) :
    updateChild (updateChild v s f) s g = updateChild v s (g ∘ f) := by
  cases v with
  | arr items =>
    cases hs : Path.index? s with
    | none => simp [updateChild, ensureContainer, hs]
    | some i => simp [updateChild, ensureContainer, hs, updateSlot_updateSlot_self]
  | obj fields => simp [updateChild, ensureContainer, Fields.put_put_self]
  | null | bool | num | str => simp [updateChild, ensureContainer, Fields.put_put_self]

/-- Of a change of a child, only what it makes of that child counts. -/
theorem updateChild_congr {v : Value} {s : String} {f g : Value → Value}
    (h : f (childOrNull v s) = g (childOrNull v s)) : updateChild v s f = updateChild v s g := by
  cases v with
  | arr items =>
    cases hs : Path.index? s with
    | none => simp [updateChild, ensureContainer, hs]
    | some i =>
      simp only [updateChild, ensureContainer, hs]
      rw [updateSlot_congr (by simpa [childOrNull, child?, hs] using h)]
  | obj fields => exact congrArg (fun child => Value.obj (Fields.put fields s child)) h
  | null | bool | num | str => exact congrArg (fun child => Value.obj (Fields.put [] s child)) h

theorem updateChild_comm {v : Value} {s t : String} (f g : Value → Value) (h : Apart v s t)
    (hs : addresses v s) (ht : addresses v t) :
    updateChild (updateChild v s f) t g = updateChild (updateChild v t g) s f := by
  cases v with
  | arr items =>
    obtain ⟨i, hi, hireach⟩ := (Option.any_eq_true _ _).mp hs
    obtain ⟨j, hj, hjreach⟩ := (Option.any_eq_true _ _).mp ht
    have hij : i ≠ j := by
      rintro rfl
      exact h.2 items i rfl hi hj
    have hcomm := updateSlot_comm f g hij (of_decide_eq_true hireach) (of_decide_eq_true hjreach)
    simp [updateChild, ensureContainer, hi, hj, hcomm]
  | obj fields =>
    simp [updateChild, ensureContainer, Fields.get?_put, h.1, h.1.symm, Fields.put_comm _ h.1]
  | null | bool | num | str =>
    simp [updateChild, ensureContainer, Fields.get?_put, h.1, h.1.symm, Fields.put_comm _ h.1]

theorem childOrNull_updateChild_self {v : Value} {s : String} (f : Value → Value)
    (h : addresses v s) : childOrNull (updateChild v s f) s = f (childOrNull v s) := by
  rw [childOrNull, child?_updateChild f h, Option.getD_some, childOrNull]

/-- In a list a change of the slot `s` fills the slot `t` with null: it lies between the end of the
list and `s`, which is within reach. -/
def Pads (v : Value) (s t : String) : Prop :=
  ∃ items j k, v = .arr items ∧ Path.index? s = some j ∧ Path.index? t = some k ∧
    items.length ≤ k ∧ k < j ∧ j < items.length + maxPadding

theorem not_pads_self (v : Value) (s : String) : ¬ Pads v s s := by
  rintro ⟨items, j, k, -, hj, hk, -, hlt, -⟩
  rw [hj] at hk
  exact Nat.ne_of_gt hlt (Option.some.inj hk)

theorem child?_updateChild_of_pads {v : Value} {s t : String} (h : Pads v s t)
    (f : Value → Value) : child? v t = none ∧ child? (updateChild v s f) t = some .null := by
  obtain ⟨items, j, k, rfl, hj, hk, hend, hlt, hreach⟩ := h
  have hslot := getElem?_updateSlot f hreach k
  have hmissing : items[k]? = none := List.getElem?_eq_none hend
  rw [if_neg (Nat.ne_of_lt hlt), if_pos hlt, hmissing] at hslot
  simp [child?, updateChild, ensureContainer, hj, hk, hslot, hmissing]

/-- A change of one child leaves the others as they are, unless it has to fill the list up. -/
theorem child?_updateChild_of_not_pads {v : Value} {s t : String} (hapart : Apart v s t)
    (h : ¬ Pads v s t) (f : Value → Value) : child? (updateChild v s f) t = child? v t := by
  by_cases haddr : addresses v s
  · cases v with
    | arr items =>
      obtain ⟨j, hj, hreach⟩ := (Option.any_eq_true _ _).mp haddr
      have hreach := of_decide_eq_true hreach
      cases hk : Path.index? t with
      | none => simp [child?, updateChild, ensureContainer, hj, hk]
      | some k =>
        have hne : k ≠ j := by
          rintro rfl
          exact hapart.2 items k rfl hj hk
        have hslot := getElem?_updateSlot f hreach k
        rw [if_neg hne] at hslot
        simp only [child?, updateChild, ensureContainer, hj, hk, Option.bind_some, hslot]
        split
        · rename_i hlt
          have hinside : k < items.length := by
            refine Nat.lt_of_not_le fun hend => h ?_
            exact ⟨items, j, k, rfl, hj, hk, hend, hlt, hreach⟩
          simp [hinside]
        · rfl
    | obj fields => simp [child?, updateChild, ensureContainer, Fields.get?_put, hapart.1]
    | null | bool | num | str =>
      simp [child?, updateChild, ensureContainer, Fields.get?_put, hapart.1]
  · rw [updateChild_eq_self_of_not_addresses f (by simpa using haddr)]

/-- A change of one child leaves the others as they are, if null and missing count as one. -/
theorem childOrNull_updateChild_of_apart {v : Value} {s t : String} (f : Value → Value)
    (h : Apart v s t) : childOrNull (updateChild v s f) t = childOrNull v t := by
  by_cases hpads : Pads v s t
  · obtain ⟨hbefore, hafter⟩ := child?_updateChild_of_pads hpads f
    rw [childOrNull, childOrNull, hbefore, hafter, Option.getD_none, Option.getD_some]
  · rw [childOrNull, childOrNull, child?_updateChild_of_not_pads h hpads]

theorem writable_cons_iff (v : Value) (s : String) (rest : List String) :
    writable v (s :: rest) ↔ addresses v s ∧ writable (childOrNull v s) rest := by
  rw [writable, Bool.and_eq_true, childOrNull]
  cases child? v s <;> simp

/-- A list is read below a child exactly if the child is there. -/
theorem read_childOrNull (v : Value) (s : String) (rest : List String) (items : List Value) :
    read (childOrNull v s) rest = some (.arr items) ↔ read v (s :: rest) = some (.arr items) := by
  rw [read, childOrNull]
  cases child? v s with
  | some child => rfl
  | none => cases rest <;> simp [read, child?]

/-! ## Independent places -/

/-- Two places in a value of which neither lies inside the other: after what they have in common
they go on with different segments, which are not the same index of a list. -/
def Independent (v : Value) (p q : List String) : Prop :=
  ∃ common s t p' q', p = common ++ s :: p' ∧ q = common ++ t :: q' ∧ s ≠ t ∧
    ∀ items i, read v common = some (.arr items) → Path.index? s = some i → Path.index? t ≠ some i

namespace Independent

variable {v : Value} {p q r : List String}

theorem symm (h : Independent v p q) : Independent v q p := by
  obtain ⟨common, s, t, p', q', hp, hq, hne, hindex⟩ := h
  exact ⟨common, t, s, q', p', hq, hp, hne.symm, fun items i hv ht hs => hindex items i hv hs ht⟩

theorem not_nil_left : ¬ Independent v [] q := by
  rintro ⟨common, s, t, p', q', hp, -⟩
  simp at hp

theorem cons_iff {s t : String} : Independent v (s :: p) (t :: q) ↔
    Apart v s t ∨ s = t ∧ Independent (childOrNull v s) p q := by
  constructor
  · rintro ⟨common, s', t', p', q', hp, hq, hne, hindex⟩
    cases common with
    | nil =>
      obtain ⟨rfl, rfl⟩ := List.cons.inj hp
      obtain ⟨rfl, rfl⟩ := List.cons.inj hq
      exact .inl ⟨hne, fun items i hv => hindex items i (congrArg some hv)⟩
    | cons c rest =>
      obtain ⟨rfl, rfl⟩ := List.cons.inj hp
      obtain ⟨rfl, rfl⟩ := List.cons.inj hq
      exact .inr ⟨rfl, rest, s', t', p', q', rfl, rfl, hne, fun items i hread =>
        hindex items i ((read_childOrNull v _ rest items).mp hread)⟩
  · rintro (h | ⟨rfl, common, s', t', p', q', rfl, rfl, hne, hindex⟩)
    · exact ⟨[], s, t, p, q, rfl, rfl, h.1, fun items i hread =>
        h.2 items i (Option.some.inj hread)⟩
    · exact ⟨s :: common, s', t', p', q', rfl, rfl, hne, fun items i hread =>
        hindex items i ((read_childOrNull v s common items).mpr hread)⟩

theorem of_apart {s t : String} (h : Apart v s t) : Independent v (s :: p) (t :: q) :=
  cons_iff.mpr (.inl h)

theorem of_below {s : String} (h : Independent (childOrNull v s) p q) :
    Independent v (s :: p) (s :: q) :=
  cons_iff.mpr (.inr ⟨rfl, h⟩)

/-- Follow two independent places down to where they part. -/
@[elab_as_elim]
theorem induction {motive : (v : Value) → (p q : List String) → Independent v p q → Prop}
    (apart : ∀ {v s t} p q (h : Apart v s t), motive v (s :: p) (t :: q) (of_apart h))
    (below : ∀ {v s p q} (h : Independent (childOrNull v s) p q),
      motive (childOrNull v s) p q h → motive v (s :: p) (s :: q) (of_below h))
    (h : Independent v p q) : motive v p q h := by
  induction p generalizing v q with
  | nil => exact absurd h not_nil_left
  | cons s p ih =>
    cases q with
    | nil => exact absurd h.symm not_nil_left
    | cons t q =>
      rcases cons_iff.mp h with hapart | ⟨rfl, hbelow⟩
      · exact apart p q hapart
      · exact below hbelow (ih hbelow)

def decide : (v : Value) → (p q : List String) → Decidable (Independent v p q)
  | _, [], _ => isFalse not_nil_left
  | _, _ :: _, [] => isFalse fun h => not_nil_left h.symm
  | v, s :: p, _ :: q =>
    have := decide (childOrNull v s) p q
    decidable_of_iff _ cons_iff.symm

instance (v : Value) (p q : List String) : Decidable (Independent v p q) := decide v p q

end Independent

example : ¬ Independent (.obj [("a", .arr [])]) ["a", "1"] ["a", "01", "b"] := by decide

example : Independent (.obj [("a", .obj [])]) ["a", "1"] ["a", "01", "b"] := by decide

/-! ## Writes to independent places -/

theorem write_comm {v : Value} {p q : List String} (a b : Value) (h : Independent v p q)
    (hp : writable v p) (hq : writable v q) :
    write b q (write a p v) = write a p (write b q v) := by
  induction h using Independent.induction with
  | @apart v s t p q h =>
    have hs := ((writable_cons_iff v s p).mp hp).1
    have ht := ((writable_cons_iff v t q).mp hq).1
    exact updateChild_comm (write a p) (write b q) h hs ht
  | @below v s p q h ih =>
    have hchild := ih ((writable_cons_iff v s p).mp hp).2 ((writable_cons_iff v s q).mp hq).2
    simp only [write]
    rw [updateChild_updateChild_self, updateChild_updateChild_self]
    exact updateChild_congr hchild

/-- A place stays writable after a write that is independent of it. -/
theorem writable_write {v : Value} {p q : List String} (a : Value) (h : Independent v p q)
    (hp : writable v p) (hq : writable v q) : writable (write a p v) q := by
  induction h using Independent.induction with
  | @apart v s t p q h =>
    obtain ⟨ht, hq⟩ := (writable_cons_iff v t q).mp hq
    refine (writable_cons_iff _ t q).mpr ⟨addresses_updateChild s _ ht, ?_⟩
    rwa [write, childOrNull_updateChild_of_apart _ h]
  | @below v s p q h ih =>
    obtain ⟨hs, hp⟩ := (writable_cons_iff v s p).mp hp
    obtain ⟨-, hq⟩ := (writable_cons_iff v s q).mp hq
    refine (writable_cons_iff _ s q).mpr ⟨addresses_updateChild s _ hs, ?_⟩
    rw [write, childOrNull_updateChild_self _ hs]
    exact ih hp hq

/-- Places stay independent of each other after a write that is independent of one of them. -/
theorem Independent.write {v : Value} {p q r : List String} (a : Value) (hqr : Independent v q r)
    (hpq : Independent v p q) (hp : writable v p) : Independent (Model.write a p v) q r := by
  induction hqr using Independent.induction generalizing p with
  | @apart v s t q r h =>
    cases p with
    | nil => exact absurd hpq not_nil_left
    | cons u p => exact of_apart (h.updateChild u _)
  | @below v s q r h ih =>
    cases p with
    | nil => exact absurd hpq not_nil_left
    | cons u p =>
      obtain ⟨hu, hp⟩ := (writable_cons_iff v u p).mp hp
      apply of_below
      rw [Model.write]
      rcases cons_iff.mp hpq with hapart | ⟨rfl, hbelow⟩
      · rwa [childOrNull_updateChild_of_apart _ hapart]
      · rw [childOrNull_updateChild_self _ hu]
        exact ih hbelow hp

/-! ## Several writes -/

theorem writableAt_iff (model : Value) (path : String) :
    writableAt model path ↔ Path.isRoot path = false ∧ writable model (Path.segments path) := by
  simp [writableAt]

/-- Writes that can each be made, at places that are independent of each other. -/
structure Compatible (model : Value) (writes : List (String × Value)) : Prop where
  writable : ∀ w ∈ writes, writableAt model w.1
  independent : writes.Pairwise fun w w' =>
    Independent model (Path.segments w.1) (Path.segments w'.1)

instance (model : Value) (writes : List (String × Value)) : Decidable (Compatible model writes) :=
  decidable_of_iff (_ ∧ _) ⟨fun h => ⟨h.1, h.2⟩, fun h => ⟨h.1, h.2⟩⟩

namespace Compatible

variable {model : Value} {w w' : String × Value} {writes order : List (String × Value)}

theorem perm (h : Compatible model writes) (hperm : order.Perm writes) :
    Compatible model order where
  writable w hw := h.writable w (hperm.subset hw)
  independent := hperm.symm.pairwise h.independent fun h => h.symm

/-- After the first of several writes the others are still compatible. -/
theorem set (h : Compatible model (w :: writes)) :
    Compatible (Model.set model w.1 w.2) writes := by
  obtain ⟨hw, hwrites⟩ := List.forall_mem_cons.mp h.writable
  obtain ⟨hfirst, hrest⟩ := List.pairwise_cons.mp h.independent
  obtain ⟨hroot, hw⟩ := (writableAt_iff model w.1).mp hw
  rw [set_eq_write model w.2 hroot]
  constructor
  · intro w' hw'
    obtain ⟨hroot', hwritable⟩ := (writableAt_iff model w'.1).mp (hwrites w' hw')
    have hkept := writable_write w.2 (hfirst w' hw') hw hwritable
    exact (writableAt_iff _ w'.1).mpr ⟨hroot', hkept⟩
  · exact hrest.imp_of_mem fun hmem _ hindependent =>
      hindependent.write w.2 (hfirst _ hmem) hw

theorem setAll (h : Compatible model (order ++ writes)) :
    Compatible (Model.setAll model order) writes := by
  induction order generalizing model with
  | nil => exact h
  | cons w order ih => exact ih h.set

theorem set_comm (h : Compatible model (w :: w' :: writes)) :
    Model.set (Model.set model w.1 w.2) w'.1 w'.2 =
      Model.set (Model.set model w'.1 w'.2) w.1 w.2 := by
  obtain ⟨hw, hwrites⟩ := List.forall_mem_cons.mp h.writable
  obtain ⟨hroot, hw⟩ := (writableAt_iff model w.1).mp hw
  obtain ⟨hroot', hw'⟩ := (writableAt_iff model w'.1).mp (hwrites w' (List.mem_cons_self ..))
  have hindependent := (List.pairwise_cons.mp h.independent).1 w' (List.mem_cons_self ..)
  rw [set_eq_write _ w.2 hroot, set_eq_write _ w'.2 hroot', set_eq_write _ w'.2 hroot',
    set_eq_write _ w.2 hroot]
  exact write_comm w.2 w'.2 hindependent hw hw'

/-- The order of compatible writes does not matter. -/
theorem setAll_perm (h : Compatible model writes) (hperm : order.Perm writes) :
    Model.setAll model order = Model.setAll model writes := by
  induction hperm generalizing model with
  | nil => rfl
  | cons w hperm ih => exact ih h.set
  | swap w w' writes =>
    have hswap := (h.perm (.swap w w' writes)).set_comm
    exact congrArg (Model.setAll · writes) hswap
  | trans hfirst hsecond ih ih' => rw [ih (h.perm hsecond), ih' h]

/-- Each of several compatible writes is read back after all of them. -/
theorem get_setAll (h : Compatible model writes) (hw : w ∈ writes) :
    get (Model.setAll model writes) w.1 = some w.2 := by
  obtain ⟨former, later, rfl⟩ := List.append_of_mem hw
  -- The write in question may as well be the last one.
  have hlast : (former ++ later ++ [w]).Perm (former ++ w :: later) := by
    rw [List.append_assoc]
    exact List.perm_append_comm.append_left former
  have hwritable := (h.perm hlast).setAll.writable w (List.mem_singleton_self w)
  obtain ⟨hroot, hwritable⟩ := (writableAt_iff _ w.1).mp hwritable
  rw [← h.setAll_perm hlast, Model.setAll, List.foldl_append]
  change get (Model.set (Model.setAll model (former ++ later)) w.1 w.2) w.1 = some w.2
  rw [set_eq_write _ w.2 hroot]
  exact read_write w.2 hwritable

end Compatible

end ScreenLogic.Model
