import Mathlib.Data.List.Induction
import Mathlib.Logic.Function.Basic
import ScreenLogic.Model.Handles

/-!
# Families of clones

Handles that come of one another by cloning are a family, and each family has one plain tree. What
is done with a handle, directly or through a host, is done with the tree of its family. The models
in existence are these trees, each kept in a place of its own, so that no family sees what is done
to another.

## Main definitions

* `Handles.Access`, `Handles.Move`: what steps do, however they are made.
* `Handles.Record`: the families of the handles and what was done with each, without any models.
* `Handles.Mirrors`: the models are the trees of the families.

## Main statements

* `Handles.step_mirrors`: a step answers as the record does, and both stay alike.
* `Handles.families_share_one_tree`: the answers of a run are those of the families' trees.
-/

namespace ScreenLogic.Handles

/-! ## Accesses -/

/-- What can be done with a model through a handle. -/
inductive Access where
  | get (path : String)
  | set (path : String) (value : Value)
  | replace (model : Value)
  | snapshot

namespace Access

/-- A tree after an access. -/
def apply (tree : Value) : Access → Value
  | .get _ => tree
  | .set path value => Model.set tree path value
  | .replace model => model
  | .snapshot => tree

/-- What is answered to an access to a tree. A write is answered with the tree after it. -/
def answer (tree : Value) : Access → Answer
  | .get path => .found (Model.get tree path)
  | .set path value => .model (Model.set tree path value)
  | .replace model => .model model
  | .snapshot => .model tree

end Access

/-- A step, whether it is made directly or through a host. -/
inductive Move where
  | clone (handle : Nat)
  | new (model : Value)
  | access (handle : Nat) (access : Access)

def Step.move : Step → Move
  | .clone handle => .clone handle
  | .new model => .new model
  | .get handle path => .access handle (.get path)
  | .set handle path value => .access handle (.set path value)
  | .replace handle model => .access handle (.replace model)
  | .snapshot handle => .access handle .snapshot
  | .hostGet handle path => .access handle (.get path)
  | .hostSet handle path value => .access handle (.set path value)
  | .hostSnapshot handle => .access handle .snapshot

/-! ## Records -/

/-- A family of clones, by its first handle and the tree that this was given. -/
structure Family where
  founder : Nat
  start : Value
  deriving DecidableEq

/-- The family of each handle, and the accesses to all families in order. -/
structure Record where
  families : List Family
  log : List (Family × Access)

namespace Record

def init (model : Value) : Record := ⟨[⟨0, model⟩], []⟩

/-- The family that the next handle founds. -/
def founded (r : Record) (model : Value) : Family := ⟨r.families.length, model⟩

/-- A clone is of the family of its handle, and a new handle founds a family. -/
def note (r : Record) : Move → Record
  | .clone handle => { r with families := r.families ++ (r.families[handle]?).toList }
  | .new model => { r with families := r.families ++ [r.founded model] }
  | .access handle access =>
    { r with log := r.log ++ ((r.families[handle]?).map fun family => (family, access)).toList }

def ofSteps (model : Value) (steps : List Step) : Record :=
  steps.foldl (fun r s => r.note s.move) (init model)

/-- The accesses to one family, in order. -/
def accesses (r : Record) (family : Family) : List Access :=
  (r.log.filter fun entry => entry.1 = family).map (·.2)

/-- The tree of a family: what its accesses make of the one that it was given. -/
def tree (r : Record) (family : Family) : Value :=
  (r.accesses family).foldl Access.apply family.start

/-- What is answered to a move: a handle, numbered next, or what the tree of the family has. -/
def answer? (r : Record) : Move → Option Answer
  | .clone handle => (r.families[handle]?).map fun _ => .handle r.families.length
  | .new _ => some (.handle r.families.length)
  | .access handle access =>
    (r.families[handle]?).map fun family => access.answer (r.tree family)

end Record

/-! ## Steps -/

variable {h : Handles} {handle : Nat}

theorem model?_update_self (h : Handles) (handle : Nat) (f : Value → Value) :
    (h.update handle f).model? handle = (h.model? handle).map f := by
  cases howner : h.owners[handle]? <;> simp [update, model?, howner]

theorem update_id (h : Handles) (handle : Nat) : h.update handle (fun tree => tree) = h := by
  unfold update
  split
  · rename_i i _
    have hmodels : h.models.modify i (fun tree => tree) = h.models :=
      List.ext_getElem? fun j => by simp [List.getElem?_modify]
    rw [hmodels]
  · rfl

/-- All accesses are made in the same way. -/
theorem step_of_access {s : Step} {access : Access} (hs : s.move = .access handle access) :
    h.step s = ((h.model? handle).map (access.answer ·), h.update handle (access.apply ·)) := by
  cases s <;> cases hs <;> cases hmodel : h.model? handle <;>
    simp [step, host, Access.answer, Access.apply, model?_update_self, update_id, hmodel]

theorem step_clone (h : Handles) (handle : Nat) :
    h.step (.clone handle) =
      ((h.owners[handle]?).map fun _ => .handle h.owners.length,
        { h with owners := h.owners ++ (h.owners[handle]?).toList }) := by
  cases howner : h.owners[handle]? <;> simp [step, clone?, howner]

/-- An access changes the tree of one family. -/
theorem Record.tree_note_access {r : Record} {family : Family}
    (hfamily : r.families[handle]? = some family) (access : Access) (other : Family) :
    (r.note (.access handle access)).tree other =
      if family = other then access.apply (r.tree other) else r.tree other := by
  have hlog : (r.note (.access handle access)).log = r.log ++ [(family, access)] := by
    simp [note, hfamily]
  unfold tree accesses
  rw [hlog]
  by_cases hother : family = other <;> simp [hother]

/-- A step that is no access to a family leaves its handles and its tree alone. -/
theorem Record.note_of_no_access {r : Record} {family : Family} {move : Move}
    (hmove : ∀ handle access, move = .access handle access → r.families[handle]? ≠ some family)
    (hfamily : r.families[handle]? = some family) :
    (r.note move).families[handle]? = some family ∧ (r.note move).tree family = r.tree family := by
  obtain ⟨hlt, -⟩ := List.getElem?_eq_some_iff.mp hfamily
  cases move with
  | clone _ => exact ⟨(List.getElem?_append_left hlt).trans hfamily, rfl⟩
  | new _ => exact ⟨(List.getElem?_append_left hlt).trans hfamily, rfl⟩
  | access of access =>
    refine ⟨hfamily, ?_⟩
    cases hof : r.families[of]? with
    | none => simp [note, hof]
    | some other =>
      have hother : other ≠ family := fun heq => hmove of access rfl (heq ▸ hof)
      rw [tree_note_access hof, if_neg hother]

/-! ## Models as trees of families -/

/-- The models in existence are the trees of the families, each in its place. -/
structure Mirrors (place : Family → Nat) (h : Handles) (r : Record) : Prop where
  owners_eq : h.owners = r.families.map place
  model_eq : ∀ family ∈ r.families, h.models[place family]? = some (r.tree family)
  place_injective : ∀ family ∈ r.families, ∀ other ∈ r.families,
    place family = place other → family = other
  founder_lt : ∀ family ∈ r.families, family.founder < r.families.length
  mem_of_log : ∀ entry ∈ r.log, entry.1 ∈ r.families

theorem mirrors_init (model : Value) :
    Mirrors (fun _ => 0) (Handles.init model) (Record.init model) := by
  constructor <;> simp [Handles.init, Record.init, Record.tree, Record.accesses]

namespace Mirrors

variable {place : Family → Nat} {r : Record}

theorem model?_eq (hr : Mirrors place h r) (handle : Nat) :
    h.model? handle = (r.families[handle]?).map r.tree := by
  simp only [model?, hr.owners_eq, List.getElem?_map]
  cases hfamily : r.families[handle]? with
  | none => rfl
  | some family => simpa using hr.model_eq family (List.mem_of_getElem? hfamily)

theorem length_eq (hr : Mirrors place h r) : h.owners.length = r.families.length := by
  rw [hr.owners_eq, List.length_map]

/-- A clone is of a family that has its place already. -/
theorem clone (hr : Mirrors place h r) (handle : Nat) :
    Mirrors place (h.step (.clone handle)).2 (r.note (.clone handle)) := by
  have hmem : ∀ family ∈ r.families ++ (r.families[handle]?).toList, family ∈ r.families := by
    intro family hfamily
    rcases List.mem_append.mp hfamily with hold | hnew
    · exact hold
    · exact List.mem_of_getElem? (Option.mem_toList.mp hnew)
  rw [step_clone]
  refine ⟨?_, ?_, ?_, ?_, ?_⟩
  · cases hfamily : r.families[handle]? <;> simp [Record.note, hr.owners_eq, hfamily]
  · exact fun family hfamily => hr.model_eq family (hmem family hfamily)
  · exact fun family hfamily other hother =>
      hr.place_injective family (hmem family hfamily) other (hmem other hother)
  · intro family hfamily
    have hlt := hr.founder_lt family (hmem family hfamily)
    simp only [Record.note, List.length_append]
    omega
  · exact fun entry hentry => List.mem_append_left _ (hr.mem_of_log entry hentry)

theorem place_lt (hr : Mirrors place h r) {family : Family} (hfamily : family ∈ r.families) :
    place family < h.models.length := by
  obtain ⟨hlt, -⟩ := List.getElem?_eq_some_iff.mp (hr.model_eq family hfamily)
  exact hlt

theorem ne_founded (hr : Mirrors place h r) (model : Value) {family : Family}
    (hfamily : family ∈ r.families) : family ≠ r.founded model := by
  rintro rfl
  exact absurd (hr.founder_lt _ hfamily) (Nat.lt_irrefl _)

/-- Nothing was done with a family that is not founded yet. -/
theorem tree_founded (hr : Mirrors place h r) (model : Value) :
    r.tree (r.founded model) = model := by
  have hidle : r.accesses (r.founded model) = [] := by
    simp only [Record.accesses, List.map_eq_nil_iff, List.filter_eq_nil_iff, decide_eq_true_eq]
    exact fun entry hentry => hr.ne_founded model (hr.mem_of_log entry hentry)
  rw [Record.tree, hidle]
  rfl

/-- A new family has a place of its own. -/
theorem new (hr : Mirrors place h r) (model : Value) :
    Mirrors (Function.update place (r.founded model) h.models.length)
      (h.step (.new model)).2 (r.note (.new model)) := by
  have hplace : ∀ family ∈ r.families,
      Function.update place (r.founded model) h.models.length family = place family :=
    fun family hfamily => Function.update_of_ne (hr.ne_founded model hfamily) _ _
  have hmem : ∀ family, family ∈ (r.note (.new model)).families ↔
      family ∈ r.families ∨ family = r.founded model := by
    simp [Record.note]
  refine ⟨?_, ?_, ?_, ?_, ?_⟩
  · have hmap := List.map_congr_left hplace
    simp [step, Handles.new, Record.note, hr.owners_eq, hmap]
  · intro family hfamily
    change (h.models ++ [model])[_]? = some (r.tree family)
    rcases (hmem family).mp hfamily with hfamily | rfl
    · rw [hplace family hfamily, List.getElem?_append_left (hr.place_lt hfamily)]
      exact hr.model_eq family hfamily
    · rw [Function.update_self, hr.tree_founded]
      simp
  · intro family hfamily other hother heq
    rcases (hmem family).mp hfamily with hfamily | rfl <;>
      rcases (hmem other).mp hother with hother | rfl
    · rw [hplace family hfamily, hplace other hother] at heq
      exact hr.place_injective family hfamily other hother heq
    · rw [hplace family hfamily, Function.update_self] at heq
      exact absurd heq (Nat.ne_of_lt (hr.place_lt hfamily))
    · rw [hplace other hother, Function.update_self] at heq
      exact absurd heq.symm (Nat.ne_of_lt (hr.place_lt hother))
    · rfl
  · intro family hfamily
    have hlength : (r.note (.new model)).families.length = r.families.length + 1 := by
      simp [Record.note]
    rw [hlength]
    rcases (hmem family).mp hfamily with hfamily | rfl
    · exact Nat.lt_succ_of_lt (hr.founder_lt family hfamily)
    · exact Nat.lt_succ_self _
  · exact fun entry hentry => (hmem entry.1).mpr (.inl (hr.mem_of_log entry hentry))

/-- An access takes place in the family of its handle alone. -/
theorem access (hr : Mirrors place h r) (handle : Nat) (access : Access) :
    Mirrors place (h.update handle (access.apply ·)) (r.note (.access handle access)) := by
  cases hfamily : r.families[handle]? with
  | none =>
    have howner : h.owners[handle]? = none := by simp [hr.owners_eq, hfamily]
    have hsame : r.note (.access handle access) = r := by simp [Record.note, hfamily]
    rw [hsame]
    simpa [update, howner] using hr
  | some family =>
    have howner : h.owners[handle]? = some (place family) := by simp [hr.owners_eq, hfamily]
    have hmem := List.mem_of_getElem? hfamily
    simp only [update, howner]
    refine ⟨hr.owners_eq, ?_, hr.place_injective, hr.founder_lt, ?_⟩
    · intro other hother
      rw [Record.tree_note_access hfamily, List.getElem?_modify, hr.model_eq other hother]
      by_cases hsame : family = other
      · simp [hsame]
      · have hplace : place family ≠ place other :=
          fun heq => hsame (hr.place_injective family hmem other hother heq)
        simp [hsame, hplace]
    · intro entry hentry
      simp only [Record.note, hfamily, Option.map_some, Option.toList_some, List.mem_append,
        List.mem_singleton] at hentry
      rcases hentry with hold | rfl
      · exact hr.mem_of_log entry hold
      · exact hmem

end Mirrors

/-- A step answers as the record does, and both stay alike. -/
theorem step_mirrors {place : Family → Nat} {r : Record} (hr : Mirrors place h r) (s : Step) :
    ∃ place', Mirrors place' (h.step s).2 (r.note s.move) ∧
      (h.step s).1 = r.answer? s.move := by
  cases hs : s.move with
  | clone handle =>
    obtain rfl : s = .clone handle := by cases s <;> cases hs; rfl
    refine ⟨place, hr.clone handle, ?_⟩
    simp [step_clone, Record.answer?, hr.owners_eq, Function.comp_def]
  | new model =>
    obtain rfl : s = .new model := by cases s <;> cases hs; rfl
    refine ⟨_, hr.new model, ?_⟩
    simp [step, Handles.new, Record.answer?, hr.length_eq]
  | access handle access =>
    refine ⟨place, ?_, ?_⟩
    · rw [step_of_access hs]
      exact hr.access handle access
    · simp [step_of_access hs, Record.answer?, hr.model?_eq, Function.comp_def]

/-! ## Runs -/

/-- The handles after a run. -/
def after (h : Handles) (steps : List Step) : Handles :=
  steps.foldl (fun h s => (h.step s).2) h

theorem length_run (h : Handles) (steps : List Step) : (h.run steps).length = steps.length := by
  induction steps generalizing h with
  | nil => rfl
  | cons s rest ih => simp [run, ih]

theorem run_append (h : Handles) (steps rest : List Step) :
    h.run (steps ++ rest) = h.run steps ++ (h.after steps).run rest := by
  induction steps generalizing h with
  | nil => rfl
  | cons s steps ih => simp [run, after, ih]

/-- After each run the models are the trees of the families. -/
theorem exists_mirrors (start : Value) (steps : List Step) :
    ∃ place, Mirrors place ((init start).after steps) (Record.ofSteps start steps) := by
  induction steps using List.reverseRecOn with
  | nil => exact ⟨_, mirrors_init start⟩
  | append_singleton steps s ih =>
    obtain ⟨place, hr⟩ := ih
    obtain ⟨place', hr', -⟩ := step_mirrors hr s
    refine ⟨place', ?_⟩
    simpa [after, Record.ofSteps] using hr'

/-- In each run each step is answered from the tree of the family of its handle, that is from what
the accesses to this family made of it before, and the answers that were given stay as they are. A
step that is no access to a family does not change the model of its handles. -/
theorem families_share_one_tree (start : Value) (before : List Step) (s : Step)
    (rest : List Step) :
    ((init start).run (before ++ s :: rest))[before.length]? =
        some ((Record.ofSteps start before).answer? s.move) ∧
      (init start).run before <+: (init start).run (before ++ s :: rest) ∧
      ∀ other family, (Record.ofSteps start before).families[other]? = some family →
        (∀ handle access, s.move = .access handle access →
          (Record.ofSteps start before).families[handle]? ≠ some family) →
        ((init start).after (before ++ [s])).model? other =
          ((init start).after before).model? other := by
  obtain ⟨place, hr⟩ := exists_mirrors start before
  obtain ⟨place', hr', hanswer⟩ := step_mirrors hr s
  have hrun := run_append (init start) before (s :: rest)
  refine ⟨?_, ⟨_, hrun.symm⟩, ?_⟩
  · rw [hrun, List.getElem?_append_right (Nat.le_of_eq (length_run _ _)), length_run, Nat.sub_self]
    simp [run, hanswer]
  · intro other family hfamily hmove
    have hafter : (init start).after (before ++ [s]) = (((init start).after before).step s).2 := by
      simp [after]
    obtain ⟨hsame, htree⟩ := Record.note_of_no_access hmove hfamily
    rw [hafter, hr'.model?_eq, hr.model?_eq, hsame, hfamily, Option.map_some, Option.map_some,
      htree]

/-- A write through a host reaches the handle that was cloned, where it is read and written again,
and neither write reaches the handle that was made anew. -/
theorem families_share_one_tree_of_counter :
    let counter (n : Int) : Value := .obj [("count", .int n)]
    let before : List Step :=
      [.clone 0, .new (counter 7), .hostSet 1 "/count" (.int 2), .hostGet 0 "/count"]
    let steps := before ++ [.set 0 "/count" (.int 3), .snapshot 1]
    ((init (counter 1)).run steps)[4]? = some (some (.model (counter 3))) ∧
      [some (.handle 1), some (.handle 2), some (.model (counter 2)), some (.found (some (.int 2)))]
        <+: (init (counter 1)).run steps ∧
      ((init (counter 1)).after (before ++ [.set 0 "/count" (.int 3)])).model? 2 =
        some (counter 7) := by
  intro counter before steps
  obtain ⟨hanswer, hkept, hothers⟩ := families_share_one_tree (counter 1) before
    (.set 0 "/count" (.int 3)) [.snapshot 1]
  refine ⟨hanswer.trans (by decide), hkept, ?_⟩
  have hfamily : (Record.ofSteps (counter 1) before).families[2]? = some ⟨2, counter 7⟩ := by decide
  have hmodel : ((init (counter 1)).after before).model? 2 = some (counter 7) := by decide
  refine (hothers 2 _ hfamily ?_).trans hmodel
  intro handle access hmove
  cases hmove
  decide

end ScreenLogic.Handles
