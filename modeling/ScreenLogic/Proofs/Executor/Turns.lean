import ScreenLogic.Executor.Session
import ScreenLogic.Proofs.Executor.Story

/-!
# Sessions are runs

In a session tasks take turns, and commands come one after another. Whatever happens in it
happens in some run of a system, with the same events. So what holds of all runs holds of
sessions.

## Main definitions

* `Session.system`: a session without its order of turns.
* `Session.Evolves`: one session has become another, as in a run.

## Main statements

* `Session.evolves_perform`: each command makes a session evolve.
* `Session.exists_run_of_reachable`: all that a session comes to, a run comes to.
-/

namespace ScreenLogic

namespace Session

def system (s : Session) : System := ⟨s.state, s.tasks.map Prod.snd⟩

def keys (s : Session) : List String := s.tasks.map Prod.fst

/-- A session whose keys are distinct has become another by acts on its executor, in which
these events were seen. -/
structure Evolves (s : Session) (events : List Event) (t : Session) : Prop where
  executor : t.executor = s.executor
  keys : t.keys.Nodup
  run : ∃ acts, s.system.run s.executor acts = t.system ∧
    story (s.system.steps s.executor acts) = events

variable {s t u : Session} {events more : List Event}

theorem Evolves.trans (h : s.Evolves events t) (g : t.Evolves more u) :
    s.Evolves (events ++ more) u := by
  obtain ⟨hexecutor, -, acts, hrun, hstory⟩ := h
  obtain ⟨hexecutor', hkeys, acts', hrun', hstory'⟩ := g
  rw [hexecutor] at hrun' hstory'
  refine ⟨hexecutor'.trans hexecutor, hkeys, acts ++ acts', ?_, ?_⟩
  · rw [System.run_append, hrun, hrun']
  · rw [System.steps_append, story_append, hrun, hstory, hstory']

/-- A single act. -/
theorem Evolves.of_act (a : Act) (hexecutor : t.executor = s.executor) (hkeys : t.keys.Nodup)
    (h : s.system.perform s.executor a = (t.system, events)) : s.Evolves events t := by
  refine ⟨hexecutor, hkeys, [a], ?_, ?_⟩
  · exact congrArg Prod.fst h
  · change (s.system.perform s.executor a).2 ++ [] = events
    rw [h, List.append_nil]

/-! ## Turns -/

/-- Nothing has changed but whose turn it is, and what was counted. -/
structure Same (s t : Session) : Prop where
  executor : t.executor = s.executor
  state : t.state = s.state
  tasks : t.tasks = s.tasks

theorem Same.refl (s : Session) : s.Same s := ⟨rfl, rfl, rfl⟩

theorem Same.trans (h : s.Same t) (g : t.Same u) : s.Same u :=
  ⟨g.executor.trans h.executor, g.state.trans h.state, g.tasks.trans h.tasks⟩

theorem Same.system (h : s.Same t) : t.system = s.system := by
  rw [Session.system, h.state, h.tasks]
  rfl

theorem Same.evolves (h : s.Same t) (hkeys : s.keys.Nodup) : s.Evolves [] t := by
  refine ⟨h.executor, ?_, [], h.system.symm, rfl⟩
  rwa [Session.keys, h.tasks]

theorem Evolves.same (h : s.Evolves events t) (g : t.Same u) : s.Evolves events u := by
  simpa using h.trans (g.evolves h.keys)

theorem Same.trans_evolves (h : s.Same t) (g : t.Evolves events u) : s.Evolves events u := by
  obtain ⟨hexecutor, hkeys, acts, hrun, hstory⟩ := g
  rw [h.system, h.executor] at hrun hstory
  exact ⟨hexecutor.trans h.executor, hkeys, acts, hrun, hstory⟩

theorem same_wake (s : Session) (key : String) : s.Same (s.wake key) := by
  unfold wake
  split
  · exact .refl s
  · exact ⟨rfl, rfl, rfl⟩

theorem same_observe (s : Session) (e : Event) : s.Same (s.observe e) := by
  unfold observe
  split
  · exact ⟨rfl, rfl, rfl⟩
  · unfold wakeConfirming
    split
    · exact s.same_wake _
    · exact .refl s
  · exact .refl s

theorem same_observeAll (s : Session) (events : List Event) : s.Same (s.observeAll events) := by
  induction events generalizing s with
  | nil => exact .refl s
  | cons e events ih => exact (s.same_observe e).trans (ih _)

theorem same_foldl_wake (s : Session) (woken : List String) : s.Same (woken.foldl wake s) := by
  induction woken generalizing s with
  | nil => exact .refl s
  | cons key woken ih => exact (s.same_wake key).trans (ih _)

theorem same_noteRequest (s : Session) : s.Same s.noteRequest := by
  unfold noteRequest
  split
  · split
    · exact .refl s
    · exact ⟨rfl, rfl, rfl⟩
  · exact .refl s

/-! ## Tasks by their keys -/

/-- The task of a key has a place of its own among all tasks. -/
theorem exists_place {key : String} {task : Task} (hkeys : s.keys.Nodup)
    (h : (key, task) ∈ s.tasks) :
    ∃ i : Nat, s.system.tasks[i]? = some task ∧
      (∀ task', (s.replaceTask key task').system.tasks = s.system.tasks.set i task' ∧
        (s.replaceTask key task').keys = s.keys) ∧
      (s.dropTask key).system.tasks = s.system.tasks.eraseIdx i ∧
        (s.dropTask key).keys.Nodup := by
  obtain ⟨former, later, htasks⟩ := List.append_of_mem h
  rw [keys, htasks, List.map_append, List.map_cons, List.nodup_middle, List.nodup_cons,
    ← List.map_append] at hkeys
  obtain ⟨hkey, hrest⟩ := hkeys
  have hne : ∀ entry ∈ former ++ later, entry.1 ≠ key := by
    intro entry hentry heq
    exact hkey (List.mem_map.mpr ⟨entry, hentry, heq⟩)
  have hreplace : ∀ task', (s.replaceTask key task').tasks = former ++ (key, task') :: later := by
    intro task'
    have hfix : ∀ entry ∈ former ++ later,
        (if entry.1 = key then (key, task') else entry) = entry :=
      fun entry hentry => if_neg (hne entry hentry)
    rw [replaceTask, htasks, List.map_append, List.map_cons, if_pos rfl]
    rw [List.map_congr_left fun entry hentry => hfix entry (List.mem_append_left _ hentry),
      List.map_congr_left fun entry hentry => hfix entry (List.mem_append_right _ hentry),
      List.map_id', List.map_id']
  have hdrop : (s.dropTask key).tasks = former ++ later := by
    have hkeep : (former ++ later).filter (·.1 != key) = former ++ later :=
      List.filter_eq_self.mpr fun entry hentry => bne_iff_ne.mpr (hne entry hentry)
    rw [List.filter_append] at hkeep
    rw [dropTask, htasks, List.filter_append, List.filter_cons_of_neg (by simp), hkeep]
  refine ⟨(former.map Prod.snd).length, ?_, ?_, ?_, ?_⟩
  · simp [system, htasks]
  · intro task'
    simp [system, keys, hreplace, htasks]
  · simp [system, hdrop, htasks, List.eraseIdx_append_of_length_le]
  · rwa [keys, hdrop]

/-- A task moves on in its own place. -/
theorem evolves_replaceTask {key : String} {task : Task} (hkeys : s.keys.Nodup)
    (h : (key, task) ∈ s.tasks) (move : Move) (a : Nat → Act)
    (ha : ∀ i, s.system.tasks[i]? = some task →
      s.system.perform s.executor (a i) = s.system.follow i (some move)) :
    s.Evolves move.events ({ s with state := move.state }.replaceTask key move.task) := by
  obtain ⟨i, hi, hreplace, -⟩ := exists_place hkeys h
  obtain ⟨htasks, hkeys'⟩ := hreplace move.task
  refine .of_act (a i) rfl (hkeys' ▸ hkeys) ((ha i hi).trans ?_)
  rw [System.follow, ← htasks]
  rfl

theorem evolves_dropTask {key : String} {task : Task} (hkeys : s.keys.Nodup)
    (h : (key, task) ∈ s.tasks) :
    s.Evolves (task.abandon s.state).2
      { s.dropTask key with state := (task.abandon s.state).1 } := by
  obtain ⟨i, hi, -, htasks, hkeys'⟩ := exists_place hkeys h
  refine .of_act (.drop i) rfl hkeys' ?_
  simp only [System.perform, hi]
  rw [← htasks]
  rfl

theorem mem_of_lookup {key : String} {task : Task} (h : s.tasks.lookup key = some task) :
    (key, task) ∈ s.tasks := by
  obtain ⟨former, later, htasks, -⟩ := List.lookup_eq_some_iff.mp h
  rw [htasks]
  exact List.mem_append_right _ (List.mem_cons_self ..)

/-! ## Commands -/

/-- While tasks take turns they make steps, and those that have ended are dropped. -/
theorem evolves_settle (fuel : Nat) (s : Session) (hkeys : s.keys.Nodup) :
    s.Evolves (settle fuel s).2.events (settle fuel s).1 := by
  induction fuel generalizing s with
  | zero => exact (Same.refl s).evolves hkeys
  | succ fuel ih =>
    have hskip : ∀ rest, s.Evolves (settle fuel { s with ready := rest }).2.events
        (settle fuel { s with ready := rest }).1 := by
      intro rest
      have hsame : s.Same { s with ready := rest } := ⟨rfl, rfl, rfl⟩
      exact hsame.trans_evolves (ih { s with ready := rest } hkeys)
    simp only [settle]
    split
    · exact (Same.refl s).evolves hkeys
    split
    · exact hskip _
    rename_i key rest _ task htask
    have hmem := mem_of_lookup htask
    split
    · rename_i move hmove
      have hfirst := evolves_replaceTask hkeys hmem move .move fun i hi => by
        rw [System.perform, hi, Option.bind_some]
        exact congrArg _ hmove
      have hmoved := hfirst.same (same_observeAll _ move.events)
      exact hmoved.trans (ih _ hmoved.keys)
    split
    · rename_i result hresult
      have hdropped := evolves_dropTask hkeys hmem
      rw [Task.abandon_of_result? (Option.isSome_of_eq_some hresult)] at hdropped
      exact hdropped.trans (ih _ hdropped.keys)
    · exact hskip _

theorem evolves_answer (hkeys : s.keys.Nodup) (id : Option InvocationId) (accepted : Bool) :
    s.Evolves (s.answer id accepted).2.2.events (s.answer id accepted).2.1 := by
  have hanswered : s.Evolves (s.state.answer id accepted).2.2
      { s with state := (s.state.answer id accepted).2.1 } :=
    .of_act (.answer id accepted) rfl hkeys rfl
  exact hanswered.same (same_observeAll _ _)

theorem exists_unpark?_of_release? (state : State) {task task' : Task} {id : InvocationId}
    {error : Option String} (h : task.release? id error = some task') :
    ∃ program, task.unpark? state program = some ⟨state, task', []⟩ := by
  unfold Task.release? at h
  split at h
  · rename_i next hfocus
    split at h
    · obtain rfl := Option.some.inj h
      refine ⟨(error.map Program.fail).getD next, ?_⟩
      simp only [Task.unpark?, hfocus]
      cases error <;> rfl
    · cases h
  · cases h

theorem evolves_release (hkeys : s.keys.Nodup) (id : InvocationId) (error : Option String) :
    s.Evolves [] (s.release id error).2 := by
  unfold release
  split
  · rename_i key task hfind
    split
    · rename_i task' htask'
      obtain ⟨program, hprogram⟩ := exists_unpark?_of_release? s.state htask'
      have hmoved := evolves_replaceTask hkeys (List.mem_of_find?_eq_some hfind)
        ⟨s.state, task', []⟩ (.release · program) fun i hi => by
          rw [System.perform, hi, Option.bind_some]
          exact congrArg _ hprogram
      exact hmoved.same (same_wake _ key)
    · exact (Same.refl s).evolves hkeys
  · exact (Same.refl s).evolves hkeys

theorem evolves_abort (hkeys : s.keys.Nodup) (key : String) :
    s.Evolves (s.abort key).2.2.events (s.abort key).2.1 := by
  unfold abort
  split
  · rename_i task htask
    exact evolves_dropTask hkeys (mem_of_lookup htask)
  · exact (Same.refl s).evolves hkeys

theorem evolves_tick (hkeys : s.keys.Nodup) : s.Evolves s.tick.2.events s.tick.1 := by
  let later : Session := { s with state := { s.state with clock := s.state.clock + 1 } }
  have hlater : s.Evolves [] later := .of_act (.elapse 1) rfl hkeys rfl
  have hwoken := hlater.same (later.same_foldl_wake later.dueKeys)
  exact hwoken.trans (evolves_settle patience _ hwoken.keys)

theorem evolves_advance (ms : Nat) (s : Session) (hkeys : s.keys.Nodup) :
    s.Evolves (advance ms s).2.events (advance ms s).1 := by
  induction ms generalizing s with
  | zero => exact evolves_settle patience s hkeys
  | succ ms ih =>
    have hticked := evolves_tick hkeys
    exact hticked.trans (ih _ hticked.keys)

/-- The key of a task that is started is not in use. -/
def fresh (s : Session) : Command → Prop
  | .start key _ | .startNamed key _ => key ∉ s.keys
  | _ => True

theorem evolves_start (hkeys : s.keys.Nodup) {key : String} (hkey : key ∉ s.keys)
    (action : Action) : s.Evolves [] (s.start key action) := by
  have hstarted : s.Evolves [] { s with tasks := s.tasks ++ [(key, Task.ofAction action)] } := by
    refine .of_act (.start action) rfl ?_ ?_
    · rw [keys, List.map_append]
      exact List.nodup_append_comm.mp (List.nodup_cons.mpr ⟨hkey, hkeys⟩)
    · simp [System.perform, system]
  exact hstarted.same (same_wake _ key)

theorem evolves_dispatch (hkeys : s.keys.Nodup) {command : Command} (hfresh : s.fresh command) :
    s.Evolves (s.dispatch command).2.2.events (s.dispatch command).2.1 := by
  have hstay := (Same.refl s).evolves hkeys
  cases command with
  | start key action => exact evolves_start hkeys hfresh action
  | startNamed key name => exact evolves_start hkeys hfresh _
  | answer accepted => exact evolves_answer hkeys none accepted
  | respond request accepted =>
    simp only [dispatch]
    split
    · exact evolves_answer hkeys _ accepted
    · exact hstay
  | release call error =>
    simp only [dispatch]
    split
    · exact evolves_release hkeys _ error
    · exact hstay
  | abort key => exact evolves_abort hkeys key
  | advance ms => exact evolves_advance ms s hkeys
  | set path value =>
    exact .of_act (.change (Model.set s.state.model path value)) rfl hkeys rfl
  | get | isLoading | pass => exact hstay

/-- Each command is a number of acts, and so are the turns that follow it. -/
theorem evolves_perform (hkeys : s.keys.Nodup) {command : Command} (hfresh : s.fresh command) :
    s.Evolves (s.perform command).2.2.events (s.perform command).2.1 := by
  have hdispatched := evolves_dispatch hkeys hfresh
  unfold perform
  generalize patience = fuel
  exact (hdispatched.trans (evolves_settle fuel _ hdispatched.keys)).same (same_noteRequest _)

/-- What commands may lead to from the beginning, if no key is used twice at a time. -/
inductive Reachable (ex : Executor) (model : Value) : Session → Prop
  | init : Reachable ex model (init ex model)
  | perform {s : Session} {command : Command} : Reachable ex model s → s.fresh command →
      Reachable ex model (s.perform command).2.1

/-- All that a session comes to, a run comes to. -/
theorem exists_run_of_reachable {ex : Executor} {model : Value} {s : Session}
    (h : Reachable ex model s) : ∃ acts, (System.init model).run ex acts = s.system := by
  suffices hall : s.executor = ex ∧ s.keys.Nodup ∧
      ∃ acts, (System.init model).run ex acts = s.system from hall.2.2
  induction h with
  | init => exact ⟨rfl, List.nodup_nil, [], rfl⟩
  | perform _ hfresh ih =>
    obtain ⟨rfl, hkeys, acts, hrun⟩ := ih
    obtain ⟨hexecutor, hkeys', more, hmore, -⟩ := evolves_perform hkeys hfresh
    refine ⟨hexecutor, hkeys', acts ++ more, ?_⟩
    rw [System.run_append, hrun, hmore]

end Session

end ScreenLogic
