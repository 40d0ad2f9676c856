import ScreenLogic.Proofs.Executor.Outline

/-!
# Executions

An action is executed by a task that is started for it, at any time of a run that goes on
for ever, and that is never dropped. Other tasks come and go around it. Its own moves tell
how far its chain has come, whatever the others do in between.

## Main definitions

* `Execution`: the execution of an action among all that happens on an executor.
* `Execution.doings`: what it has done along its chain so far.

## Main statements

* `Execution.progress`: at all times the chain has come as far as the task shows.
* `Execution.exists_chain`: what has ended was a whole chain.
-/

namespace ScreenLogic

/-! ## One task among others -/

namespace Act

/-- Where a task is after an act. When one before it is dropped it moves up. -/
def shift (place : Nat) : Act → Nat
  | .drop i => if i < place then place - 1 else place
  | _ => place

/-- Where a task is in the course of acts. -/
def place (acts : ℕ → Act) (first : Nat) : ℕ → Nat
  | 0 => first
  | n + 1 => (acts n).shift (place acts first n)

/-- How an act moves the task at a place, if it does. -/
def move? (ex : Executor) (s : State) (t : Task) (place : Nat) : Act → Option Move
  | .move i => if i = place then t.step ex s else none
  | .release i program => if i = place then t.unpark? s program else none
  | .interrupt i frames program => if i = place then t.interrupt? s frames program else none
  | _ => none

/-- A task that has ended moves no more. -/
theorem move?_of_result? {ex : Executor} {s : State} {t : Task} (h : t.result?.isSome)
    (place : Nat) (a : Act) : a.move? ex s t place = none := by
  obtain ⟨focus, stack⟩ := t
  cases focus with
  | leaving result =>
    cases stack with
    | nil =>
      cases a with
      | move | release => exact ite_self none
      | interrupt i frames =>
        rw [move?, Task.interrupt?, List.drop_nil]
        exact ite_self none
      | start | answer | drop | elapse | change => rfl
    | cons => cases h
  | entering | confirming | handling => cases h

end Act

namespace System

variable (ex : Executor) {y : System} {i : Nat} {t : Task}

theorem length_follow (y : System) (j : Nat) (move? : Option Move) :
    (y.follow j move?).1.tasks.length = y.tasks.length := by
  cases move? with
  | none => rfl
  | some move => exact List.length_set

theorem getElem?_follow (hi : y.tasks[i]? = some t) (j : Nat) (move? : Task → Option Move) :
    (y.follow j ((y.tasks[j]?).bind move?)).1.tasks[i]? =
      some ((if j = i then move? t else none).elim t Move.task) := by
  obtain ⟨hlt, -⟩ := List.getElem?_eq_some_iff.mp hi
  by_cases hij : j = i
  · subst hij
    rw [if_pos rfl, hi, Option.bind_some]
    cases move? t with
    | none => exact hi
    | some move => exact List.getElem?_set_self hlt
  · rw [if_neg hij]
    cases (y.tasks[j]?).bind move? with
    | none => exact hi
    | some move => exact (List.getElem?_set_ne hij).trans hi

/-- A task stays as it is unless an act moves it. -/
theorem getElem?_step (hi : y.tasks[i]? = some t) {a : Act} (ha : a ≠ .drop i) :
    (y.step ex a).after.tasks[a.shift i]? =
      some ((a.move? ex y.state t i).elim t Move.task) := by
  obtain ⟨hlt, -⟩ := List.getElem?_eq_some_iff.mp hi
  cases a with
  | start action => exact (List.getElem?_append_left hlt).trans hi
  | answer | elapse | change => exact hi
  | move j => exact getElem?_follow hi j _
  | release j program => exact getElem?_follow hi j _
  | interrupt j frames program => exact getElem?_follow hi j _
  | drop j =>
    have hij : j ≠ i := fun h => ha (congrArg Act.drop h)
    simp only [step, perform, Act.shift, Act.move?]
    cases hj : y.tasks[j]? with
    | none =>
      have hle := List.getElem?_eq_none_iff.mp hj
      rw [if_neg (by omega)]
      exact hi
    | some u =>
      dsimp only
      rw [List.getElem?_eraseIdx]
      by_cases hji : j < i
      · rw [if_pos hji, if_neg (by omega), Nat.sub_add_cancel (by omega)]
        exact hi
      · rw [if_neg hji, if_pos (by omega)]
        exact hi

/-- What is seen of an act that moves a task is what is seen of the move. -/
theorem events_of_move? (hi : y.tasks[i]? = some t) {a : Act} {move : Move}
    (h : a.move? ex y.state t i = some move) : (y.step ex a).events = move.events := by
  have hfollow : ∀ (j : Nat) (move? : Task → Option Move),
      (if j = i then move? t else none) = some move →
      (y.follow j ((y.tasks[j]?).bind move?)).2 = move.events := by
    intro j move? hmove
    split at hmove
    · rename_i hij
      rw [hij, hi, Option.bind_some, hmove]
      rfl
    · cases hmove
  cases a with
  | start | answer | drop | elapse | change => cases h
  | move j => exact hfollow j (Task.step ex y.state) h
  | release j program => exact hfollow j (Task.unpark? y.state · program) h
  | interrupt j frames program => exact hfollow j (Task.interrupt? y.state · frames program) h

end System

/-! ## Executions -/

/-- An action is executed in the midst of other acts, and its task is never dropped. -/
structure Execution (ex : Executor) (action : Action) where
  model : Value
  before : List Act
  acts : ℕ → Act
  kept : ∀ n, acts n ≠ .drop (Act.place acts ((System.init model).run ex before).tasks.length n)

namespace Execution

variable {ex : Executor} {action : Action} (e : Execution ex action)

/-- The system when the task was just started. -/
def start : System := (System.init e.model).run ex (e.before ++ [.start action])

def upTo (n : ℕ) : List Act := (List.range n).map e.acts

def system (n : ℕ) : System := e.start.run ex (e.upTo n)

/-- The place of the task among all tasks. -/
def place (n : ℕ) : Nat :=
  Act.place e.acts ((System.init e.model).run ex e.before).tasks.length n

def task (n : ℕ) : Task := ((e.system n).tasks[e.place n]?).getD (Task.ofAction action)

def outline (n : ℕ) : Outline := (e.task n).outline

/-- All that is seen on the executor from the start. -/
def story (n : ℕ) : List Event := ScreenLogic.story (e.start.steps ex (e.upTo n))

/-- The move of the task in an act. -/
def moment? (n : ℕ) : Option Moment :=
  ((e.acts n).move? ex (e.system n).state (e.task n) (e.place n)).map
    (Moment.mk (e.system n).state (e.task n))

/-- The moves of the task so far, but for those inside of a handler on its chain. -/
def past (n : ℕ) : List Moment := ((List.range n).filterMap e.moment?).filter fun m => !m.inside

/-- What was done along the chain so far. -/
def doings (n : ℕ) : List Event := (e.past n).flatMap Moment.doings

theorem system_succ (n : ℕ) : e.system (n + 1) = ((e.system n).step ex (e.acts n)).after := by
  rw [system, upTo, List.range_succ, List.map_append, System.run_append]
  rfl

theorem story_succ (n : ℕ) :
    e.story (n + 1) = e.story n ++ ((e.system n).step ex (e.acts n)).events := by
  rw [story, upTo, List.range_succ, List.map_append, System.steps_append, story_append]
  exact congrArg (_ ++ ·) (story_singleton _)

theorem past_succ (n : ℕ) :
    e.past (n + 1) = e.past n ++ (e.moment? n).toList.filter fun m => !m.inside := by
  rw [past, List.range_succ, List.filterMap_append, List.filter_append]
  rfl

theorem past_subset_succ (n : ℕ) : e.past n ⊆ e.past (n + 1) := by
  rw [past_succ]
  exact List.subset_append_left _ _

theorem doings_succ (n : ℕ) :
    e.doings (n + 1) = e.doings n ++ (e.moment? n).elim [] Moment.doings := by
  rw [doings, past_succ, List.flatMap_append]
  congr 1
  cases e.moment? n with
  | none => rfl
  | some m => cases hinside : m.inside <;> simp [hinside, Moment.doings]

/-- The shared state agrees with those who live, at all times. -/
theorem sound (n : ℕ) : (e.system n).ledger.Sound := by
  rw [system, start, ← System.run_append]
  exact System.sound_run ex e.model _

theorem getElem?_place (n : ℕ) : (e.system n).tasks[e.place n]? = some (e.task n) := by
  suffices h : ((e.system n).tasks[e.place n]?).isSome by
    obtain ⟨t, ht⟩ := Option.isSome_iff_exists.mp h
    rw [task, ht]
    rfl
  induction n with
  | zero =>
    have hstart : (e.system 0).tasks =
        ((System.init e.model).run ex e.before).tasks ++ [Task.ofAction action] := by
      rw [system, start, System.run_append]
      rfl
    rw [hstart, show e.place 0 = ((System.init e.model).run ex e.before).tasks.length from rfl,
      List.getElem?_concat_length]
    rfl
  | succ n ih =>
    obtain ⟨t, ht⟩ := Option.isSome_iff_exists.mp ih
    rw [system_succ, show e.place (n + 1) = (e.acts n).shift (e.place n) from rfl,
      System.getElem?_step ex ht (e.kept n)]
    rfl

theorem task_zero : e.task 0 = Task.ofAction action := by
  have hplace := e.getElem?_place 0
  rw [system, start, System.run_append] at hplace
  exact Option.some.inj (hplace.symm.trans List.getElem?_concat_length)

theorem task_succ (n : ℕ) :
    e.task (n + 1) = (e.moment? n).elim (e.task n) fun m => m.move.task := by
  have hplace := System.getElem?_step ex (e.getElem?_place n) (e.kept n)
  rw [← system_succ] at hplace
  refine (Option.some.inj ((e.getElem?_place (n + 1)).symm.trans hplace)).trans ?_
  rw [moment?]
  cases (e.acts n).move? ex (e.system n).state (e.task n) (e.place n) <;> rfl

/-- What moves the task is one of its moves at that time. -/
theorem moment?_eq_some {n : ℕ} {m : Moment} (h : e.moment? n = some m) :
    m.state = (e.system n).state ∧ m.task = e.task n ∧ m.move.task = e.task (n + 1) ∧
      m.Possible ex := by
  have hmove := task_succ e n
  rw [h, Option.elim_some] at hmove
  obtain ⟨move, hmove?, rfl⟩ := Option.map_eq_some_iff.mp h
  refine ⟨rfl, rfl, hmove.symm, ?_⟩
  cases ha : e.acts n with
  | move i =>
    rw [ha, Act.move?] at hmove?
    split at hmove?
    · exact .step hmove?
    · cases hmove?
  | release i program =>
    rw [ha, Act.move?] at hmove?
    split at hmove?
    · exact .unpark program hmove?
    · cases hmove?
  | interrupt i frames program =>
    rw [ha, Act.move?] at hmove?
    split at hmove?
    · exact .interrupt frames program hmove?
    · cases hmove?
  | start | answer | drop | elapse | change =>
    rw [ha] at hmove?
    cases hmove?

theorem doings_prefix_succ (n : ℕ) : e.doings n <+: e.doings (n + 1) := by
  rw [doings_succ]
  exact List.prefix_append _ _

theorem doings_prefix {n k : ℕ} (h : n ≤ k) : e.doings n <+: e.doings k := by
  induction k, h using Nat.le_induction with
  | base => exact List.prefix_refl _
  | succ k _ ih => exact ih.trans (e.doings_prefix_succ k)

/-- What has ended stays as it is. -/
theorem eq_of_result? {n k : ℕ} (hnk : n ≤ k) (h : (e.task n).result?.isSome) :
    e.task k = e.task n ∧ e.doings k = e.doings n := by
  induction k, hnk using Nat.le_induction with
  | base => exact ⟨rfl, rfl⟩
  | succ k _ ih =>
    obtain ⟨htask, hdoings⟩ := ih
    have hmoment : e.moment? k = none := by
      rw [moment?, Act.move?_of_result? (htask ▸ h)]
      rfl
    rw [task_succ, doings_succ, hmoment, ← htask, ← hdoings]
    exact ⟨rfl, List.append_nil _⟩

/-- All that is done along the chain is seen. -/
theorem doings_sublist (n : ℕ) : (e.doings n).Sublist (e.story n) := by
  induction n with
  | zero => exact List.nil_sublist _
  | succ n ih =>
    rw [doings_succ, story_succ]
    refine ih.append ?_
    cases h : e.moment? n with
    | none => exact List.nil_sublist _
    | some m =>
      obtain ⟨move, hmove, rfl⟩ := Option.map_eq_some_iff.mp h
      rw [System.events_of_move? ex (e.getElem?_place n) hmove, Option.elim_some, Moment.doings]
      split
      · exact List.nil_sublist _
      · exact List.filter_sublist

/-- No handler is called twice for an invocation. -/
theorem nodup_calls (n : ℕ) : (calls (e.doings n)).Nodup := by
  have honce := (System.called_run ex e.model (e.before ++ [.start action] ++ e.upTo n)).once
  rw [System.steps_append, story_append, calls_append] at honce
  exact ((e.doings_sublist n).filterMap _).nodup (List.nodup_append.mp honce).2.1

/-- In an act nothing happens to the chain, or the task makes a step along it. -/
theorem step_cases (n : ℕ) :
    (e.outline (n + 1) = e.outline n ∧ e.doings (n + 1) = e.doings n) ∨
    ∃ m ∈ e.past (n + 1), ∃ more, Turn ex m more (e.outline n) (e.outline (n + 1)) ∧
      e.doings (n + 1) = e.doings n ++ more := by
  cases h : e.moment? n with
  | none =>
    left
    rw [outline, task_succ, doings_succ, h]
    exact ⟨rfl, List.append_nil _⟩
  | some m =>
    obtain ⟨-, htask, hmove, hpossible⟩ := e.moment?_eq_some h
    rw [doings_succ, outline, outline, ← htask, ← hmove, h, Option.elim_some]
    obtain hsilent | hadvances := Moment.turn_of_possible hpossible
    · left
      rw [hsilent.outline, hsilent.doings]
      exact ⟨rfl, List.append_nil _⟩
    · refine .inr ⟨m, ?_, m.doings, hadvances.turn, rfl⟩
      rw [past_succ, h]
      exact List.mem_append_right _ (by simp [hadvances.outside])

/-- At all times the chain has come as far as the task shows, and has done what was seen. -/
theorem progress (n : ℕ) : Progress ex (e.past n) action (e.outline n) (e.doings n) := by
  induction n with
  | zero =>
    rw [outline, task_zero]
    exact .entering .first
  | succ n ih =>
    have hold := ih.mono (e.past_subset_succ n)
    obtain ⟨houtline, hdoings⟩ | ⟨m, hm, more, hturn, hdoings⟩ := e.step_cases n
    · rwa [houtline, hdoings]
    · rw [hdoings]
      exact hold.turn hm hturn

/-- What has ended was a whole chain. -/
theorem exists_chain {n : ℕ} {result : ActionResult}
    (h : (e.task n).result? = some result) :
    ∃ c : Chain, c.Ran ex (e.past n) action ∧ e.doings n = c.doings ex ∧ result = c.result := by
  have houtline : e.outline n = ⟨.leaving result, []⟩ := by
    unfold Task.result? at h
    split at h
    · rename_i hfocus hstack
      rw [outline, Task.outline, hfocus, hstack, Option.some.inj h]
      rfl
    · cases h
  have hprogress := e.progress n
  rw [houtline] at hprogress
  generalize hdone : e.doings n = done at hprogress
  cases hprogress with
  | leaving hran hunwind => exact ⟨_, hran, rfl, hunwind⟩

/-! ### On its own -/

/-- An action is executed on a new executor, and its task gets one turn after another. -/
def solo (ex : Executor) (action : Action) (model : Value) : Execution ex action :=
  ⟨model, [], fun _ => .move 0, fun _ h => by cases h⟩

theorem place_solo (model : Value) (n : ℕ) : (solo ex action model).place n = 0 := by
  induction n with
  | zero => rfl
  | succ n ih => exact ih

theorem tasks_solo (model : Value) (n : ℕ) :
    ((solo ex action model).system n).tasks = [(solo ex action model).task n] := by
  have hlength : ((solo ex action model).system n).tasks.length = 1 := by
    induction n with
    | zero => rfl
    | succ n ih =>
      rw [system_succ]
      change (System.follow _ 0 _).1.tasks.length = 1
      rw [System.length_follow, ih]
  obtain ⟨t, ht⟩ := List.length_eq_one_iff.mp hlength
  have hplace := (solo ex action model).getElem?_place n
  rw [place_solo, ht] at hplace
  rw [ht, Option.some.inj hplace]

end Execution

end ScreenLogic
