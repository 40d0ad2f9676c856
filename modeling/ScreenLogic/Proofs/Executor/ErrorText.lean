import ScreenLogic.Proofs.Executor.Lockstep
import ScreenLogic.Proofs.Executor.Meaning
import ScreenLogic.Proofs.Executor.Snapshot

/-!
# Where the text of an error can go

A handler that fails has a text to tell. Two executions that differ in that text only call
the same handlers with the same parameters, open the same page and write at the same paths.
What they write is the same too, unless the handler that has failed ends its chain with a
`set` effect of its own. Then the text stands for the values that are the sentinel, and for
no others.

## Main definitions

* `Execution.Twin`: two executions that differ in the text of an error only.

## Main statements

* `Execution.lockstep`: twins do the same on their way, and end in the same way.
* `Execution.error_text_confined`: what the text may change.
-/

namespace ScreenLogic

/-! ## Nobody else -/

/-- What becomes of the shared state in an act in which no task moves and none is dropped. -/
def Act.ambient (s : State) : Act → State
  | .answer id accepted => (s.answer id accepted).2.1
  | .elapse ms => { s with clock := s.clock + ms }
  | .change model => { s with model := model }
  | _ => s

theorem Act.Like.ambient_eq {text text' : String} {a a' : Act} (h : a.Like text text' a')
    (s : State) : a.ambient s = a'.ambient s := by
  cases h <;> rfl

theorem Act.Like.shift_eq {text text' : String} {a a' : Act} (h : a.Like text text' a')
    (place : Nat) : a.shift place = a'.shift place := by
  cases h <;> rfl

namespace System

/-- Where all others have ended, the shared state changes by the task that is left. -/
theorem state_step (ex : Executor) {y : System} {i : Nat} {t : Task} (hi : y.tasks[i]? = some t)
    (hothers : ∀ j u, j ≠ i → y.tasks[j]? = some u → u.result?.isSome) {a : Act}
    (ha : a ≠ .drop i) :
    (y.step ex a).after.state = (a.move? ex y.state t i).elim (a.ambient y.state) Move.state := by
  have hfollow : ∀ (j : Nat) (move? : Task → Option Move),
      (∀ k u, a.move? ex y.state u k = if j = k then move? u else none) →
      (y.follow j ((y.tasks[j]?).bind move?)).1.state =
        (a.move? ex y.state t i).elim y.state Move.state := by
    intro j move? hmove?
    rw [hmove?]
    by_cases hji : j = i
    · subst hji
      rw [if_pos rfl, hi, Option.bind_some]
      cases move? t <;> rfl
    · rw [if_neg hji]
      cases hj : y.tasks[j]? with
      | none => rfl
      | some u =>
        have hnone := hmove? j u
        rw [if_pos rfl, Act.move?_of_result? (hothers j u hji hj)] at hnone
        rw [Option.bind_some, ← hnone]
        rfl
  cases a with
  | start | answer | elapse | change => rfl
  | move j => exact hfollow j _ fun _ _ => rfl
  | release j program => exact hfollow j _ fun _ _ => rfl
  | interrupt j frames program => exact hfollow j _ fun _ _ => rfl
  | drop j =>
    have hji : j ≠ i := fun h => ha (congrArg Act.drop h)
    simp only [step, perform]
    cases hj : y.tasks[j]? with
    | none => rfl
    | some u => exact congrArg Prod.fst (Task.abandon_of_result? (hothers j u hji hj) y.state)

end System

theorem Task.phase_of_not_inside {t : Task} (h : t.inside = false) :
    t.outline.phase = t.focus.phase := by
  obtain ⟨waiting, -, hwaiting⟩ := Outline.foldl_around_of_chained h
  rw [outline, hwaiting]

/-! ## Twins -/

namespace Execution

variable {text text' : String} {ex ex' : Executor} {action : Action}

section Alone

variable {e : Execution ex action} (h : e.Alone)
include h

/-- An execution that is alone goes on by the moves of its task, and waits in between. -/
theorem Alone.succ (n : ℕ) {move? : Option Move}
    (hmove : (e.acts n).move? ex (e.system n).state (e.task n) (e.place n) = move?) :
    (e.system (n + 1)).state = move?.elim ((e.acts n).ambient (e.system n).state) Move.state ∧
      e.task (n + 1) = move?.elim (e.task n) Move.task ∧
      e.doings (n + 1) =
        e.doings n ++ move?.elim [] fun move => move.events.filter Event.isDoing := by
  have hmoment : e.moment? n = move?.map (Moment.mk (e.system n).state (e.task n)) :=
    congrArg (Option.map _) hmove
  have hothers : ∀ j u, j ≠ e.place n → (e.system n).tasks[j]? = some u → u.result?.isSome :=
    h.others n
  refine ⟨?_, ?_, ?_⟩
  · rw [e.system_succ, System.state_step ex (e.getElem?_place n) hothers (e.kept n), hmove]
  · rw [e.task_succ, hmoment]
    cases move? <;> rfl
  · rw [e.doings_succ, hmoment]
    cases move? with
    | none => rfl
    | some move =>
      rw [Option.map_some, Option.elim_some, Option.elim_some, Moment.doings, Moment.inside,
        h.outside n, Bool.false_and, if_neg Bool.false_ne_true]

theorem Alone.phase_eq (n : ℕ) : (e.outline n).phase = (e.task n).focus.phase :=
  Task.phase_of_not_inside (h.outside n)

theorem Alone.doings_of_leaves {n k : ℕ} (hk : k ≤ n) (hleaves : (e.task k).Leaves) :
    e.doings n = e.doings k := by
  obtain ⟨result, hresult⟩ := hleaves
  refine e.doings_of_leaving hk ⟨result, ?_⟩
  rw [h.phase_eq, hresult]
  rfl

end Alone

theorem past_subset (e : Execution ex action) {k n : ℕ} (h : k ≤ n) : e.past k ⊆ e.past n := by
  induction n, h using Nat.le_induction with
  | base => exact List.Subset.refl _
  | succ n _ ih => exact List.Subset.trans ih (e.past_subset_succ n)

theorem exists_ran (e : Execution ex action) {n : ℕ} {inv : Invocation}
    (h : (e.outline n).phase = .handling inv) : ∃ act depth, inv.Ran ex (e.past n) act depth := by
  have hprogress := e.progress n
  generalize e.outline n = o, e.doings n = done at h hprogress
  cases hprogress with
  | handling _ hran =>
    obtain rfl := Phase.handling.inj h
    exact ⟨_, _, hran⟩
  | entering | confirming | leaving => cases h

/-- Two executions of an action with nothing else in flight, on executors whose handlers differ
in the text of an error only. -/
structure Twin (text text' : String) (e : Execution ex action) (e' : Execution ex' action) :
    Prop where
  executor : ex.Like text text' ex'
  state : (e.system 0).state = (e'.system 0).state
  place : e.place 0 = e'.place 0
  acts : ∀ n, (e.acts n).Like text text' (e'.acts n)
  alone : e.Alone
  alone' : e'.Alone

/-- What two executions have done that are at the same point, or that have ended in the same
way with an invocation that ran. -/
inductive Paired (text text' : String) (ex ex' : Executor) (past : List Moment) :
    List Event → List Event → Prop where
  | going {done done' : List Event} : List.Forall₂ (Event.Like text text') done done' →
      Paired text text' ex ex' past done done'
  | closed {done done' : List Event} {link link' : Link} (model : Value) :
      List.Forall₂ (Event.Like text text') done done' → link.Like text text' link' →
      (∃ act depth, link.inv.Ran ex past act depth) →
      Paired text text' ex ex' past
        (done ++ .settled link.inv.id link.result :: link.closing ex model)
        (done' ++ .settled link'.inv.id link'.result :: link'.closing ex' model)

theorem Paired.mono {past more : List Moment} {done done' : List Event}
    (h : Paired text text' ex ex' past done done') (hsub : past ⊆ more) :
    Paired text text' ex ex' more done done' := by
  cases h with
  | going hdone => exact .going hdone
  | closed model hdone hlink hran =>
    obtain ⟨act, depth, hran⟩ := hran
    exact .closed model hdone hlink ⟨act, depth, hran.mono hsub⟩

/-- Two executions go along their chains side by side, or have come to the end of them. -/
inductive Abreast (text text' : String) (e : Execution ex action) (e' : Execution ex' action)
    (n : ℕ) : Prop where
  | going : (e.system n).state = (e'.system n).state →
      (e.task n).focus.Like text text' (e'.task n).focus →
      List.Forall₂ (Event.Like text text') (e.doings n) (e'.doings n) → Abreast text text' e e' n
  | ended {k : ℕ} : k ≤ n → (e.task k).Leaves → (e'.task k).Leaves →
      Paired text text' ex ex' (e.past k) (e.doings k) (e'.doings k) → Abreast text text' e e' n

namespace Twin

variable {e : Execution ex action} {e' : Execution ex' action} (h : e.Twin text text' e')
include h

theorem place_eq (n : ℕ) : e.place n = e'.place n := by
  induction n with
  | zero => exact h.place
  | succ n ih =>
    change (e.acts n).shift (e.place n) = (e'.acts n).shift (e'.place n)
    rw [ih, (h.acts n).shift_eq]

/-- In each act both go on alike. -/
theorem abreast_succ {n : ℕ} (hn : Abreast text text' e e' n) :
    Abreast text text' e e' (n + 1) := by
  cases hn with
  | ended hk hleaves hleaves' hpaired =>
    exact .ended (Nat.le_succ_of_le hk) hleaves hleaves' hpaired
  | going hstate hfocus hdone =>
    have halike := Act.move?_like h.executor (s := (e.system n).state) hfocus
      (h.alone.outside n) (h.alone'.outside n) (h.acts n) (e.place n)
    cases hmove : (e.acts n).move? ex (e.system n).state (e.task n) (e.place n) with
    | none =>
      rw [hmove] at halike
      generalize hmove' : (e'.acts n).move? ex' _ (e'.task n) (e.place n) = move?' at halike
      cases halike
      rw [h.place_eq, hstate] at hmove'
      obtain ⟨hafter, htask, hdoings⟩ := h.alone.succ n hmove
      obtain ⟨hafter', htask', hdoings'⟩ := h.alone'.succ n hmove'
      simp only [Option.elim_none, List.append_nil] at hafter hafter' htask htask' hdoings hdoings'
      refine .going ?_ ?_ ?_
      · rw [hafter, hafter', hstate, (h.acts n).ambient_eq]
      · rw [htask, htask']
        exact hfocus
      · rw [hdoings, hdoings']
        exact hdone
    | some move =>
      rw [hmove] at halike
      generalize hmove' : (e'.acts n).move? ex' _ (e'.task n) (e.place n) = move?' at halike
      cases halike with
      | @some _ move' hlike =>
        rw [h.place_eq, hstate] at hmove'
        obtain ⟨hafter, htask, hdoings⟩ := h.alone.succ n hmove
        obtain ⟨hafter', htask', hdoings'⟩ := h.alone'.succ n hmove'
        rw [Option.elim_some] at hafter hafter' htask htask' hdoings hdoings'
        cases hlike with
        | going hmoved hnext hmore =>
          refine .going ?_ ?_ ?_
          · rw [hafter, hafter']
            exact hmoved
          · rw [htask, htask']
            exact hnext
          · rw [hdoings, hdoings']
            exact List.rel_append hdone hmore
        | left hleaves hleaves' hnone hnone' =>
          refine .ended le_rfl (htask ▸ hleaves) (htask' ▸ hleaves') (.going ?_)
          rw [hdoings, hdoings', hnone, hnone', List.append_nil, List.append_nil]
          exact hdone
        | closed hlink hphase hleaves hleaves' hmore hmore' =>
          refine .ended le_rfl (htask ▸ hleaves) (htask' ▸ hleaves') ?_
          rw [hdoings, hdoings', hmore, hmore']
          obtain ⟨act, depth, hran⟩ := e.exists_ran ((h.alone.phase_eq n).trans hphase)
          exact .closed _ hdone hlink ⟨act, depth, hran.mono (e.past_subset_succ n)⟩

theorem abreast (n : ℕ) : Abreast text text' e e' n := by
  induction n with
  | zero =>
    refine .going h.state ?_ .nil
    rw [e.task_zero, e'.task_zero]
    exact .entering action 0
  | succ n ih => exact h.abreast_succ ih

/-- Twins do the same on their way, and end in the same way. -/
theorem lockstep (n : ℕ) : Paired text text' ex ex' (e.past n) (e.doings n) (e'.doings n) := by
  cases h.abreast n with
  | going _ _ hdone => exact .going hdone
  | ended hk hleaves hleaves' hpaired =>
    rw [h.alone.doings_of_leaves hk hleaves, h.alone'.doings_of_leaves hk hleaves']
    exact hpaired.mono (e.past_subset hk)

end Twin

end Execution

/-! ## What is seen -/

namespace Event

def call? : Event → Option (InvocationId × String × Fields Value)
  | .called id name params => some (id, name, params)
  | _ => none

def url? : Event → Option String
  | .navigated url => some url
  | _ => none

def write? : Event → Option (String × Value)
  | .wrote path value => some (path, value)
  | _ => none

end Event

/-- The handlers that were called, with their parameters. -/
def handlerCalls (story : List Event) : List (InvocationId × String × Fields Value) :=
  story.filterMap Event.call?

/-- The pages that were opened. -/
def navigations (story : List Event) : List String := story.filterMap Event.url?

/-- What was written by effects, and where. -/
def writes (story : List Event) : List (String × Value) := story.filterMap Event.write?

@[simp] theorem handlerCalls_append (story more : List Event) :
    handlerCalls (story ++ more) = handlerCalls story ++ handlerCalls more := List.filterMap_append

@[simp] theorem navigations_append (story more : List Event) :
    navigations (story ++ more) = navigations story ++ navigations more := List.filterMap_append

@[simp] theorem writes_append (story more : List Event) :
    writes (story ++ more) = writes story ++ writes more := List.filterMap_append

section Seen

variable {text text' : String} {ex ex' : Executor}

/-- On the way the same handlers are called, and no effect is applied. -/
theorem seen_of_like {done done' : List Event}
    (h : List.Forall₂ (Event.Like text text') done done') :
    handlerCalls done = handlerCalls done' ∧ (navigations done = [] ∧ navigations done' = []) ∧
      writes done = [] ∧ writes done' = [] := by
  induction h with
  | nil => exact ⟨rfl, ⟨rfl, rfl⟩, rfl, rfl⟩
  | cons hevent _ ih =>
    obtain ⟨hcalls, ⟨hopened, hopened'⟩, hwrites, hwrites'⟩ := ih
    cases hevent with
    | called id name params =>
      exact ⟨congrArg (List.cons (id, name, params)) hcalls, ⟨hopened, hopened'⟩, hwrites,
        hwrites'⟩
    | settled => exact ⟨hcalls, ⟨hopened, hopened'⟩, hwrites, hwrites'⟩

theorem handlerCalls_closing (ex : Executor) (model : Value) (link : Link) :
    handlerCalls (link.closing ex model) = [] := by
  refine List.filterMap_eq_nil_iff.mpr fun e he => ?_
  have heffect := Link.isEffect_of_mem_closing he
  cases e <;> first | rfl | cases heffect

theorem writes_closing (ex : Executor) (model : Value) (link : Link) :
    writes (link.closing ex model) = link.writes ex := by
  unfold Link.closing Link.writes
  cases link.effect with
  | none => rfl
  | some effect =>
    cases effect with
    | navigate target =>
      dsimp only
      cases Task.destination? model target <;> rfl
    | set entries =>
      dsimp only
      rw [writes, List.filterMap_map]
      exact List.filterMap_some
    | chain => rfl

theorem navigations_closing {model : Value} {link link' : Link}
    (h : link.Like text text' link') :
    navigations (link.closing ex model) = navigations (link'.closing ex' model) := by
  unfold Link.closing
  rw [h.effect_eq]
  cases link'.effect with
  | none => rfl
  | some effect =>
    cases effect with
    | navigate | chain => rfl
    | set entries =>
      dsimp only
      rw [navigations, navigations, List.filterMap_map, List.filterMap_map]
      exact (List.filterMap_eq_nil_iff.mpr fun _ _ => rfl).trans
        (List.filterMap_eq_nil_iff.mpr fun _ _ => rfl).symm

theorem Execution.Alone.filterMap_story {action : Action} {e : Execution ex action}
    (h : e.Alone) {α : Type} {look : Event → Option α}
    (hlook : ∀ event, event.isDoing = false → look event = none) (n : ℕ) :
    (e.story n).filterMap look = (e.doings n).filterMap look := by
  rw [← h.filter_story n, List.filterMap_filter]
  refine List.filterMap_congr fun event _ => ?_
  cases hdoing : event.isDoing with
  | true => rfl
  | false => exact hlook event hdoing

theorem Link.writes_eq_nil (ex : Executor) {link : Link}
    (h : ∀ entries, ¬link.effect = some (.set entries)) : link.writes ex = [] := by
  unfold Link.writes
  split
  · rename_i entries hset
    exact absurd hset (h entries)
  all_goals rfl

/-- Handlers that settle in the same way have the same values written. -/
theorem Link.Like.writes_eq (hex : ex.Like text text' ex') {link link' : Link}
    (h : link.Like text text' link') :
    link.writes ex = link'.writes ex' ∨
      link.result = .error text ∧ link'.result = .error text' := by
  have heffect := h.effect_eq
  cases h with
  | same result hinv =>
    left
    simp only [Link.writes, heffect, Link.message, hex.config]
  | text => exact .inr ⟨rfl, rfl⟩

end Seen

namespace Execution

variable {text text' : String} {ex ex' : Executor} {action : Action}

/-- What is seen of two executions at the same point, or with ends that are alike. -/
theorem Paired.seen {past : List Moment} {done done' : List Event}
    (h : Paired text text' ex ex' past done done') :
    handlerCalls done = handlerCalls done' ∧ navigations done = navigations done' ∧
      (writes done = [] ∧ writes done' = [] ∨
        ∃ link link' : Link, link.Like text text' link' ∧
          (∃ act depth, link.inv.Ran ex past act depth) ∧
          .settled link.inv.id link.result ∈ done ∧
          .settled link'.inv.id link'.result ∈ done' ∧
          writes done = link.writes ex ∧ writes done' = link'.writes ex') := by
  cases h with
  | going hdone =>
    obtain ⟨hcalls, ⟨hopened, hopened'⟩, hwrites⟩ := seen_of_like hdone
    exact ⟨hcalls, hopened.trans hopened'.symm, .inl hwrites⟩
  | @closed done done' link link' model hdone hlink hran =>
    obtain ⟨hcalls, ⟨hopened, hopened'⟩, hwrites, hwrites'⟩ := seen_of_like hdone
    have hcallsEnd : ∀ (ex : Executor) (link : Link), handlerCalls
        (.settled link.inv.id link.result :: link.closing ex model) = [] :=
      fun ex link => handlerCalls_closing ex model link
    have hwritesEnd : ∀ (ex : Executor) (link : Link), writes
        (.settled link.inv.id link.result :: link.closing ex model) = link.writes ex :=
      fun ex link => writes_closing ex model link
    have hopenedEnd : navigations (.settled link.inv.id link.result :: link.closing ex model) =
        navigations (.settled link'.inv.id link'.result :: link'.closing ex' model) :=
      navigations_closing hlink
    refine ⟨?_, ?_, .inr ⟨link, link', hlink, hran, ?_, ?_, ?_, ?_⟩⟩
    · rw [handlerCalls_append, handlerCalls_append, hcallsEnd, hcallsEnd, hcalls]
    · rw [navigations_append, navigations_append, hopened, hopened', hopenedEnd]
    · exact List.mem_append_right _ (List.mem_cons_self ..)
    · exact List.mem_append_right _ (List.mem_cons_self ..)
    · rw [writes_append, hwrites, hwritesEnd, List.nil_append]
    · rw [writes_append, hwrites', hwritesEnd, List.nil_append]

/-- What is seen of twins. -/
theorem Twin.seen {e : Execution ex action} {e' : Execution ex' action}
    (h : e.Twin text text' e') (n : ℕ) :
    handlerCalls (e.story n) = handlerCalls (e'.story n) ∧
      navigations (e.story n) = navigations (e'.story n) ∧
      (writes (e.story n) = [] ∧ writes (e'.story n) = [] ∨
        ∃ link link' : Link, link.Like text text' link' ∧
          (∃ act depth, link.inv.Ran ex (e.past n) act depth) ∧
          .settled link.inv.id link.result ∈ e.story n ∧
          .settled link'.inv.id link'.result ∈ e'.story n ∧
          writes (e.story n) = link.writes ex ∧ writes (e'.story n) = link'.writes ex') := by
  have hstory : ∀ {α : Type} (look : Event → Option α),
      (∀ event, event.isDoing = false → look event = none) →
      (e.story n).filterMap look = (e.doings n).filterMap look ∧
        (e'.story n).filterMap look = (e'.doings n).filterMap look :=
    fun look hlook => ⟨h.alone.filterMap_story hlook n, h.alone'.filterMap_story hlook n⟩
  obtain ⟨hcalls, hcalls'⟩ := hstory Event.call? fun event hdoing => by
    cases event <;> first | rfl | cases hdoing
  obtain ⟨hurls, hurls'⟩ := hstory Event.url? fun event hdoing => by
    cases event <;> first | rfl | cases hdoing
  obtain ⟨hwrites, hwrites'⟩ := hstory Event.write? fun event hdoing => by
    cases event <;> first | rfl | cases hdoing
  obtain ⟨hsame, hopened, hwritten⟩ := (h.lockstep n).seen
  refine ⟨hcalls.trans (hsame.trans hcalls'.symm), hurls.trans (hopened.trans hurls'.symm), ?_⟩
  obtain ⟨hnone, hnone'⟩ | ⟨link, link', hlink, hran, hsettled, hsettled', heq, heq'⟩ := hwritten
  · exact .inl ⟨hwrites.trans hnone, hwrites'.trans hnone'⟩
  · exact .inr ⟨link, link', hlink, hran, (e.doings_sublist n).subset hsettled,
      (e'.doings_sublist n).subset hsettled', hwrites.trans heq, hwrites'.trans heq'⟩

/-- Of two executions that differ in the text of an error, both call the same handlers with the
same parameters, open the same pages and write at the same paths. What they write differs only
if a handler has failed with that text whose own effect on errors is a `set` effect, and then in
the values that are the sentinel. An empty text leaves even those as they stand. No other effect
has the text in it. -/
theorem error_text_confined {e : Execution ex action} {e' : Execution ex' action}
    (h : e.Twin text text' e') (n : ℕ) :
    handlerCalls (e.story n) = handlerCalls (e'.story n) ∧
    navigations (e.story n) = navigations (e'.story n) ∧
    (writes (e.story n)).map Prod.fst = (writes (e'.story n)).map Prod.fst ∧
    (writes (e.story n) = writes (e'.story n) ∨
      ∃ (inv : Invocation) (act : Action) (depth : Nat) (entries : Fields Value),
        inv.Ran ex (e.past n) act depth ∧
        .settled inv.id (.error text) ∈ e.story n ∧
        .settled inv.id (.error text') ∈ e'.story n ∧
        act.onError = some (.set entries) ∧
        (writes (e.story n) = entries.map fun entry =>
          if text ≠ "" ∧ entry.2 = .str ex.config.errorMessageSentinel then (entry.1, .str text)
          else entry) ∧
        writes (e'.story n) = entries.map fun entry =>
          if text' ≠ "" ∧ entry.2 = .str ex.config.errorMessageSentinel then (entry.1, .str text')
          else entry) ∧
    (writes (e.story n) = [] ∨
      ∃ (inv : Invocation) (act : Action) (depth : Nat) (result : Except String Unit)
        (entries : Fields Value), inv.Ran ex (e.past n) act depth ∧
        .settled inv.id result ∈ e.story n ∧ act.effect result = some (.set entries) ∧
        writes (e.story n) = ex.config.written result entries) := by
  obtain ⟨hcalls, hopened, hwritten⟩ := h.seen n
  obtain ⟨hnone, hnone'⟩ | ⟨link, link', hlink, ⟨act, depth, hran⟩, hsettled, hsettled', hwrites,
    hwrites'⟩ := hwritten
  · have hsame := hnone.trans hnone'.symm
    exact ⟨hcalls, hopened, congrArg _ hsame, .inl hsame, .inl hnone⟩
  obtain ⟨m, -, hbegins⟩ := hran.begun
  have heffect := Link.effect_of_resolved hbegins.action_eq
  by_cases hset : ∃ entries, link.effect = some (.set entries)
  · obtain ⟨entries, hset⟩ := hset
    have hset' := hlink.effect_eq.symm.trans hset
    have hact := heffect.symm.trans hset
    refine ⟨hcalls, hopened, ?_, ?_, .inr ⟨link.inv, act, depth, link.result, entries, hran,
      hsettled, hact, hwrites.trans (Link.writes_eq hset)⟩⟩
    · rw [hwrites, hwrites', Link.writes_eq hset, Link.writes_eq hset', Config.map_fst_written,
        Config.map_fst_written]
    obtain hsame | ⟨hresult, hresult'⟩ := hlink.writes_eq h.executor
    · exact .inl (hwrites.trans (hsame.trans hwrites'.symm))
    · obtain ⟨hid, -, -⟩ := hlink.inv.eq
      rw [hresult] at hsettled hact
      rw [hresult', ← hid] at hsettled'
      refine .inr ⟨link.inv, act, depth, entries, hran, hsettled, hsettled', hact, ?_, ?_⟩
      · rw [hwrites, Link.writes_eq hset, hresult, Config.written_error]
      · rw [hwrites', Link.writes_eq hset', hresult', h.executor.config, Config.written_error]
  · have hnone := Link.writes_eq_nil ex (not_exists.mp hset)
    have hnone' := Link.writes_eq_nil ex' (hlink.effect_eq ▸ not_exists.mp hset)
    have hsame := hwrites.trans (hnone.trans (hwrites'.trans hnone').symm)
    exact ⟨hcalls, hopened, congrArg _ hsame, .inl hsame, .inl (hwrites.trans hnone)⟩

end Execution

/-! ## Two texts -/

namespace Outage

/-- The action that is chained to fails. It writes the text, and something that only contains
the sentinel. -/
def executor (text : String) : Executor where
  registry :=
    { handlers := [("notify", fun _ => .fail text), ("save", fun _ => .finish)]
      definitions := [("notify", { Action.bare "notify" with
        onError := some (.set [("/problem", .str "$error.message"),
          ("/report", .obj [("text", .str "$error.message")])]) })] }
  config := .initial

def execution (text : String) : Execution (executor text) Notice.action :=
  .solo (executor text) Notice.action .null

theorem alone_execution (text : String) : (execution text).Alone :=
  Execution.alone_solo .null (n := 5) rfl fun k hk => by interval_cases k <;> rfl

theorem like_executor (text text' : String) :
    (executor text).Like text text' (executor text') where
  config := rfl
  definitions := rfl
  handlers name := by
    simp only [executor, Registry.handler?, Fields.get?]
    split
    · exact .some fun _ => .text
    split
    · exact .some fun _ => .finish
    · exact .none

theorem twin_execution (text text' : String) :
    (execution text).Twin text text' (execution text') where
  executor := like_executor text text'
  state := rfl
  place := rfl
  acts _ := .same _
  alone := alone_execution text
  alone' := alone_execution text'

end Outage

theorem Execution.error_text_confined_of_outage :
    (Outage.execution "offline").Twin "offline" "refused" (Outage.execution "refused") ∧
      handlerCalls ((Outage.execution "offline").story 5) =
        handlerCalls ((Outage.execution "refused").story 5) ∧
      writes ((Outage.execution "offline").story 5) = [("/problem", .str "offline"),
        ("/report", .obj [("text", .str "$error.message")])] ∧
      writes ((Outage.execution "refused").story 5) = [("/problem", .str "refused"),
        ("/report", .obj [("text", .str "$error.message")])] := by
  have htwin := Outage.twin_execution "offline" "refused"
  obtain ⟨hcalls, -⟩ := error_text_confined htwin 5
  exact ⟨htwin, hcalls, rfl, rfl⟩

end ScreenLogic
