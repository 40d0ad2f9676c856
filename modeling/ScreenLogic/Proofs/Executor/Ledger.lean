import Mathlib.Algebra.Order.Group.Multiset
import ScreenLogic.Proofs.Executor.System

/-!
# Who is alive on an executor, and what a step does to them

A ledger lists the live invocations of a system with the stages that they are at, beside
the shared state. Whatever happens moves invocations between stages in a few ways only.
In a rise an invocation comes nearer to its handler: it asks for confirmation, or its
handler is called. In a fall it comes nearer to its end. All invariants of runs are shown
for rises, falls and answers, and not for tasks.

## Main statements

* `Step.cases`: each step of a run is an answer, a rise or a number of falls.
-/

namespace ScreenLogic

/-- How far a live invocation has come: it waits to be confirmed, its handler was called and
has not settled, or its continuation has not come to an end. -/
inductive Stage where
  | waiting
  | handling
  | continuing
  deriving DecidableEq

/-- A live invocation at its stage. -/
abbrev Standing := Stage × Invocation

namespace Standing

/-- Those who are alive. -/
def ids (live : Multiset Standing) : Multiset InvocationId := live.map fun x => x.2.id

/-- Those who are alive and wait to be confirmed. -/
def waiters (live : Multiset Standing) : Multiset InvocationId := ids (live.filter (·.1 = .waiting))

@[simp] theorem ids_cons (x : Standing) (live : Multiset Standing) :
    ids (x ::ₘ live) = x.2.id ::ₘ ids live :=
  Multiset.map_cons _ x live

@[simp] theorem waiters_cons_waiting (inv : Invocation) (live : Multiset Standing) :
    waiters ((.waiting, inv) ::ₘ live) = inv.id ::ₘ waiters live := by
  simp [waiters]

@[simp] theorem waiters_cons_of_ne {stage : Stage} (h : stage ≠ .waiting) (inv : Invocation)
    (live : Multiset Standing) : waiters ((stage, inv) ::ₘ live) = waiters live := by
  simp [waiters, h]

theorem mem_ids_of_mem_waiters {id : InvocationId} {live : Multiset Standing}
    (h : id ∈ waiters live) : id ∈ ids live :=
  Multiset.mem_of_le (Multiset.map_le_map (Multiset.filter_le _ _)) h

end Standing

def Focus.live : Focus → List Standing
  | .confirming inv => [(.waiting, inv)]
  | .handling inv _ _ => [(.handling, inv)]
  | .entering _ _ | .leaving _ => []

def Frame.standing : Frame → Standing
  | .chained inv _ => (.continuing, inv)
  | .nested inv _ _ => (.handling, inv)

/-- The live invocations of a task, the innermost first. -/
def Task.live (t : Task) : List Standing := t.focus.live ++ t.stack.map Frame.standing

def System.live (y : System) : List Standing := y.tasks.flatMap Task.live

structure Ledger where
  state : State
  live : Multiset Standing

def System.ledger (y : System) : Ledger := ⟨y.state, y.live⟩

/-- Something was written or opened for an invocation. -/
def Event.isEffect : Event → Bool
  | .wrote _ _ | .navigated _ => true
  | _ => false

/-- A handler has got to know something. -/
def Event.isLook : Event → Bool
  | .observed _ _ | .answered _ _ _ | .returned _ _ => true
  | _ => false

namespace Ledger

/-- An invocation comes nearer to its handler. -/
inductive Rise : Ledger → List Event → Ledger → Prop where
  | ask (s : State) (live : Multiset Standing) (inv : Invocation) (request : Request)
      (action : Action) (model : Value) : inv.id = s.nextId → request.id = inv.id →
      action.confirm.isSome →
      Rise ⟨s, live⟩
        (.started s.nextId action model :: ({ s with nextId := s.nextId + 1 }.ask request).2)
        ⟨({ s with nextId := s.nextId + 1 }.ask request).1, (.waiting, inv) ::ₘ live⟩
  | begin (s : State) (live : Multiset Standing) (inv : Invocation) (action : Action)
      (model : Value) (params : Fields Value) (timers : Nat) : inv.id = s.nextId →
      action.confirm = none →
      Rise ⟨s, live⟩ [.started s.nextId action model, .called inv.id inv.action.name params]
        ⟨{ s with nextId := s.nextId + 1, timers := timers }.beginLoading inv.action.name,
          (.handling, inv) ::ₘ live⟩
  | pass (s : State) (live : Multiset Standing) (inv : Invocation) (params : Fields Value)
      (timers : Nat) : s.reply? inv.id = some .accepted →
      Rise ⟨s, (.waiting, inv) ::ₘ live⟩
        ((s.leaveWait inv.id).2 ++ [.called inv.id inv.action.name params])
        ⟨{ (s.leaveWait inv.id).1 with timers := timers }.beginLoading inv.action.name,
          (.handling, inv) ::ₘ live⟩

/-- An invocation comes nearer to its end, or nothing happens to any. -/
inductive Fall : Ledger → List Event → Ledger → Prop where
  | idle (s : State) (live : Multiset Standing) (model : Value) (clock timers : Nat)
      (events : List Event) : (∀ e ∈ events, e.isLook) →
      Fall ⟨s, live⟩ events ⟨{ s with model := model, clock := clock, timers := timers }, live⟩
  | forsake (s : State) (live : Multiset Standing) (inv : Invocation) :
      Fall ⟨s, (.waiting, inv) ::ₘ live⟩ (s.leaveWait inv.id).2 ⟨(s.leaveWait inv.id).1, live⟩
  | settle (s : State) (live : Multiset Standing) (inv : Invocation)
      (result : Except String Unit) (effects : List Event) (model : Value) :
      (∀ e ∈ effects, e.isEffect) →
      Fall ⟨s, (.handling, inv) ::ₘ live⟩ (.settled inv.id result :: effects)
        ⟨{ s with model := model }, (.continuing, inv) ::ₘ live⟩
  | leave (s : State) (live : Multiset Standing) (stage : Stage) (inv : Invocation) :
      stage ≠ .waiting →
      Fall ⟨s, (stage, inv) ::ₘ live⟩ [] ⟨s.endLoading inv.action.name, live⟩

/-- Any number of falls, one after another. -/
inductive Falls : Ledger → List Event → Ledger → Prop where
  | refl (L : Ledger) : Falls L [] L
  | cons {L M N : Ledger} {events more : List Event} :
      Fall L events M → Falls M more N → Falls L (events ++ more) N

theorem Fall.falls {L M : Ledger} {events : List Event} (h : Fall L events M) :
    Falls L events M := by
  simpa using Falls.cons h (.refl M)

theorem Falls.trans {L M N : Ledger} {events more : List Event} (h : Falls L events M)
    (g : Falls M more N) : Falls L (events ++ more) N := by
  induction h with
  | refl => exact g
  | cons first _ ih =>
    rw [List.append_assoc]
    exact .cons first (ih g)

/-- What each fall preserves, any number of falls does. -/
theorem Falls.preserves {L M : Ledger} {events : List Event} (h : Falls L events M)
    {P : Ledger → Prop} (hfall : ∀ {L events M}, Fall L events M → P L → P M) (hL : P L) : P M := by
  induction h with
  | refl => exact hL
  | cons first _ ih => exact ih (hfall first hL)

end Ledger

section Multiset

variable {α : Type*} (a : α) (l l' : List α) (rest : Multiset α)

@[simp] theorem coe_nil_add : (([] : List α) : Multiset α) + rest = rest := zero_add rest

@[simp] theorem coe_cons_add : ((a :: l : List α) : Multiset α) + rest = a ::ₘ (↑l + rest) := by
  rw [← Multiset.cons_coe, Multiset.cons_add]

@[simp] theorem coe_append_add : ((l ++ l' : List α) : Multiset α) + rest = ↑l + (↑l' + rest) := by
  rw [← Multiset.coe_add, add_assoc]

end Multiset

namespace Frame

theorem standing_ne_waiting (frame : Frame) : frame.standing.1 ≠ .waiting := by
  cases frame with
  | chained => exact (by decide : Stage.continuing ≠ .waiting)
  | nested => exact (by decide : Stage.handling ≠ .waiting)

theorem standing_eq (frame : Frame) : frame.standing = (frame.standing.1, frame.inv) := by
  cases frame <;> rfl

end Frame

namespace Task

open Ledger

variable (ex : Executor) (s : State) (rest : Multiset Standing)

theorem live_confirming (inv : Invocation) (stack : List Frame) :
    (((⟨.confirming inv, stack⟩ : Task).live : List Standing) : Multiset Standing) + rest =
      ((Stage.waiting, inv) : Standing) ::ₘ (↑(stack.map Frame.standing) + rest) :=
  coe_cons_add _ _ rest

theorem live_handling (inv : Invocation) (deadline : Option Timer) (activity : Activity)
    (stack : List Frame) :
    (((⟨.handling inv deadline activity, stack⟩ : Task).live : List Standing) : Multiset Standing) +
        rest = ((Stage.handling, inv) : Standing) ::ₘ (↑(stack.map Frame.standing) + rest) :=
  coe_cons_add _ _ rest

theorem live_leaving (result : ActionResult) (frame : Frame) (stack : List Frame) :
    (((⟨.leaving result, frame :: stack⟩ : Task).live : List Standing) : Multiset Standing) +
        rest = frame.standing ::ₘ (↑(stack.map Frame.standing) + rest) :=
  coe_cons_add _ _ rest

/-! ## Dropping -/

theorem falls_abandonFocus (focus : Focus) :
    Falls ⟨s, ↑focus.live + rest⟩ (abandonFocus s focus).2 ⟨(abandonFocus s focus).1, rest⟩ := by
  cases focus with
  | confirming inv =>
    simpa [Focus.live, abandonFocus] using (Fall.forsake s rest inv).falls
  | handling inv =>
    simpa [Focus.live, abandonFocus] using
      (Fall.leave s rest .handling inv (by decide)).falls
  | entering | leaving => simpa [Focus.live, abandonFocus] using Falls.refl ⟨s, rest⟩

theorem falls_abandonFrames (frames : List Frame) :
    Falls ⟨s, ↑(frames.map Frame.standing) + rest⟩ [] ⟨abandonFrames s frames, rest⟩ := by
  induction frames generalizing s with
  | nil => simpa [abandonFrames] using Falls.refl ⟨s, rest⟩
  | cons frame frames ih =>
    have first : Fall ⟨s, frame.standing ::ₘ (↑(frames.map Frame.standing) + rest)⟩ []
        ⟨s.endLoading frame.inv.action.name, ↑(frames.map Frame.standing) + rest⟩ := by
      rw [Frame.standing_eq]
      exact .leave _ _ _ _ (Frame.standing_ne_waiting frame)
    rw [List.map_cons, coe_cons_add]
    exact .cons first (ih _)

theorem falls_abandon (t : Task) :
    Falls ⟨s, ↑t.live + rest⟩ (t.abandon s).2 ⟨(t.abandon s).1, rest⟩ := by
  have first := falls_abandonFocus s (↑(t.stack.map Frame.standing) + rest) t.focus
  have second := falls_abandonFrames (abandonFocus s t.focus).1 rest t.stack
  rw [Task.live, coe_append_add, abandon, ← List.append_nil (abandonFocus s t.focus).2]
  exact first.trans second

/-! ## Settling -/

/-- An effect ends its invocation, unless it chains to another action. -/
theorem apply_cases (inv : Invocation) (effect : Option Effect) (message : Option String)
    (outcome : Outcome) (stack : List Frame) :
    let move := apply ex s inv effect message outcome stack
    (∃ model, move.state = { s with model := model }.endLoading inv.action.name ∧
      move.task.live = stack.map Frame.standing ∧ ∀ e ∈ move.events, e.isEffect) ∨
    (move.state = s ∧ move.task.live = (.continuing, inv) :: stack.map Frame.standing ∧
      move.events = []) := by
  cases effect with
  | none => exact .inl ⟨s.model, rfl, rfl, List.forall_mem_nil _⟩
  | some effect =>
    cases effect with
    | navigate target =>
      simp only [apply]
      split
      · exact .inl ⟨s.model, rfl, rfl, by simp [Event.isEffect]⟩
      · exact .inl ⟨s.model, rfl, rfl, List.forall_mem_nil _⟩
    | set entries => exact .inl ⟨_, rfl, rfl, List.forall_mem_map.mpr fun _ _ => rfl⟩
    | chain name => exact .inr ⟨rfl, rfl, rfl⟩

theorem falls_apply (inv : Invocation) (result : Except String Unit) (effect : Option Effect)
    (message : Option String) (outcome : Outcome) (stack : List Frame) :
    let move := apply ex s inv effect message outcome stack
    Falls ⟨s, (.handling, inv) ::ₘ (↑(stack.map Frame.standing) + rest)⟩
      (.settled inv.id result :: move.events) ⟨move.state, ↑move.task.live + rest⟩ := by
  intro move
  obtain ⟨model, hstate, hlive, heffects⟩ | ⟨hstate, hlive, hevents⟩ :=
    apply_cases ex s inv effect message outcome stack
  · have settled := Fall.settle s (↑(stack.map Frame.standing) + rest) inv result move.events
      model heffects
    have left := Fall.leave { s with model := model } (↑(stack.map Frame.standing) + rest)
      .continuing inv (by decide)
    rw [hstate, hlive]
    simpa using Falls.cons settled left.falls
  · have settled := Fall.settle s (↑(stack.map Frame.standing) + rest) inv result [] s.model
      (List.forall_mem_nil _)
    rw [hstate, hlive, hevents, coe_cons_add]
    exact settled.falls

theorem falls_settle (inv : Invocation) (result : Except String Unit) (stack : List Frame) :
    let move := settle ex s inv result stack
    Falls ⟨s, (.handling, inv) ::ₘ (↑(stack.map Frame.standing) + rest)⟩ move.events
      ⟨move.state, ↑move.task.live + rest⟩ := by
  cases result with
  | ok => exact falls_apply ex s rest inv _ _ _ _ stack
  | error message => exact falls_apply ex s rest inv _ _ _ _ stack

/-! ## Moving -/

/-- A handler goes on, with nothing changed but the model and the timers. -/
theorem falls_idle (model : Value) (timers : Nat) (inv : Invocation) (deadline : Option Timer)
    (activity : Activity) (stack : List Frame) {events : List Event}
    (hlook : ∀ e ∈ events, e.isLook) :
    Falls ⟨s, (.handling, inv) ::ₘ (↑(stack.map Frame.standing) + rest)⟩ events
      ⟨{ s with model := model, timers := timers },
        ↑(⟨.handling inv deadline activity, stack⟩ : Task).live + rest⟩ := by
  rw [live_handling]
  exact (Fall.idle s _ model s.clock timers events hlook).falls

theorem falls_resume (result : ActionResult) (frame : Frame) (stack : List Frame) :
    let move := resume s result frame stack
    Falls ⟨s, frame.standing ::ₘ (↑(stack.map Frame.standing) + rest)⟩ move.events
      ⟨move.state, ↑move.task.live + rest⟩ := by
  cases frame with
  | chained inv outcome => exact (Fall.leave s _ .continuing inv (by decide)).falls
  | nested inv deadline next =>
    exact falls_idle s rest s.model s.timers inv deadline _ stack
      (List.forall_mem_singleton.mpr rfl)

/-- One step of a handler's program, unless that is an answer. -/
theorem falls_work (inv : Invocation) (deadline : Option Timer) (program : Program)
    (stack : List Frame) (h : ∀ id accepted next, program ≠ .answer id accepted next) :
    let move := work ex s inv deadline program stack
    Falls ⟨s, (.handling, inv) ::ₘ (↑(stack.map Frame.standing) + rest)⟩ move.events
      ⟨move.state, ↑move.task.live + rest⟩ := by
  cases program with
  | finish => exact falls_settle ex s rest inv _ stack
  | fail message => exact falls_settle ex s rest inv _ stack
  | write path value next =>
    exact falls_idle s rest _ s.timers inv deadline _ stack (List.forall_mem_nil _)
  | observe next =>
    exact falls_idle s rest s.model s.timers inv deadline _ stack
      (List.forall_mem_singleton.mpr rfl)
  | answer id accepted next => exact absurd rfl (h id accepted next)
  | execute name next =>
    change Falls _ [] ⟨s, ↑((.handling, inv) :: stack.map Frame.standing) + rest⟩
    rw [coe_cons_add]
    exact .refl _
  | sleep ms next =>
    exact falls_idle s rest s.model _ inv deadline _ stack (List.forall_mem_nil _)
  | park next =>
    exact falls_idle s rest s.model s.timers inv deadline _ stack (List.forall_mem_nil _)

/-! ## Deadlines -/

/-- The frames around an overdue handler are as they were, and so are those inside. -/
theorem overdueFrame?_eq_some {inside frames found outside : List Frame} {inv : Invocation}
    (h : overdueFrame? s inside frames = some (found, inv, outside)) :
    ∃ deadline next, isOver s deadline ∧ inside.reverse ++ frames =
      found.reverse ++ .nested inv deadline next :: outside := by
  induction frames generalizing inside with
  | nil => simp [overdueFrame?] at h
  | cons frame frames ih =>
    cases frame with
    | chained other outcome =>
      obtain ⟨deadline, next, hover, heq⟩ := ih h
      exact ⟨deadline, next, hover, by simpa using heq⟩
    | nested other deadline next =>
      simp only [overdueFrame?] at h
      split at h
      · rename_i hover
        obtain ⟨rfl, rfl, rfl⟩ : inside = found ∧ other = inv ∧ frames = outside := by
          simpa using h
        exact ⟨deadline, next, hover, rfl⟩
      · obtain ⟨deadline, next, hover, heq⟩ := ih h
        exact ⟨deadline, next, hover, by simpa using heq⟩

theorem falls_expireAround? {t : Task} {move : Move} (h : expireAround? ex s t = some move) :
    Falls ⟨s, ↑t.live + rest⟩ move.events ⟨move.state, ↑move.task.live + rest⟩ := by
  unfold expireAround? at h
  split at h
  · rename_i found inv outside hfound
    obtain ⟨deadline, next, -, heq⟩ := overdueFrame?_eq_some s hfound
    have hlive : t.live = (⟨t.focus, found.reverse⟩ : Task).live ++
        (.handling, inv) :: outside.map Frame.standing := by
      rw [List.reverse_nil, List.nil_append] at heq
      simp [Task.live, heq, Frame.standing]
    rw [hlive, coe_append_add, coe_cons_add, ← Option.some.inj h]
    exact (falls_abandon s _ ⟨t.focus, found.reverse⟩).trans (falls_settle ex _ rest inv _ outside)
  · cases h

theorem falls_expire? {t : Task} {move : Move} (h : expire? ex s t = some move) :
    Falls ⟨s, ↑t.live + rest⟩ move.events ⟨move.state, ↑move.task.live + rest⟩ := by
  unfold expire? at h
  split at h
  · rename_i inv deadline activity hfocus
    split at h
    · obtain ⟨focus, stack⟩ := t
      obtain rfl : focus = _ := hfocus
      rw [live_handling, ← Option.some.inj h]
      exact falls_settle ex s rest inv _ stack
    · exact falls_expireAround? ex s rest h
  · exact falls_expireAround? ex s rest h

/-! ## Beginning -/

theorem setDeadline_snd (ex : Executor) (s : State) :
    (setDeadline ex s).2 = { s with timers := (setDeadline ex s).2.timers } := by
  unfold setDeadline
  split <;> rfl

theorem call_state (inv : Invocation) (stack : List Frame) :
    ∃ timers, (call ex s inv stack).state =
      { s with timers := timers }.beginLoading inv.action.name :=
  ⟨_, congrArg (State.beginLoading · inv.action.name) (setDeadline_snd ex s)⟩

theorem call_live (inv : Invocation) (stack : List Frame) :
    (call ex s inv stack).task.live = (.handling, inv) :: stack.map Frame.standing := rfl

theorem begin_of_confirm {inv : Invocation} {confirm : ConfirmSpec}
    (h : inv.action.confirm = some confirm) (stack : List Frame) :
    begin ex s inv stack =
      ⟨(s.ask ⟨inv.id, inv.action.name, confirm⟩).1, ⟨.confirming inv, stack⟩,
        (s.ask ⟨inv.id, inv.action.name, confirm⟩).2⟩ := by
  simp only [begin, h]

theorem begin_of_no_confirm {inv : Invocation} (h : inv.action.confirm = none)
    (stack : List Frame) : begin ex s inv stack = call ex s inv stack := by
  simp only [begin, h]

/-- A new invocation waits to be confirmed, or its handler is called at once. -/
theorem rise_begin (inv : Invocation) (action : Action) (model : Value) (stack : List Frame)
    (hid : inv.id = s.nextId)
    (hconfirm : inv.action.confirm = action.confirm.map (ConfirmSpec.fill model)) :
    let move := begin ex { s with nextId := s.nextId + 1 } inv stack
    Rise ⟨s, ↑(stack.map Frame.standing) + rest⟩ (.started s.nextId action model :: move.events)
      ⟨move.state, ↑move.task.live + rest⟩ := by
  cases h : inv.action.confirm with
  | some confirm =>
    have hgated : action.confirm.isSome := by
      rw [← Option.isSome_map, ← hconfirm, h, Option.isSome_some]
    rw [begin_of_confirm ex _ h]
    dsimp only
    rw [live_confirming]
    exact .ask s _ inv ⟨inv.id, inv.action.name, confirm⟩ action model hid rfl hgated
  | none =>
    have hfree : action.confirm = none := Option.map_eq_none_iff.mp (hconfirm.symm.trans h)
    obtain ⟨timers, hstate⟩ := call_state ex { s with nextId := s.nextId + 1 } inv stack
    rw [begin_of_no_confirm ex _ h]
    dsimp only
    rw [hstate, call_live, coe_cons_add]
    exact .begin s _ inv action model inv.action.params timers hid hfree

/-- An action that is refused leaves everything as it was; any other gets an invocation. -/
theorem enter_cases (action : Action) (depth : Nat) (stack : List Frame) :
    let move := enter ex s action depth stack
    (move.state = s ∧ move.task.live = stack.map Frame.standing ∧ move.events = []) ∨
    Rise ⟨s, ↑(stack.map Frame.standing) + rest⟩ move.events
      ⟨move.state, ↑move.task.live + rest⟩ := by
  unfold enter
  split
  · exact .inl ⟨rfl, rfl, rfl⟩
  split
  · exact .inl ⟨rfl, rfl, rfl⟩
  · exact .inr (rise_begin ex s rest _ action s.model stack rfl rfl)

/-- A waiter whose reply has come calls its handler, or ends. -/
theorem confirming_cases {inv : Invocation} {reply : Reply} (h : s.reply? inv.id = some reply)
    (stack : List Frame) :
    ∃ move, step ex s ⟨.confirming inv, stack⟩ = some move ∧
      (Rise ⟨s, (.waiting, inv) ::ₘ (↑(stack.map Frame.standing) + rest)⟩ move.events
        ⟨move.state, ↑move.task.live + rest⟩ ∨
      Falls ⟨s, (.waiting, inv) ::ₘ (↑(stack.map Frame.standing) + rest)⟩ move.events
        ⟨move.state, ↑move.task.live + rest⟩) := by
  simp only [step, h]
  refine ⟨_, rfl, ?_⟩
  cases reply with
  | accepted =>
    left
    obtain ⟨timers, hstate⟩ := call_state ex (s.leaveWait inv.id).1 inv stack
    dsimp only
    rw [hstate, call_live, coe_cons_add]
    exact .pass s _ inv inv.action.params timers h
  | declined | closed =>
    right
    dsimp only
    rw [List.append_nil]
    exact (Fall.forsake s _ inv).falls

/-! ## Any step of a task -/

theorem step_cases {t : Task} {move : Move} (h : step ex s t = some move)
    (hanswer : t.answer? = none) :
    Rise ⟨s, ↑t.live + rest⟩ move.events ⟨move.state, ↑move.task.live + rest⟩ ∨
    Falls ⟨s, ↑t.live + rest⟩ move.events ⟨move.state, ↑move.task.live + rest⟩ := by
  obtain ⟨focus, stack⟩ := t
  cases focus with
  | entering action depth =>
    obtain rfl := Option.some.inj h
    obtain ⟨hstate, hlive, hevents⟩ | hrise := enter_cases ex s rest action depth stack
    · right
      rw [hstate, hlive, hevents]
      exact .refl _
    · exact .inl hrise
  | confirming inv =>
    cases hreply : s.reply? inv.id with
    | some reply =>
      obtain ⟨move', hmove, hcases⟩ := confirming_cases ex s rest hreply stack
      obtain rfl := Option.some.inj (h.symm.trans hmove)
      rwa [live_confirming]
    | none =>
      simp only [step, hreply] at h
      exact .inr (falls_expire? ex s rest h)
  | handling inv deadline activity =>
    right
    cases activity with
    | running program =>
      obtain rfl := Option.some.inj h
      rw [live_handling]
      refine falls_work ex s rest inv deadline program stack ?_
      rintro id accepted next rfl
      cases hanswer
    | asleep timer next =>
      simp only [step] at h
      split at h
      · obtain rfl := Option.some.inj h
        exact .refl _
      · exact falls_expire? ex s rest h
    | parked next => exact falls_expire? ex s rest h
  | leaving result =>
    right
    cases stack with
    | nil => cases h
    | cons frame stack =>
      obtain rfl := Option.some.inj h
      rw [live_leaving]
      exact falls_resume s rest result frame stack

theorem step_answer {t : Task} {id : Option InvocationId} {accepted : Bool}
    (h : t.answer? = some (id, accepted)) :
    ∃ move looks, step ex s t = some move ∧ move.state = (s.answer id accepted).2.1 ∧
      move.task.live = t.live ∧ move.events = (s.answer id accepted).2.2 ++ looks ∧
      ∀ e ∈ looks, e.isLook := by
  unfold answer? at h
  split at h
  · rename_i inv deadline id accepted next hfocus
    obtain ⟨rfl, rfl⟩ := Prod.mk.inj (Option.some.inj h)
    obtain ⟨focus, stack⟩ := t
    obtain rfl : focus = _ := hfocus
    exact ⟨_, _, rfl, rfl, rfl, rfl, List.forall_mem_singleton.mpr rfl⟩
  · cases h

theorem falls_unpark? {t : Task} {program : Program} {move : Move}
    (h : t.unpark? s program = some move) :
    Falls ⟨s, ↑t.live + rest⟩ move.events ⟨move.state, ↑move.task.live + rest⟩ := by
  unfold unpark? at h
  split at h
  · rename_i hfocus
    obtain rfl := Option.some.inj h
    obtain ⟨focus, stack⟩ := t
    obtain rfl : focus = _ := hfocus
    exact .refl _
  · cases h

theorem falls_interrupt? {t : Task} {frames : Nat} {program : Program} {move : Move}
    (h : t.interrupt? s frames program = some move) :
    Falls ⟨s, ↑t.live + rest⟩ move.events ⟨move.state, ↑move.task.live + rest⟩ := by
  unfold interrupt? at h
  split at h
  · rename_i inv deadline next outside hdrop
    obtain rfl := Option.some.inj h
    have hsplit := congrArg (List.map Frame.standing) (List.take_append_drop frames t.stack)
    rw [hdrop, List.map_append] at hsplit
    have hlive : t.live = (⟨t.focus, t.stack.take frames⟩ : Task).live ++
        (.handling, inv) :: outside.map Frame.standing := by
      simp only [Task.live, ← hsplit, List.map_cons, Frame.standing, List.append_assoc]
    rw [hlive, coe_append_add, coe_cons_add, live_handling]
    exact falls_abandon s _ _
  · cases h

end Task

/-! ## Any step of a run -/

namespace System

open Ledger

theorem live_insert (former later : List Task) (t : Task) :
    (((former ++ t :: later).flatMap Task.live : List Standing) : Multiset Standing) =
      ↑t.live + ↑((former ++ later).flatMap Task.live) := by
  rw [Multiset.coe_add, Multiset.coe_eq_coe]
  exact List.perm_middle.flatMap_right Task.live

/-- One task among the others, which stay as they are when it moves and when it is dropped. -/
theorem exists_others {y : System} {i : Nat} {t : Task} (h : y.tasks[i]? = some t) :
    ∃ others : Multiset Standing, (y.live : Multiset Standing) = ↑t.live + others ∧
      (∀ move : Move, (y.follow i (some move)).1.ledger =
        ⟨move.state, ↑move.task.live + others⟩) ∧
      (((y.tasks.eraseIdx i).flatMap Task.live : List Standing) : Multiset Standing) = others := by
  obtain ⟨hi, rfl⟩ := List.getElem?_eq_some_iff.mp h
  refine ⟨((y.tasks.take i ++ y.tasks.drop (i + 1)).flatMap Task.live : List Standing),
    ?_, ?_, ?_⟩
  · rw [← live_insert, ← List.drop_eq_getElem_cons, List.take_append_drop]
    rfl
  · intro move
    have hset : y.tasks.set i move.task =
        y.tasks.take i ++ move.task :: y.tasks.drop (i + 1) := by
      rw [List.set_eq_take_append_cons_drop, if_pos hi]
    rw [← live_insert, ← hset]
    rfl
  · rw [List.eraseIdx_eq_take_drop_succ]

/-- What the move of a task is to the ledger, it is in whatever company. -/
theorem follow_cases (y : System) (i : Nat) (move? : Task → Option Move)
    (h : ∀ t move rest, y.tasks[i]? = some t → move? t = some move →
      Rise ⟨y.state, ↑t.live + rest⟩ move.events ⟨move.state, ↑move.task.live + rest⟩ ∨
      Falls ⟨y.state, ↑t.live + rest⟩ move.events ⟨move.state, ↑move.task.live + rest⟩) :
    let moved := y.follow i ((y.tasks[i]?).bind move?)
    Rise y.ledger moved.2 moved.1.ledger ∨ Falls y.ledger moved.2 moved.1.ledger := by
  cases ht : y.tasks[i]? with
  | none => exact .inr (.refl _)
  | some t =>
    cases hmove : move? t with
    | none =>
      rw [Option.bind_some, hmove]
      exact .inr (.refl _)
    | some move =>
      obtain ⟨others, hlive, hfollow, -⟩ := exists_others ht
      intro moved
      have hmoved : moved = y.follow i (some move) := by
        rw [← hmove]
        rfl
      rw [ledger, hlive, hmoved, hfollow]
      exact h t move others ht hmove

/-- Each step of a run is an answer, a rise or a number of falls. -/
theorem step_cases (ex : Executor) (y : System) (a : Act) :
    let st := y.step ex a
    (∃ id accepted looks, st.answer? = some (id, accepted) ∧
      st.after.ledger = ⟨(y.state.answer id accepted).2.1, y.live⟩ ∧
      st.events = (y.state.answer id accepted).2.2 ++ looks ∧ ∀ e ∈ looks, e.isLook) ∨
    st.answer? = none ∧
      (Rise y.ledger st.events st.after.ledger ∨ Falls y.ledger st.events st.after.ledger) := by
  intro st
  cases a with
  | start action =>
    refine .inr ⟨rfl, .inr ?_⟩
    have hlive : (y.tasks ++ [Task.ofAction action]).flatMap Task.live = y.live := by
      rw [List.flatMap_append]
      exact List.append_nil _
    change Falls y.ledger [] ⟨y.state, ↑((y.tasks ++ [Task.ofAction action]).flatMap Task.live)⟩
    rw [hlive]
    exact .refl _
  | answer id accepted =>
    exact .inl ⟨id, accepted, [], rfl, rfl, (List.append_nil _).symm, List.forall_mem_nil _⟩
  | move i =>
    cases hanswer : (y.tasks[i]?).bind Task.answer? with
    | some given =>
      obtain ⟨id, accepted⟩ := given
      obtain ⟨t, ht, hgiven⟩ := Option.bind_eq_some_iff.mp hanswer
      obtain ⟨move, looks, hmove, hstate, hlive, hevents, hlooks⟩ :=
        Task.step_answer ex y.state hgiven
      obtain ⟨others, hothers, hfollow, -⟩ := exists_others ht
      have hst : y.perform ex (.move i) = y.follow i (some move) := by
        rw [perform, ht, Option.bind_some, hmove]
      refine .inl ⟨id, accepted, looks, hanswer, ?_, ?_, hlooks⟩
      · rw [hothers, ← hstate, ← hlive, ← hfollow, ← hst]
        rfl
      · rw [← hevents]
        exact congrArg Prod.snd hst
    | none =>
      refine .inr ⟨hanswer, follow_cases y i (Task.step ex y.state) ?_⟩
      intro t move rest ht hmove
      rw [ht, Option.bind_some] at hanswer
      exact Task.step_cases ex y.state rest hmove hanswer
  | release i program =>
    refine .inr ⟨rfl, follow_cases y i (Task.unpark? y.state · program) ?_⟩
    intro t move rest _ hmove
    exact .inr (Task.falls_unpark? y.state rest hmove)
  | interrupt i frames program =>
    refine .inr ⟨rfl, follow_cases y i (Task.interrupt? y.state · frames program) ?_⟩
    intro t move rest _ hmove
    exact .inr (Task.falls_interrupt? y.state rest hmove)
  | drop i =>
    refine .inr ⟨rfl, .inr ?_⟩
    cases ht : y.tasks[i]? with
    | none =>
      have hst : y.perform ex (.drop i) = (y, []) := by rw [perform, ht]
      change Falls y.ledger (y.perform ex (.drop i)).2 (y.perform ex (.drop i)).1.ledger
      rw [hst]
      exact .refl _
    | some t =>
      obtain ⟨others, hlive, -, herase⟩ := exists_others ht
      have hst : y.perform ex (.drop i) =
          (⟨(t.abandon y.state).1, y.tasks.eraseIdx i⟩, (t.abandon y.state).2) := by
        rw [perform, ht]
      change Falls y.ledger (y.perform ex (.drop i)).2 (y.perform ex (.drop i)).1.ledger
      rw [hst, ledger, hlive, ledger, live, herase]
      exact Task.falls_abandon y.state others t
  | elapse ms =>
    refine .inr ⟨rfl, .inr (Ledger.Fall.falls ?_)⟩
    exact .idle y.state y.live y.state.model _ y.state.timers [] (List.forall_mem_nil _)
  | change model =>
    refine .inr ⟨rfl, .inr (Ledger.Fall.falls ?_)⟩
    exact .idle y.state y.live model y.state.clock y.state.timers [] (List.forall_mem_nil _)

end System

end ScreenLogic
