import Mathlib.Data.List.Forall2
import ScreenLogic.Proofs.Executor.Execution

/-!
# Two executors that differ in the text of an error

Handlers are alike if they do the same, save that where one fails with the first of two
texts the other may fail with the second. Tasks that are at the same point of their chains,
with handlers that are alike, make the same move. The text takes part in it only if the
handler that fails with it ends the chain.

## Main definitions

* `Program.Like`, `Executor.Like`: programs and executors that are alike.
* `Moment.Like`: two moves of which one does what the other does.

## Main statements

* `Act.move?_like`: tasks that are alike move alike.
-/

namespace ScreenLogic

section Like

variable (text text' : String)

/-- Programs that do the same, save that one may fail with the first text where the other fails
with the second. -/
inductive Program.Like : Program → Program → Prop where
  | finish : Like .finish .finish
  | fail (message : String) : Like (.fail message) (.fail message)
  | text : Like (.fail text) (.fail text')
  | write (path : String) (value : Value) {next next' : Program} : Like next next' →
      Like (.write path value next) (.write path value next')
  | observe {next next' : Observation → Program} : (∀ view, Like (next view) (next' view)) →
      Like (.observe next) (.observe next')
  | answer (id : Option InvocationId) (accepted : Bool) {next next' : Bool → Program} :
      (∀ delivered, Like (next delivered) (next' delivered)) →
      Like (.answer id accepted next) (.answer id accepted next')
  | execute (action : String) {next next' : ActionResult → Program} :
      (∀ result, Like (next result) (next' result)) →
      Like (.execute action next) (.execute action next')
  | sleep (ms : Nat) {next next' : Program} : Like next next' →
      Like (.sleep ms next) (.sleep ms next')
  | park {next next' : Program} : Like next next' → Like (.park next) (.park next')

theorem Program.Like.refl (program : Program) : Like text text' program program := by
  induction program with
  | finish => exact .finish
  | fail message => exact .fail message
  | write path value _ ih => exact .write path value ih
  | observe _ ih => exact .observe ih
  | answer id accepted _ ih => exact .answer id accepted ih
  | execute action _ ih => exact .execute action ih
  | sleep ms _ ih => exact .sleep ms ih
  | park _ ih => exact .park ih

def Handler.Like (handler handler' : Handler) : Prop :=
  ∀ params, (handler params).Like text text' (handler' params)

/-- Executors with the same settings and actions, and with handlers that are alike. -/
structure Executor.Like (ex ex' : Executor) : Prop where
  config : ex.config = ex'.config
  definitions : ex.registry.definitions = ex'.registry.definitions
  handlers : ∀ name, Option.Rel (Handler.Like text text') (ex.registry.handler? name)
    (ex'.registry.handler? name)

/-- Acts that are the same, save that a handler is released to go on in ways that are alike. -/
inductive Act.Like : Act → Act → Prop where
  | same (a : Act) : Like a a
  | release (task : Nat) {program program' : Program} : program.Like text text' program' →
      Like (.release task program) (.release task program')

inductive Invocation.Like : Invocation → Invocation → Prop where
  | mk (id : InvocationId) (action : ResolvedAction) (depth : Nat) {handler handler' : Handler} :
      Handler.Like text text' handler handler' →
      Like ⟨id, action, depth, handler⟩ ⟨id, action, depth, handler'⟩

inductive Activity.Like : Activity → Activity → Prop where
  | running {program program' : Program} : program.Like text text' program' →
      Like (.running program) (.running program')
  | asleep (timer : Timer) {next next' : Program} : next.Like text text' next' →
      Like (.asleep timer next) (.asleep timer next')
  | parked {next next' : Program} : next.Like text text' next' → Like (.parked next) (.parked next')

/-- Tasks are at the same point of a chain that goes on. -/
inductive Focus.Like : Focus → Focus → Prop where
  | entering (action : Action) (depth : Nat) :
      Like (.entering action depth) (.entering action depth)
  | confirming {inv inv' : Invocation} : inv.Like text text' inv' →
      Like (.confirming inv) (.confirming inv')
  | handling {inv inv' : Invocation} (deadline : Option Timer) {activity activity' : Activity} :
      inv.Like text text' inv' → activity.Like text text' activity' →
      Like (.handling inv deadline activity) (.handling inv' deadline activity')

/-- Handlers that are alike settle in the same way, or fail with the two texts. -/
inductive Link.Like : Link → Link → Prop where
  | same {inv inv' : Invocation} (result : Except String Unit) : inv.Like text text' inv' →
      Like ⟨inv, result⟩ ⟨inv', result⟩
  | text {inv inv' : Invocation} : inv.Like text text' inv' →
      Like ⟨inv, .error text⟩ ⟨inv', .error text'⟩

/-- What is done on the way, before a chain comes to its end. -/
inductive Event.Like : Event → Event → Prop where
  | called (id : InvocationId) (name : String) (params : Fields Value) :
      Like (.called id name params) (.called id name params)
  | settled {link link' : Link} : link.Like text text' link' →
      Like (.settled link.inv.id link.result) (.settled link'.inv.id link'.result)

end Like

/-- A chain is on its way out. -/
def Task.Leaves (t : Task) : Prop := ∃ result, t.focus = .leaving result

/-- Two moves from one state, of which one does what the other does. If handlers settle that end
their chains, their effects are applied to the model as it is. -/
inductive Moment.Like (text text' : String) (ex ex' : Executor) (m m' : Moment) : Prop where
  | going : m.move.state = m'.move.state →
      m.move.task.focus.Like text text' m'.move.task.focus →
      List.Forall₂ (Event.Like text text') (m.move.events.filter Event.isDoing)
        (m'.move.events.filter Event.isDoing) →
      Like text text' ex ex' m m'
  | left : m.move.task.Leaves → m'.move.task.Leaves → m.move.events.filter Event.isDoing = [] →
      m'.move.events.filter Event.isDoing = [] → Like text text' ex ex' m m'
  | closed {link link' : Link} : link.Like text text' link' →
      m.task.focus.phase = .handling link.inv → m.move.task.Leaves → m'.move.task.Leaves →
      m.move.events.filter Event.isDoing =
        .settled link.inv.id link.result :: link.closing ex m.state.model →
      m'.move.events.filter Event.isDoing =
        .settled link'.inv.id link'.result :: link'.closing ex' m.state.model →
      Like text text' ex ex' m m'

variable {text text' : String}

theorem Link.Like.inv {link link' : Link} (h : link.Like text text' link') :
    link.inv.Like text text' link'.inv := by
  cases h with
  | same _ hinv => exact hinv
  | text hinv => exact hinv

theorem Invocation.Like.eq {inv inv' : Invocation} (h : inv.Like text text' inv') :
    inv.id = inv'.id ∧ inv.action = inv'.action ∧ inv.depth = inv'.depth := by
  cases h
  exact ⟨rfl, rfl, rfl⟩

theorem Link.Like.effect_eq {link link' : Link} (h : link.Like text text' link') :
    link.effect = link'.effect := by
  cases h with
  | same result hinv =>
    cases hinv
    cases result <;> rfl
  | text hinv =>
    cases hinv
    rfl

theorem Link.Like.next?_eq {link link' : Link} (h : link.Like text text' link') :
    link.next? = link'.next? := by
  simp only [next?, h.effect_eq]

namespace Executor.Like

variable {ex ex' : Executor} (h : ex.Like text text' ex')
include h

theorem definition_eq (name : String) :
    ex.registry.definition name = ex'.registry.definition name := by
  simp only [Registry.definition, h.definitions]

theorem setDeadline_eq (s : State) : Task.setDeadline ex s = Task.setDeadline ex' s := by
  simp only [Task.setDeadline, h.config]

theorem timeoutMessage_eq {inv inv' : Invocation} (hinv : inv.Like text text' inv') :
    Task.timeoutMessage ex inv = Task.timeoutMessage ex' inv' := by
  obtain ⟨-, haction, -⟩ := hinv.eq
  simp only [Task.timeoutMessage, h.config, haction]

end Executor.Like

/-! ## Moves -/

namespace Task

theorem state_settle_of_next? (ex : Executor) (s : State) {link : Link} {name : String}
    (h : link.next? = some name) (stack : List Frame) :
    (settle ex s link.inv link.result stack).state = s := by
  have heffect : link.effect = some (.chain name) := by
    unfold Link.next? at h
    split at h
    · rename_i heffect
      rw [heffect, Option.some.inj h]
    · cases h
  have happly : (apply ex s link.inv link.effect link.message link.outcome stack).state = s := by
    rw [heffect]
    rfl
  obtain ⟨inv, result⟩ := link
  cases result <;> exact happly

theorem overdueFrame?_of_chained (s : State) {frames : List Frame}
    (h : frames.any Frame.isNested = false) (inner : List Frame) :
    overdueFrame? s inner frames = none := by
  induction frames generalizing inner with
  | nil => rfl
  | cons frame frames ih =>
    cases frame with
    | chained => exact ih h _
    | nested => cases h

theorem expireAround?_eq_none (ex : Executor) (s : State) {t : Task} (h : t.inside = false) :
    expireAround? ex s t = none := by
  rw [expireAround?, overdueFrame?_of_chained s h]

theorem interrupt?_eq_none (s : State) {t : Task} (h : t.inside = false) (frames : Nat)
    (program : Program) : t.interrupt? s frames program = none := by
  unfold interrupt?
  split
  · rename_i inv deadline next outside hdrop
    have hmem : .nested inv deadline next ∈ t.stack :=
      List.mem_of_mem_drop (hdrop ▸ List.mem_cons_self ..)
    exact absurd rfl (List.any_eq_false.mp h _ hmem)
  · rfl

end Task

/-- Two tasks move alike from one state, or neither of them moves. -/
abbrev Task.Alike (text text' : String) (ex ex' : Executor) (s : State) (t t' : Task) :
    Option Move → Option Move → Prop :=
  Option.Rel fun move move' => Moment.Like text text' ex ex' ⟨s, t, move⟩ ⟨s, t', move'⟩

section Moves

variable {ex ex' : Executor} {s : State} {t t' : Task}

theorem unpark_like (hfocus : t.focus.Like text text' t'.focus) {program program' : Program}
    (hprogram : program.Like text text' program') :
    Task.Alike text text' ex ex' s t t' (t.unpark? s program) (t'.unpark? s program') := by
  obtain ⟨focus, stack⟩ := t
  obtain ⟨focus', stack'⟩ := t'
  cases hfocus with
  | entering | confirming => exact .none
  | handling deadline hinv hactivity =>
    cases hactivity with
    | running | asleep => exact .none
    | parked => exact .some (.going rfl (.handling deadline hinv (.running hprogram)) .nil)

variable (hex : ex.Like text text' ex')
include hex

theorem settle_like {link link' : Link} (hlink : link.Like text text' link')
    (hphase : t.focus.phase = .handling link.inv) (stack stack' : List Frame) :
    Moment.Like text text' ex ex' ⟨s, t, Task.settle ex s link.inv link.result stack⟩
      ⟨s, t', Task.settle ex' s link'.inv link'.result stack'⟩ := by
  obtain ⟨-, -, hdepth⟩ := hlink.inv.eq
  obtain ⟨name, hnext, htask, hevents⟩ | ⟨hnext, htask, hevents⟩ :=
    Task.settle_cases ex s link stack
  all_goals
    obtain ⟨name', hnext', htask', hevents'⟩ | ⟨hnext', htask', hevents'⟩ :=
      Task.settle_cases ex' s link' stack'
  · obtain rfl : name = name' := by
      rw [hlink.next?_eq, hnext'] at hnext
      exact (Option.some.inj hnext).symm
    refine .going ?_ ?_ ?_
    · rw [Task.state_settle_of_next? ex s hnext, Task.state_settle_of_next? ex' s hnext']
    · rw [htask, htask', hex.definition_eq, hdepth]
      exact .entering _ _
    · rw [hevents, hevents']
      exact .cons (.settled hlink) .nil
  · rw [hlink.next?_eq, hnext'] at hnext
    cases hnext
  · rw [hlink.next?_eq, hnext'] at hnext
    cases hnext
  · have hclosing : ∀ (ex : Executor) (link : Link),
        (Event.settled link.inv.id link.result :: link.closing ex s.model).filter Event.isDoing =
          .settled link.inv.id link.result :: link.closing ex s.model := by
      intro ex link
      rw [List.filter_cons_of_pos rfl, filter_isDoing_of_effects fun e he =>
        Link.isEffect_of_mem_closing he]
    refine .closed hlink hphase ?_ ?_ ?_ ?_
    · exact ⟨_, congrArg Task.focus htask⟩
    · exact ⟨_, congrArg Task.focus htask'⟩
    · rw [hevents, hclosing]
    · rw [hevents', hclosing]

theorem call_like {inv inv' : Invocation} (hinv : inv.Like text text' inv') (s' : State)
    (events : List Event) (hquiet : events.filter Event.isDoing = []) (stack stack' : List Frame) :
    Moment.Like text text' ex ex'
      ⟨s, t, { Task.call ex s' inv stack with
        events := events ++ (Task.call ex s' inv stack).events }⟩
      ⟨s, t', { Task.call ex' s' inv' stack' with
        events := events ++ (Task.call ex' s' inv' stack').events }⟩ := by
  cases hinv with
  | mk id action depth hhandler =>
    refine .going ?_ ?_ ?_
    · simp only [Task.call, hex.setDeadline_eq]
    · simp only [Task.call, hex.setDeadline_eq]
      exact .handling _ (.mk id action depth hhandler) (.running (hhandler _))
    · simp only [Task.call, List.filter_append, hquiet, List.nil_append]
      exact .cons (.called ..) .nil

theorem enter_like (action : Action) (depth : Nat) (stack stack' : List Frame) :
    Moment.Like text text' ex ex' ⟨s, t, Task.enter ex s action depth stack⟩
      ⟨s, t', Task.enter ex' s action depth stack'⟩ := by
  have hhandlers := hex.handlers action.name
  simp only [Task.enter, hex.config]
  split
  · exact .left ⟨_, rfl⟩ ⟨_, rfl⟩ rfl rfl
  cases hhandler : ex.registry.handler? action.name with
  | none =>
    rw [hhandler] at hhandlers
    generalize ex'.registry.handler? action.name = handler' at hhandlers
    cases hhandlers
    exact .left ⟨_, rfl⟩ ⟨_, rfl⟩ rfl rfl
  | some handler =>
    rw [hhandler] at hhandlers
    generalize ex'.registry.handler? action.name = handler' at hhandlers
    cases hhandlers with
    | some hlike =>
      have hinv := Invocation.Like.mk s.nextId (action.resolve s.model) depth hlike
      dsimp only
      cases hconfirm : (action.resolve s.model).confirm with
      | some confirm =>
        rw [Task.begin_of_confirm _ _ (by exact hconfirm),
          Task.begin_of_confirm _ _ (by exact hconfirm)]
        refine .going rfl (.confirming hinv) ?_
        dsimp only
        rw [List.filter_cons_of_neg (by exact Bool.false_ne_true),
          filter_isDoing_of_quiet (State.quiet_ask _ _)]
        exact .nil
      | none =>
        rw [Task.begin_of_no_confirm _ _ (by exact hconfirm),
          Task.begin_of_no_confirm _ _ (by exact hconfirm)]
        exact call_like hex hinv _ [.started s.nextId action s.model] rfl stack stack'

/-- A program goes on as the other does, and settles where the other does. -/
theorem work_like {inv inv' : Invocation} (hinv : inv.Like text text' inv')
    (deadline : Option Timer) {program program' : Program}
    (hprogram : program.Like text text' program') (hphase : t.focus.phase = .handling inv)
    (stack stack' : List Frame) :
    Moment.Like text text' ex ex' ⟨s, t, Task.work ex s inv deadline program stack⟩
      ⟨s, t', Task.work ex' s inv' deadline program' stack'⟩ := by
  cases hprogram with
  | finish => exact settle_like hex (.same (.ok ()) hinv) hphase stack stack'
  | fail message => exact settle_like hex (.same (.error message) hinv) hphase stack stack'
  | text => exact settle_like hex (.text hinv) hphase stack stack'
  | write path value hnext => exact .going rfl (.handling deadline hinv (.running hnext)) .nil
  | observe hnext => exact .going rfl (.handling deadline hinv (.running (hnext _))) .nil
  | answer id accepted hnext =>
    have hquiet : ∀ inv : Invocation, ((s.answer id accepted).2.2 ++
        [Event.answered inv.id accepted (s.answer id accepted).1]).filter Event.isDoing = [] :=
      fun inv => filter_isDoing_of_quiet
        (s.quiet_answer id accepted (List.forall_mem_singleton.mpr rfl))
    refine .going rfl (.handling deadline hinv (.running (hnext _))) ?_
    simp only [Task.work, hquiet]
    exact .nil
  | execute name hnext =>
    refine .going rfl ?_ .nil
    simp only [Task.work, hex.definition_eq]
    exact .entering _ 0
  | sleep ms hnext => exact .going rfl (.handling deadline hinv (.asleep _ hnext)) .nil
  | park hnext => exact .going rfl (.handling deadline hinv (.parked hnext)) .nil

theorem expire_like {inv inv' : Invocation} (hinv : inv.Like text text' inv')
    {deadline : Option Timer} {activity activity' : Activity} {stack stack' : List Frame}
    (hinside : (⟨.handling inv deadline activity, stack⟩ : Task).inside = false)
    (hinside' : (⟨.handling inv' deadline activity', stack'⟩ : Task).inside = false) :
    Task.Alike text text' ex ex' s ⟨.handling inv deadline activity, stack⟩
      ⟨.handling inv' deadline activity', stack'⟩
      (Task.expire? ex s ⟨.handling inv deadline activity, stack⟩)
      (Task.expire? ex' s ⟨.handling inv' deadline activity', stack'⟩) := by
  simp only [Task.expire?]
  split
  · rw [hex.timeoutMessage_eq hinv]
    exact .some (settle_like hex (.same (.error _) hinv) rfl stack stack')
  · rw [Task.expireAround?_eq_none ex s hinside, Task.expireAround?_eq_none ex' s hinside']
    exact .none

/-- Tasks at the same point of their chains make the same step, as long as no handler on them
runs an action. -/
theorem step_like (hfocus : t.focus.Like text text' t'.focus) (hinside : t.inside = false)
    (hinside' : t'.inside = false) :
    Task.Alike text text' ex ex' s t t' (t.step ex s) (t'.step ex' s) := by
  obtain ⟨focus, stack⟩ := t
  obtain ⟨focus', stack'⟩ := t'
  cases hfocus with
  | entering action depth => exact .some (enter_like hex action depth stack stack')
  | @confirming inv inv' hinv =>
    obtain ⟨hid, -, -⟩ := hinv.eq
    simp only [Task.step, ← hid]
    cases hreply : s.reply? inv.id with
    | none =>
      dsimp only [Task.expire?]
      rw [Task.expireAround?_eq_none ex s hinside, Task.expireAround?_eq_none ex' s hinside']
      exact .none
    | some reply =>
      have hquiet := filter_isDoing_of_quiet (s.quiet_leaveWait inv.id)
      cases reply with
      | accepted => exact .some (call_like hex hinv _ _ hquiet stack stack')
      | declined | closed =>
        refine .some (.left ⟨_, rfl⟩ ⟨_, rfl⟩ ?_ ?_)
        all_goals
          dsimp only
          rw [List.append_nil]
          exact hquiet
  | handling deadline hinv hactivity =>
    cases hactivity with
    | running hprogram => exact .some (work_like hex hinv deadline hprogram rfl stack stack')
    | asleep timer hnext =>
      simp only [Task.step]
      split
      · exact .some (.going rfl (.handling deadline hinv (.running hnext)) .nil)
      · exact expire_like hex hinv hinside hinside'
    | parked hnext => exact expire_like hex hinv hinside hinside'

/-- Whatever act moves the one of two tasks moves the other alike. -/
theorem Act.move?_like (hfocus : t.focus.Like text text' t'.focus) (hinside : t.inside = false)
    (hinside' : t'.inside = false) {a a' : Act} (ha : a.Like text text' a') (place : Nat) :
    Task.Alike text text' ex ex' s t t' (a.move? ex s t place) (a'.move? ex' s t' place) := by
  have hat : ∀ (i : Nat) (move? move?' : Option Move),
      Task.Alike text text' ex ex' s t t' move? move?' →
      Task.Alike text text' ex ex' s t t' (if i = place then move? else none)
        (if i = place then move?' else none) := by
    intro i move? move?' halike
    split
    · exact halike
    · exact .none
  cases ha with
  | release i hprogram => exact hat i _ _ (unpark_like hfocus hprogram)
  | same a =>
    cases a with
    | start | answer | drop | elapse | change => exact .none
    | move i => exact hat i _ _ (step_like hex hfocus hinside hinside')
    | release i program =>
      exact hat i _ _ (unpark_like hfocus (.refl text text' program))
    | interrupt i frames program =>
      refine hat i _ _ ?_
      rw [Task.interrupt?_eq_none s hinside, Task.interrupt?_eq_none s hinside']
      exact .none

end Moves

end ScreenLogic
