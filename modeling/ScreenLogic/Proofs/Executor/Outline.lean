import ScreenLogic.Proofs.Executor.Chain
import ScreenLogic.Proofs.Executor.Story

/-!
# Tasks go along their chains

Whatever a task does is a step along its chain, or goes on inside of a handler on it. The
first is seen from outside, with all that it does; of the second nothing is seen.

## Main definitions

* `Moment.doings`: what a task has done on its own chain.

## Main statements

* `Moment.turn_of_possible`: each move of a task is a step along its chain or silent.
-/

namespace ScreenLogic

/-- A handler was called or has settled, or an effect was applied. -/
def Event.isDoing : Event → Bool
  | .called _ _ _ | .settled _ _ | .wrote _ _ | .navigated _ => true
  | _ => false

theorem Event.isDoing_of_isEffect {e : Event} (h : e.isEffect) : e.isDoing := by
  cases e <;> first | rfl | cases h

theorem filter_isDoing_of_quiet {events : List Event} (h : ∀ e ∈ events, e.isQuiet) :
    events.filter Event.isDoing = [] := by
  rw [List.filter_eq_nil_iff]
  intro e he
  have hquiet := h e he
  cases e <;> first | exact Bool.false_ne_true | cases hquiet

theorem filter_isDoing_of_effects {events : List Event} (h : ∀ e ∈ events, e.isEffect) :
    events.filter Event.isDoing = events := by
  rw [List.filter_eq_self]
  exact fun e he => Event.isDoing_of_isEffect (h e he)

theorem Link.isEffect_of_mem_closing {ex : Executor} {model : Value} {link : Link} {e : Event}
    (h : e ∈ link.closing ex model) : e.isEffect := by
  unfold closing at h
  split at h
  · obtain ⟨url, -, rfl⟩ := List.mem_map.mp h
    rfl
  · obtain ⟨write, -, rfl⟩ := List.mem_map.mp h
    rfl
  all_goals cases h

/-! ## Frames -/

namespace Frame

/-- The frame of a handler that runs an action. -/
def isNested : Frame → Bool
  | .nested _ _ _ => true
  | .chained _ _ => false

end Frame

/-- Something goes on inside of a handler on the chain of a task. -/
def Task.inside (t : Task) : Bool := t.stack.any Frame.isNested

/-- A move goes on inside of a handler on the chain of a task. -/
def Moment.inside (m : Moment) : Bool := m.task.inside && m.move.task.inside

/-- What a task has done on its own chain, and not inside of a handler on it. -/
def Moment.doings (m : Moment) : List Event :=
  if m.inside then [] else m.move.events.filter Event.isDoing

namespace Outline

/-- Seen from outside of a handler, it does not matter what it runs. -/
theorem foldl_around_of_nested {frames : List Frame} (h : frames.any Frame.isNested)
    (o o' : Outline) : frames.foldl around o = frames.foldl around o' := by
  induction frames generalizing o o' with
  | nil => cases h
  | cons frame frames ih =>
    cases frame with
    | nested => rfl
    | chained => exact ih h _ _

theorem foldl_around_of_chained {frames : List Frame} (h : frames.any Frame.isNested = false) :
    ∃ waiting, waiting.length = frames.length ∧
      ∀ o : Outline, frames.foldl around o = ⟨o.phase, o.waiting ++ waiting⟩ := by
  induction frames with
  | nil => exact ⟨[], rfl, fun o => by simp⟩
  | cons frame frames ih =>
    cases frame with
    | nested => cases h
    | chained inv outcome =>
      obtain ⟨waiting, hlength, hwaiting⟩ := ih h
      refine ⟨(inv, outcome) :: waiting, congrArg Nat.succ hlength, fun o => ?_⟩
      rw [List.foldl_cons, hwaiting]
      simp [around]

/-- A chain at a handler is at a handler in any frames. -/
theorem foldl_around_handling (frames : List Frame) {o : Outline} {inv : Invocation}
    (h : o.phase = .handling inv) : ∃ inv, (frames.foldl around o).phase = .handling inv := by
  induction frames generalizing o inv with
  | nil => exact ⟨inv, h⟩
  | cons frame frames ih =>
    cases frame with
    | nested other => exact ih (o := ⟨.handling other, []⟩) rfl
    | chained => exact ih h

/-- Seen from outside of it, a chain is at the handler that runs something. -/
theorem foldl_around_phase_of_nested {frames : List Frame} (h : frames.any Frame.isNested)
    (o : Outline) : ∃ inv, (frames.foldl around o).phase = .handling inv := by
  rw [foldl_around_of_nested h o
    ⟨.handling ⟨0, (Action.bare "").resolve .null, 0, fun _ => .finish⟩, []⟩]
  exact foldl_around_handling frames rfl

end Outline

/-- A chain that is not at a handler is at what the task is at. -/
theorem Task.phase_eq {t : Task} (h : ∀ inv, t.outline.phase ≠ .handling inv) :
    t.outline.phase = t.focus.phase ∧ t.outline.waiting.length = t.stack.length := by
  cases hframes : t.stack.any Frame.isNested with
  | true =>
    obtain ⟨inv, hinv⟩ := Outline.foldl_around_phase_of_nested hframes ⟨t.focus.phase, []⟩
    exact absurd hinv (h inv)
  | false =>
    obtain ⟨waiting, hlength, hwaiting⟩ := Outline.foldl_around_of_chained hframes
    rw [outline, hwaiting]
    exact ⟨rfl, hlength⟩

namespace Moment

/-- Nothing is seen from outside of the handler that a chain is at. -/
structure Silent (m : Moment) : Prop where
  outline : m.move.task.outline = m.task.outline
  doings : m.doings = []
  handling : ∃ inv, m.task.outline.phase = .handling inv

/-- A task makes a step along its own chain. -/
structure Advances (ex : Executor) (m : Moment) : Prop where
  outside : m.inside = false
  turn : Turn ex m m.doings m.task.outline m.move.task.outline

/-- A move that leaves the task in some frames goes on where these are. -/
theorem inside_eq {m : Moment} {frames : List Frame}
    (hbefore : frames.any Frame.isNested → m.task.inside)
    (hafter : m.move.task.inside = frames.any Frame.isNested) :
    m.inside = frames.any Frame.isNested := by
  rw [inside, hafter]
  cases hframes : frames.any Frame.isNested with
  | true => rw [hbefore hframes, Bool.true_and]
  | false => exact Bool.and_false _

/-- A step along the chain of an action is one along the chain of the task, or goes on inside
of a handler, according to the frames around it. -/
theorem turn_of_frames {ex : Executor} {m : Moment} {more : List Event} {o : Outline}
    (frames : List Frame) (o' : Outline) (hbefore : m.task.outline = frames.foldl Outline.around o)
    (hafter : m.move.task.outline = frames.foldl Outline.around o')
    (hinside : m.inside = frames.any Frame.isNested)
    (hdoings : m.move.events.filter Event.isDoing = more)
    (hturn : ∀ waiting,
      Turn ex m more ⟨o.phase, o.waiting ++ waiting⟩ ⟨o'.phase, o'.waiting ++ waiting⟩) :
    m.Silent ∨ m.Advances ex := by
  cases hframes : frames.any Frame.isNested with
  | true =>
    left
    refine ⟨?_, ?_, ?_⟩
    · rw [hbefore, hafter]
      exact Outline.foldl_around_of_nested hframes _ _
    · rw [doings, hinside, hframes, if_pos rfl]
    · rw [hbefore]
      exact Outline.foldl_around_phase_of_nested hframes o
  | false =>
    right
    obtain ⟨waiting, -, hwaiting⟩ := Outline.foldl_around_of_chained hframes
    have hown : m.doings = more := by
      rw [doings, hinside, hframes, if_neg (by simp), hdoings]
    refine ⟨hinside.trans hframes, ?_⟩
    rw [hbefore, hafter, hwaiting, hwaiting, hown]
    exact hturn waiting

/-- A handler goes on with its own work, or with what it runs. -/
theorem silent_of_frames {m : Moment} (inv : Invocation) (frames : List Frame)
    (hbefore : m.task.outline = frames.foldl Outline.around ⟨.handling inv, []⟩)
    (hafter : m.move.task.outline = frames.foldl Outline.around ⟨.handling inv, []⟩)
    (hdoings : m.move.events.filter Event.isDoing = []) : m.Silent := by
  refine ⟨hafter.trans hbefore.symm, ?_, ?_⟩
  · rw [doings, hdoings, ite_self]
  · rw [hbefore]
    exact Outline.foldl_around_handling frames rfl

end Moment

namespace Task

theorem outline_append (focus : Focus) (inner frames : List Frame) :
    (⟨focus, inner ++ frames⟩ : Task).outline =
      frames.foldl Outline.around (⟨focus, inner⟩ : Task).outline := List.foldl_append

/-- A handler that runs an action, in frames around it. -/
theorem outline_nested (focus : Focus) (inner frames : List Frame) (inv : Invocation)
    (deadline : Option Timer) (next : ActionResult → Program) :
    (⟨focus, inner ++ .nested inv deadline next :: frames⟩ : Task).outline =
      frames.foldl Outline.around ⟨.handling inv, []⟩ := by
  rw [outline_append]
  rfl

/-! ## Dropping -/

theorem model_abandonFocus (s : State) (focus : Focus) :
    (abandonFocus s focus).1.model = s.model := by
  cases focus with
  | confirming inv =>
    change (s.leaveWait inv.id).1.model = s.model
    rw [State.leaveWait_fst]
  | handling inv =>
    change (s.endLoading inv.action.name).model = s.model
    rw [State.endLoading_eq]
  | entering | leaving => rfl

theorem model_abandon (s : State) (t : Task) : (t.abandon s).1.model = s.model := by
  obtain ⟨loading, hframes⟩ := exists_abandonFrames_eq (abandonFocus s t.focus).1 t.stack
  change (abandonFrames (abandonFocus s t.focus).1 t.stack).model = s.model
  rw [hframes]
  exact model_abandonFocus s t.focus

theorem quiet_abandon (s : State) (t : Task) : ∀ e ∈ (t.abandon s).2, e.isQuiet := by
  obtain ⟨focus, stack⟩ := t
  cases focus with
  | confirming inv => exact s.quiet_leaveWait inv.id
  | handling | entering | leaving => exact List.forall_mem_nil _

/-! ## Settling -/

/-- A handler that settles gives way to the next action of the chain, or its effect is applied
and ends the chain. -/
theorem settle_cases (ex : Executor) (s : State) (link : Link) (stack : List Frame) :
    let move := settle ex s link.inv link.result stack
    (∃ name, link.next? = some name ∧
      move.task = ⟨.entering (ex.registry.definition name) (link.inv.depth + 1),
        .chained link.inv link.outcome :: stack⟩ ∧
      move.events = [.settled link.inv.id link.result]) ∨
    (link.next? = none ∧ move.task = ⟨.leaving (.ok link.outcome), stack⟩ ∧
      move.events = .settled link.inv.id link.result :: link.closing ex s.model) := by
  have hsettle : settle ex s link.inv link.result stack =
      { apply ex s link.inv link.effect link.message link.outcome stack with
        events := .settled link.inv.id link.result ::
          (apply ex s link.inv link.effect link.message link.outcome stack).events } := by
    obtain ⟨inv, result⟩ := link
    cases result <;> rfl
  rw [hsettle, Link.next?, Link.closing]
  dsimp only
  cases link.effect with
  | none => exact .inr ⟨rfl, rfl, rfl⟩
  | some effect =>
    cases effect with
    | navigate target =>
      right
      dsimp only [apply]
      cases destination? s.model target <;> exact ⟨rfl, rfl, rfl⟩
    | set entries => exact .inr ⟨rfl, rfl, rfl⟩
    | chain name => exact .inl ⟨name, rfl, rfl, rfl⟩

end Task

namespace Moment

variable {ex : Executor} {m : Moment}

theorem turn_of_settle (link : Link) (events : List Event) {frames : List Frame} {s : State}
    (hmove : m.move = { Task.settle ex s link.inv link.result frames with
      events := events ++ (Task.settle ex s link.inv link.result frames).events })
    (hmodel : s.model = m.state.model) (hquiet : ∀ e ∈ events, e.isQuiet)
    (hsettles : m.task.Settles ex m.state link)
    (hbefore : m.task.outline = frames.foldl Outline.around ⟨.handling link.inv, []⟩)
    (hinside : frames.any Frame.isNested → m.task.inside) :
    m.Silent ∨ m.Advances ex := by
  obtain ⟨name, hnext, htask, hevents⟩ | ⟨hnext, htask, hevents⟩ :=
    Task.settle_cases ex s link frames
  · have hmoved : m.move.task = ⟨.entering (ex.registry.definition name) (link.inv.depth + 1),
        .chained link.inv link.outcome :: frames⟩ := by
      rw [hmove]
      exact htask
    refine turn_of_frames frames ⟨.entering _ _, [(link.inv, link.outcome)]⟩ hbefore
      (by rw [hmoved]; rfl) (inside_eq hinside (by rw [hmoved]; rfl)) ?_
      fun waiting => .chain waiting hsettles hnext
    rw [hmove, hevents, List.filter_append, filter_isDoing_of_quiet hquiet]
    rfl
  · have hmoved : m.move.task = ⟨.leaving (.ok link.outcome), frames⟩ := by
      rw [hmove]
      exact htask
    refine turn_of_frames frames ⟨.leaving (.ok link.outcome), []⟩ hbefore
      (by rw [hmoved]; rfl) (inside_eq hinside (by rw [hmoved]; rfl)) ?_
      fun waiting => .close waiting hsettles hnext
    have hclosing : (link.closing ex m.state.model).filter Event.isDoing =
        link.closing ex m.state.model :=
      filter_isDoing_of_effects fun e he => Link.isEffect_of_mem_closing he
    rw [hmove, hevents, hmodel, List.filter_append, filter_isDoing_of_quiet hquiet,
      List.nil_append, List.filter_cons_of_pos rfl, hclosing]

theorem turn_of_expireAround (h : Task.expireAround? ex m.state m.task = some m.move) :
    m.Silent ∨ m.Advances ex := by
  unfold Task.expireAround? at h
  split at h
  · rename_i found inv outside hfound
    obtain ⟨deadline, next, hover, heq⟩ := Task.overdueFrame?_eq_some m.state hfound
    rw [List.reverse_nil, List.nil_append] at heq
    have htask : m.task =
        ⟨m.task.focus, found.reverse ++ .nested inv deadline next :: outside⟩ := by
      rw [← heq]
    cases deadline with
    | none => cases hover
    | some deadline =>
      refine turn_of_settle ⟨inv, .error (Task.timeoutMessage ex inv)⟩ _
        (Option.some.inj h).symm (Task.model_abandon ..)
        (Task.quiet_abandon m.state ⟨m.task.focus, found.reverse⟩) ?_ ?_ ?_
      · refine .expired inv deadline (.inr ⟨next, ?_⟩) (of_decide_eq_true hover)
        rw [heq]
        exact List.mem_append_right _ (List.mem_cons_self ..)
      · rw [htask, Task.outline_nested]
      · intro _
        rw [Task.inside, heq, List.any_append, List.any_cons]
        simp [Frame.isNested]
  · cases h

theorem turn_of_expire (h : m.task.expire? ex m.state = some m.move) :
    m.Silent ∨ m.Advances ex := by
  unfold Task.expire? at h
  split at h
  · rename_i inv deadline activity hfocus
    split at h
    · rename_i hover
      cases deadline with
      | none => cases hover
      | some deadline =>
        refine turn_of_settle ⟨inv, .error (Task.timeoutMessage ex inv)⟩ []
          (Option.some.inj h).symm rfl (List.forall_mem_nil _) ?_ ?_ id
        · exact .expired inv deadline (.inl ⟨activity, hfocus⟩) (of_decide_eq_true hover)
        · rw [Task.outline, hfocus]
          rfl
    · exact turn_of_expireAround h
  · exact turn_of_expireAround h

/-- A handler is called, and was called for a reason. -/
theorem turn_of_call (events : List Event) {inv : Invocation} {s : State} {o : Outline}
    (hmove : m.move = { Task.call ex s inv m.task.stack with
      events := events ++ (Task.call ex s inv m.task.stack).events })
    (hquiet : events.filter Event.isDoing = [])
    (hbefore : m.task.outline = m.task.stack.foldl Outline.around o)
    (hturn : m.Calls inv → ∀ waiting, Turn ex m [.called inv.id inv.action.name inv.action.params]
      ⟨o.phase, o.waiting ++ waiting⟩ ⟨.handling inv, waiting⟩) :
    m.Silent ∨ m.Advances ex := by
  refine turn_of_frames m.task.stack ⟨.handling inv, []⟩ hbefore (by rw [hmove]; rfl)
    (inside_eq id (by rw [hmove]; rfl)) ?_ (hturn ?_)
  · rw [hmove, List.filter_append, hquiet]
    rfl
  · rw [Calls, hmove]
    exact ⟨_, rfl⟩

theorem turn_of_enter {action : Action} {depth : Nat}
    (hfocus : m.task.focus = .entering action depth)
    (h : m.move = Task.enter ex m.state action depth m.task.stack) :
    m.Silent ∨ m.Advances ex := by
  have hbefore : m.task.outline =
      m.task.stack.foldl Outline.around ⟨.entering action depth, []⟩ := by
    rw [Task.outline, hfocus]
    rfl
  have hrefuse : ∀ error, ex.Refuses action depth error →
      m.move = ⟨m.state, ⟨.leaving (.error error), m.task.stack⟩, []⟩ →
      m.Silent ∨ m.Advances ex := by
    intro error hrefuses hmove
    refine turn_of_frames m.task.stack ⟨.leaving (.error error), []⟩ hbefore
      (by rw [hmove]; rfl) (inside_eq id (by rw [hmove]; rfl)) (by rw [hmove]; rfl)
      fun waiting => .refuse waiting hrefuses
  unfold Task.enter at h
  split at h
  · rename_i hdeep
    exact hrefuse _ (.tooDeep hdeep) h
  rename_i hdeep
  have hle := Nat.le_of_not_lt hdeep
  split at h
  · rename_i hnone
    exact hrefuse _ (.unknown hle hnone) h
  rename_i handler hhandler
  dsimp only at h
  generalize hinv : Invocation.mk m.state.nextId (action.resolve m.state.model) depth handler = inv
    at h
  have hbegins : m.Begins ex action depth inv := by
    subst hinv
    exact ⟨rfl, rfl, rfl, hle, hhandler⟩
  have hconfirms : inv.action.confirm = action.confirm.map (ConfirmSpec.fill m.state.model) :=
    congrArg ResolvedAction.confirm hbegins.action_eq
  cases hconfirm : inv.action.confirm with
  | some confirm =>
    rw [Task.begin_of_confirm ex _ hconfirm] at h
    have hgated : action.confirm.isSome := by
      rw [← Option.isSome_map, ← hconfirms, hconfirm, Option.isSome_some]
    refine turn_of_frames m.task.stack ⟨.confirming inv, []⟩ hbefore
      (by rw [h]; rfl) (inside_eq id (by rw [h]; rfl)) ?_
      fun waiting => .ask waiting hbegins hgated
    rw [h, List.filter_cons_of_neg (by exact Bool.false_ne_true)]
    exact filter_isDoing_of_quiet (State.quiet_ask _ _)
  | none =>
    rw [Task.begin_of_no_confirm ex _ hconfirm] at h
    have hfree : action.confirm = none := Option.map_eq_none_iff.mp (hconfirms.symm.trans hconfirm)
    exact turn_of_call [.started m.state.nextId action m.state.model] h rfl hbefore
      fun hcalls waiting => .call waiting hbegins hfree hcalls

theorem turn_of_reply {inv : Invocation} {reply : Reply}
    (hfocus : m.task.focus = .confirming inv) (hreply : m.state.reply? inv.id = some reply)
    (h : m.task.step ex m.state = some m.move) :
    m.Silent ∨ m.Advances ex := by
  have hbefore : m.task.outline = m.task.stack.foldl Outline.around ⟨.confirming inv, []⟩ := by
    rw [Task.outline, hfocus]
    rfl
  have hquiet : ((m.state.leaveWait inv.id).2).filter Event.isDoing = [] :=
    filter_isDoing_of_quiet (m.state.quiet_leaveWait inv.id)
  cases reply with
  | accepted =>
    simp only [Task.step, hfocus, hreply] at h
    have hmove := (Option.some.inj h).symm
    exact turn_of_call _ hmove hquiet hbefore fun hcalls waiting => .pass waiting hreply hcalls
  | declined | closed =>
    simp only [Task.step, hfocus, hreply] at h
    have hmove := (Option.some.inj h).symm
    refine turn_of_frames m.task.stack ⟨.leaving (.ok .cancelled), []⟩ hbefore
      (by rw [hmove]; rfl) (inside_eq id (by rw [hmove]; rfl)) ?_
      fun waiting => .decline waiting hreply (by decide)
    rw [hmove, List.filter_append, hquiet]
    rfl

theorem turn_of_work {inv : Invocation} {deadline : Option Timer} {program : Program}
    (hfocus : m.task.focus = .handling inv deadline (.running program))
    (h : m.move = Task.work ex m.state inv deadline program m.task.stack) :
    m.Silent ∨ m.Advances ex := by
  have hbefore : m.task.outline = m.task.stack.foldl Outline.around ⟨.handling inv, []⟩ := by
    rw [Task.outline, hfocus]
    rfl
  -- all but the end of a program is work inside of the handler
  have hgoes : m.move.task.outline = m.task.stack.foldl Outline.around ⟨.handling inv, []⟩ →
      m.move.events.filter Event.isDoing = [] →
      m.Silent ∨ m.Advances ex :=
    fun hafter hdoings => .inl (silent_of_frames inv m.task.stack hbefore hafter hdoings)
  cases program with
  | finish =>
    exact turn_of_settle ⟨inv, .ok ()⟩ [] h rfl (List.forall_mem_nil _)
      (.finished inv deadline hfocus) hbefore id
  | fail message =>
    exact turn_of_settle ⟨inv, .error message⟩ [] h rfl
      (List.forall_mem_nil _) (.failed inv deadline message hfocus) hbefore id
  | answer id accepted next =>
    refine hgoes (by rw [h]; rfl) (filter_isDoing_of_quiet ?_)
    rw [h]
    exact m.state.quiet_answer id accepted (List.forall_mem_singleton.mpr rfl)
  | write | observe | execute | sleep | park => exact hgoes (by rw [h]; rfl) (by rw [h]; rfl)

theorem turn_of_resume (result : ActionResult) {frame : Frame} {stack : List Frame}
    (htask : m.task = ⟨.leaving result, frame :: stack⟩)
    (h : m.move = Task.resume m.state result frame stack) :
    m.Silent ∨ m.Advances ex := by
  cases frame with
  | chained inv outcome =>
    refine turn_of_frames (o := ⟨.leaving result, [(inv, outcome)]⟩) stack
      ⟨.leaving (result.map fun _ => outcome), []⟩ (by rw [htask]; rfl)
      (by rw [h]; rfl) (inside_eq ?_ (by rw [h]; rfl)) (by rw [h]; rfl)
      fun waiting => .resume waiting
    rw [htask]
    exact id
  | nested inv deadline next =>
    exact .inl (silent_of_frames inv stack (by rw [htask]; rfl) (by rw [h]; rfl)
      (by rw [h]; rfl))

/-- Each move of a task is a step along its chain, or goes on inside of a handler on it. -/
theorem turn_of_possible (h : m.Possible ex) :
    m.Silent ∨ m.Advances ex := by
  cases h with
  | step h =>
    cases hfocus : m.task.focus with
    | entering action depth =>
      simp only [Task.step, hfocus] at h
      exact turn_of_enter hfocus (Option.some.inj h).symm
    | confirming inv =>
      cases hreply : m.state.reply? inv.id with
      | some reply => exact turn_of_reply hfocus hreply h
      | none =>
        simp only [Task.step, hfocus, hreply] at h
        exact turn_of_expire h
    | handling inv deadline activity =>
      simp only [Task.step, hfocus] at h
      cases activity with
      | running program => exact turn_of_work hfocus (Option.some.inj h).symm
      | asleep timer next =>
        dsimp only at h
        split at h
        · have hmove := (Option.some.inj h).symm
          exact .inl (silent_of_frames inv m.task.stack
            (by rw [Task.outline, hfocus]; rfl) (by rw [hmove]; rfl) (by rw [hmove]; rfl))
        · exact turn_of_expire h
      | parked next => exact turn_of_expire h
    | leaving result =>
      simp only [Task.step, hfocus] at h
      split at h
      · rename_i frame stack hstack
        refine turn_of_resume result ?_ (Option.some.inj h).symm
        rw [← hfocus, ← hstack]
      · cases h
  | unpark program h =>
    unfold Task.unpark? at h
    split at h
    · rename_i inv deadline next hfocus
      have hmove := (Option.some.inj h).symm
      exact .inl (silent_of_frames inv m.task.stack
        (by rw [Task.outline, hfocus]; rfl) (by rw [hmove]; rfl) (by rw [hmove]; rfl))
    · cases h
  | interrupt frames program h =>
    unfold Task.interrupt? at h
    split at h
    · rename_i inv deadline next outside hdrop
      have hmove := (Option.some.inj h).symm
      have htask : m.task = ⟨m.task.focus,
          m.task.stack.take frames ++ .nested inv deadline next :: outside⟩ := by
        rw [← hdrop, List.take_append_drop]
      refine .inl (silent_of_frames inv outside ?_ (by rw [hmove]; rfl) ?_)
      · rw [htask, Task.outline_nested]
      · rw [hmove]
        exact filter_isDoing_of_quiet
          (Task.quiet_abandon m.state ⟨m.task.focus, m.task.stack.take frames⟩)
    · cases h

end Moment

end ScreenLogic
