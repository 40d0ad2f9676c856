import ScreenLogic.Proofs.Executor.Outline
import ScreenLogic.Proofs.Executor.Writes

/-!
# What a step does for an invocation

In one step at most one invocation is served. It begins and has its request shown, begins
and has its handler called, has its handler called after a wait, or settles and has its
effect applied. All else that happens in the step goes on beside that, and neither lets an
invocation come to life nor puts another request on show.

## Main definitions

* `System.Deed`: what is done for an invocation between two states of a system.

## Main statements

* `System.deed_step`: each step of a run is a deed.
-/

namespace ScreenLogic

/-! ## Events -/

/-- An invocation begins, is shown, is called or settles, or its effect is applied. -/
def Event.isNotable : Event → Bool
  | .started _ _ _ | .shown (some _) | .called _ _ _ | .settled _ _ | .wrote _ _ | .navigated _ =>
    true
  | _ => false

theorem Event.isNotable_of_isEffect {e : Event} (h : e.isEffect) : e.isNotable := by
  cases e <;> first | rfl | cases h

theorem Link.filter_closing (ex : Executor) (model : Value) (link : Link) :
    (link.closing ex model).filter Event.isNotable = link.closing ex model := by
  rw [List.filter_eq_self]
  exact fun e he => Event.isNotable_of_isEffect (Link.isEffect_of_mem_closing he)

/-- No other request is put on show. -/
def State.Retains (s s' : State) : Prop :=
  ∀ request, s'.shown = some request → s.shown = some request

/-- Nothing is done for any invocation, and no other request is put on show. -/
structure State.Calm (s s' : State) (events : List Event) : Prop where
  retains : s.Retains s'
  unnoted : events.filter Event.isNotable = []

namespace State

theorem Retains.of_eq {s s' : State} (h : s'.shown = s.shown) : s.Retains s' :=
  fun _ hrequest => h ▸ hrequest

theorem Retains.trans {s t u : State} (h : s.Retains t) (g : t.Retains u) : s.Retains u :=
  fun request hrequest => h request (g request hrequest)

theorem filter_supersede (s : State) : s.supersede.2.filter Event.isNotable = [] := by
  unfold supersede
  split
  · dsimp only
    split <;> rfl
  · rfl

theorem calm_leaveWait (s : State) (id : InvocationId) :
    s.Calm (s.leaveWait id).1 (s.leaveWait id).2 where
  retains request h := by
    rw [leaveWait_fst] at h
    dsimp only at h
    split at h
    · cases h
    · exact h
  unnoted := by
    unfold leaveWait withdraw
    split <;> rfl

theorem calm_answer (s : State) (target : Option InvocationId) (accepted : Bool) :
    s.Calm (s.answer target accepted).2.1 (s.answer target accepted).2.2 := by
  unfold answer
  split
  · split
    · dsimp only
      refine ⟨fun request h => ?_, ?_⟩
      · rw [send_snd] at h
        cases h
      · rw [List.filter_cons_of_neg (by exact Bool.false_ne_true)]
        split <;> rfl
    · exact ⟨.of_eq rfl, rfl⟩
  · exact ⟨.of_eq rfl, rfl⟩

end State

namespace Task

theorem calm_abandonFocus (s : State) (focus : Focus) :
    s.Calm (abandonFocus s focus).1 (abandonFocus s focus).2 := by
  cases focus with
  | confirming inv => exact s.calm_leaveWait inv.id
  | handling inv =>
    refine ⟨.of_eq ?_, rfl⟩
    rw [abandonFocus, State.endLoading_eq]
  | entering | leaving => exact ⟨.of_eq rfl, rfl⟩

theorem calm_abandon (s : State) (t : Task) : s.Calm (t.abandon s).1 (t.abandon s).2 := by
  obtain ⟨loading, hframes⟩ := exists_abandonFrames_eq (abandonFocus s t.focus).1 t.stack
  have hfocus := calm_abandonFocus s t.focus
  refine ⟨hfocus.retains.trans (.of_eq ?_), hfocus.unnoted⟩
  change (abandonFrames (abandonFocus s t.focus).1 t.stack).shown = _
  rw [hframes]

end Task

/-! ## Invocations -/

def Focus.invs : Focus → List Invocation
  | .confirming inv | .handling inv _ _ => [inv]
  | .entering _ _ | .leaving _ => []

/-- The invocations of a task that have not ended, the innermost first. -/
def Task.invs (t : Task) : List Invocation := t.focus.invs ++ t.stack.map Frame.inv

def System.invs (y : System) : List Invocation := y.tasks.flatMap Task.invs

/-- An invocation of an action, resolved against a model. -/
structure Invocation.Of (ex : Executor) (inv : Invocation) (action : Action) (model : Value) :
    Prop where
  action_eq : inv.action = action.resolve model
  handler : ex.registry.handler? action.name = some inv.handler

/-- The request by which an invocation asks to be confirmed. -/
def Invocation.request (inv : Invocation) (confirm : ConfirmSpec) : Request :=
  ⟨inv.id, inv.action.name, confirm⟩

/-- The handler of an invocation is about to begin, with the parameters of the invocation. -/
def System.Runs (y : System) (inv : Invocation) : Prop :=
  ∃ t ∈ y.tasks, ∃ deadline, t.focus =
    .handling inv deadline (.running (inv.handler inv.action.params))

theorem Task.invs_singleton (s : State) (t : Task) : (⟨s, [t]⟩ : System).invs = t.invs :=
  List.append_nil t.invs

/-- What is done between two states of a system for an invocation, if anything. The events tell
all of it. -/
inductive System.Deed (ex : Executor) (y y' : System) : List Event → Prop where
  | nothing : y'.invs ⊆ y.invs → y.state.Retains y'.state → Deed ex y y' []
  | ask {inv : Invocation} {action : Action} {confirm : ConfirmSpec} :
      inv.id = y.state.nextId → inv.Of ex action y.state.model →
      inv.action.confirm = some confirm → y.state.nextId < y'.state.nextId →
      y'.invs ⊆ inv :: y.invs → y'.state.shown = some (inv.request confirm) →
      Deed ex y y' [.started inv.id action y.state.model, .shown (some (inv.request confirm))]
  | call {inv : Invocation} {action : Action} :
      inv.id = y.state.nextId → inv.Of ex action y.state.model →
      inv.action.confirm = none → y.state.nextId < y'.state.nextId →
      y'.invs ⊆ inv :: y.invs → y.state.Retains y'.state → y'.Runs inv →
      Deed ex y y' [.started inv.id action y.state.model,
        .called inv.id inv.action.name inv.action.params]
  | pass {inv : Invocation} : inv ∈ y.invs → y'.invs ⊆ y.invs → y.state.Retains y'.state →
      y'.Runs inv → Deed ex y y' [.called inv.id inv.action.name inv.action.params]
  | settle {link : Link} : link.inv ∈ y.invs → y'.invs ⊆ y.invs → y.state.Retains y'.state →
      y'.state.model = Model.setAll y.state.model (link.writes ex) →
      Deed ex y y' (.settled link.inv.id link.result :: link.closing ex y.state.model)

namespace System

theorem invs_subset {s s' : State} {tasks more : List Task} (h : tasks ⊆ more) :
    (⟨s, tasks⟩ : System).invs ⊆ (⟨s', more⟩ : System).invs := by
  intro inv hinv
  obtain ⟨t, ht, hmem⟩ := List.mem_flatMap.mp hinv
  exact List.mem_flatMap.mpr ⟨t, h ht, hmem⟩

/-- What is done for an invocation among some tasks is done for it among more of them. -/
theorem Deed.mono {ex : Executor} {s s' : State} {tasks tasks' more more' : List Task}
    {events : List Event} (h : Deed ex ⟨s, tasks⟩ ⟨s', tasks'⟩ events) (hold : tasks ⊆ more)
    (hnew : tasks' ⊆ more') (hrest : more' ⊆ tasks' ++ more) :
    Deed ex ⟨s, more⟩ ⟨s', more'⟩ events := by
  have hlive : ∀ new : List Invocation,
      (⟨s', tasks'⟩ : System).invs ⊆ new ++ (⟨s, tasks⟩ : System).invs →
      (⟨s', more'⟩ : System).invs ⊆ new ++ (⟨s, more⟩ : System).invs := by
    intro new hsub inv hinv
    obtain ⟨t, ht, hmem⟩ := List.mem_flatMap.mp hinv
    obtain hmoved | hstayed := List.mem_append.mp (hrest ht)
    · obtain hfresh | hkept := List.mem_append.mp (hsub (List.mem_flatMap.mpr ⟨t, hmoved, hmem⟩))
      · exact List.mem_append_left _ hfresh
      · exact List.mem_append_right _ (invs_subset hold hkept)
    · exact List.mem_append_right _ (List.mem_flatMap.mpr ⟨t, hstayed, hmem⟩)
  have hruns : ∀ {inv : Invocation}, (⟨s', tasks'⟩ : System).Runs inv →
      (⟨s', more'⟩ : System).Runs inv := by
    rintro inv ⟨t, ht, hfocus⟩
    exact ⟨t, hnew ht, hfocus⟩
  cases h with
  | nothing hsub hretains => exact .nothing (hlive [] hsub) hretains
  | ask hid hof hconfirm hnext hsub hshown =>
    exact .ask hid hof hconfirm hnext (hlive [_] hsub) hshown
  | call hid hof hconfirm hnext hsub hretains hcalled =>
    exact .call hid hof hconfirm hnext (hlive [_] hsub) hretains (hruns hcalled)
  | pass hinv hsub hretains hcalled =>
    exact .pass (invs_subset hold hinv) (hlive [] hsub) hretains (hruns hcalled)
  | settle hinv hsub hretains hmodel =>
    exact .settle (invs_subset hold hinv) (hlive [] hsub) hretains hmodel

end System

/-! ## Moves -/

namespace Task

/-- What the move of a task does for an invocation. -/
def Does (ex : Executor) (s : State) (t : Task) (move : Move) : Prop :=
  System.Deed ex ⟨s, [t]⟩ ⟨move.state, [move.task]⟩ (move.events.filter Event.isNotable)

variable {ex : Executor} {s : State} {t : Task} {move : Move}

theorem does_nothing (hinvs : move.task.invs ⊆ t.invs) (hcalm : s.Calm move.state move.events) :
    Does ex s t move := by
  rw [Does, hcalm.unnoted]
  refine .nothing ?_ hcalm.retains
  rwa [invs_singleton, invs_singleton]

theorem shown_settle (s : State) (inv : Invocation) (result : Except String Unit)
    (stack : List Frame) : (settle ex s inv result stack).state.shown = s.shown := by
  have happly : ∀ effect message outcome,
      (apply ex s inv effect message outcome stack).state.shown = s.shown := by
    intro effect message outcome
    obtain ⟨model, hstate, -⟩ | ⟨hstate, -⟩ :=
      apply_cases ex s inv effect message outcome stack
    · rw [hstate, State.endLoading_eq]
    · rw [hstate]
  cases result with
  | ok => exact happly _ _ _
  | error => exact happly _ _ _

/-- A handler that settles has its effect applied, be it that it chains to another action. -/
theorem settled (ex : Executor) (s : State) (link : Link) (stack : List Frame) :
    let move := settle ex s link.inv link.result stack
    move.events = .settled link.inv.id link.result :: link.closing ex s.model ∧
      move.task.invs ⊆ link.inv :: stack.map Frame.inv := by
  obtain ⟨name, hnext, htask, hevents⟩ | ⟨-, htask, hevents⟩ := settle_cases ex s link stack
  · refine ⟨?_, by rw [htask]; exact List.Subset.refl _⟩
    have hclosing : link.closing ex s.model = [] := by
      unfold Link.next? at hnext
      unfold Link.closing
      split at hnext
      · rename_i heffect
        rw [heffect]
      · cases hnext
    rw [hevents, hclosing]
  · exact ⟨hevents, by rw [htask]; exact List.subset_cons_self _ _⟩

theorem does_settle (link : Link) (events : List Event) {frames : List Frame} {s' : State}
    (hcalm : s.Calm s' events) (hmodel : s'.model = s.model)
    (hinvs : link.inv :: frames.map Frame.inv ⊆ t.invs)
    (hmove : move = { settle ex s' link.inv link.result frames with
      events := events ++ (settle ex s' link.inv link.result frames).events }) :
    Does ex s t move := by
  obtain ⟨hevents, hsub⟩ := settled ex s' link frames
  have hnotable : move.events.filter Event.isNotable =
      .settled link.inv.id link.result :: link.closing ex s.model := by
    rw [hmove, hevents, hmodel, List.filter_append, hcalm.unnoted, List.nil_append,
      List.filter_cons_of_pos rfl, link.filter_closing]
  rw [Does, hnotable]
  refine .settle ?_ ?_ ?_ ?_
  · rw [invs_singleton]
    exact hinvs (List.mem_cons_self ..)
  · rw [invs_singleton, invs_singleton, hmove]
    exact List.Subset.trans hsub hinvs
  · rw [hmove]
    exact hcalm.retains.trans (.of_eq (shown_settle s' link.inv link.result frames))
  · rw [hmove, ← hmodel]
    exact model_settle ex s' link frames

theorem does_expireAround (h : expireAround? ex s t = some move) : Does ex s t move := by
  unfold expireAround? at h
  split at h
  · rename_i found inv outside hfound
    obtain ⟨deadline, next, -, heq⟩ := overdueFrame?_eq_some s hfound
    rw [List.reverse_nil, List.nil_append] at heq
    refine does_settle ⟨inv, .error (timeoutMessage ex inv)⟩ _
      (calm_abandon s ⟨t.focus, found.reverse⟩) (model_abandon ..) ?_ (Option.some.inj h).symm
    rw [invs, heq, List.map_append]
    exact List.Subset.trans (List.subset_append_right _ _) (List.subset_append_right _ _)
  · cases h

theorem does_expire (h : expire? ex s t = some move) : Does ex s t move := by
  unfold expire? at h
  split at h
  · rename_i inv deadline activity hfocus
    split at h
    · refine does_settle ⟨inv, .error (timeoutMessage ex inv)⟩ [] ⟨.of_eq rfl, rfl⟩ rfl ?_
        (Option.some.inj h).symm
      rw [invs, hfocus]
      exact List.Subset.refl _
    · exact does_expireAround h
  · exact does_expireAround h

/-- A new invocation asks to be confirmed, or its handler is called at once. -/
theorem does_enter {action : Action} {depth : Nat} (hfocus : t.focus = .entering action depth) :
    Does ex s t (enter ex s action depth t.stack) := by
  have hkept : t.invs = t.stack.map Frame.inv := by rw [invs, hfocus]; rfl
  unfold enter
  split
  · refine does_nothing ?_ ⟨.of_eq rfl, rfl⟩
    rw [hkept]
    exact List.Subset.refl _
  split
  · refine does_nothing ?_ ⟨.of_eq rfl, rfl⟩
    rw [hkept]
    exact List.Subset.refl _
  rename_i handler hhandler
  dsimp only
  generalize hinv : Invocation.mk s.nextId (action.resolve s.model) depth handler = inv
  have hid : inv.id = s.nextId := by rw [← hinv]
  have hof : inv.Of ex action s.model := by subst hinv; exact ⟨rfl, hhandler⟩
  rw [Does, ← hid]
  cases hconfirm : inv.action.confirm with
  | some confirm =>
    rw [begin_of_confirm ex _ hconfirm]
    have hnotable : ((.started inv.id action s.model :: (({ s with nextId := inv.id + 1 }.ask
        (inv.request confirm)).2) : List Event).filter Event.isNotable) =
          [.started inv.id action s.model, .shown (some (inv.request confirm))] := by
      rw [List.filter_cons_of_pos rfl, State.ask, List.filter_append, State.filter_supersede]
      rfl
    refine hnotable ▸ .ask hid hof hconfirm ?_ ?_ ?_
    · rw [State.ask_fst, hid]
      exact Nat.lt_succ_self _
    · rw [invs_singleton, invs_singleton, hkept]
      exact List.Subset.refl _
    · rw [State.ask_fst]
      rfl
  | none =>
    rw [begin_of_no_confirm ex _ hconfirm]
    obtain ⟨timers, hstate⟩ := call_state ex { s with nextId := inv.id + 1 } inv t.stack
    refine .call hid hof hconfirm ?_ ?_ ?_ ⟨_, List.mem_singleton_self _, _, rfl⟩
    · rw [hstate, hid]
      exact Nat.lt_succ_self _
    · rw [invs_singleton, invs_singleton, hkept]
      exact List.Subset.refl _
    · rw [hstate]
      exact .of_eq rfl

/-- Whoever has got a reply has its handler called, or ends. -/
theorem does_reply {inv : Invocation} {reply : Reply} (hfocus : t.focus = .confirming inv)
    (hreply : s.reply? inv.id = some reply) (h : t.step ex s = some move) : Does ex s t move := by
  have hkept : t.invs = inv :: t.stack.map Frame.inv := by rw [invs, hfocus]; rfl
  have hcalm := s.calm_leaveWait inv.id
  cases reply with
  | accepted =>
    simp only [step, hfocus, hreply] at h
    obtain rfl := Option.some.inj h
    obtain ⟨timers, hstate⟩ := call_state ex (s.leaveWait inv.id).1 inv t.stack
    rw [Does, List.filter_append, hcalm.unnoted]
    refine .pass ?_ ?_ ?_ ⟨_, List.mem_singleton_self _, _, rfl⟩
    · rw [invs_singleton, hkept]
      exact List.mem_cons_self ..
    · rw [invs_singleton, invs_singleton, hkept]
      exact List.Subset.refl _
    · rw [hstate]
      exact hcalm.retains.trans (.of_eq rfl)
  | declined | closed =>
    simp only [step, hfocus, hreply] at h
    obtain rfl := Option.some.inj h
    refine does_nothing ?_ ⟨hcalm.retains, ?_⟩
    · rw [hkept]
      exact List.subset_cons_self _ _
    · rw [List.append_nil]
      exact hcalm.unnoted

theorem does_work {inv : Invocation} {deadline : Option Timer} {program : Program}
    (hfocus : t.focus = .handling inv deadline (.running program)) :
    Does ex s t (work ex s inv deadline program t.stack) := by
  have hkept : t.invs = inv :: t.stack.map Frame.inv := by rw [invs, hfocus]; rfl
  have hsettle : ∀ result, Does ex s t (settle ex s inv result t.stack) := by
    intro result
    refine does_settle ⟨inv, result⟩ [] ⟨.of_eq rfl, rfl⟩ rfl ?_ rfl
    rw [hkept]
    exact List.Subset.refl _
  have hgoes : ∀ {move : Move}, move.task.invs = inv :: t.stack.map Frame.inv →
      s.Calm move.state move.events → Does ex s t move := by
    intro move hinvs hcalm
    refine does_nothing ?_ hcalm
    rw [hinvs, hkept]
    exact List.Subset.refl _
  cases program with
  | finish => exact hsettle (.ok ())
  | fail message => exact hsettle (.error message)
  | answer id accepted next =>
    have hcalm := s.calm_answer id accepted
    refine hgoes rfl ⟨hcalm.retains, ?_⟩
    rw [work, List.filter_append, hcalm.unnoted]
    rfl
  | write | observe | execute | sleep | park => exact hgoes rfl ⟨.of_eq rfl, rfl⟩

theorem does_resume {result : ActionResult} {frame : Frame} {stack : List Frame}
    (hfocus : t.focus = .leaving result) (hstack : t.stack = frame :: stack) :
    Does ex s t (resume s result frame stack) := by
  have hkept : t.invs = frame.inv :: stack.map Frame.inv := by rw [invs, hfocus, hstack]; rfl
  cases frame with
  | chained inv outcome =>
    refine does_nothing ?_ ⟨.of_eq ?_, rfl⟩
    · rw [hkept]
      exact List.subset_cons_self _ _
    · rw [resume, State.endLoading_eq]
  | nested inv deadline next =>
    refine does_nothing ?_ ⟨.of_eq rfl, rfl⟩
    rw [hkept]
    exact List.Subset.refl _

/-- Each move of a task does something for one of its invocations, or nothing for any. -/
theorem does_of_possible {m : Moment} (h : m.Possible ex) : Does ex m.state m.task m.move := by
  cases h with
  | step h =>
    cases hfocus : m.task.focus with
    | entering action depth =>
      simp only [step, hfocus] at h
      exact Option.some.inj h ▸ does_enter hfocus
    | confirming inv =>
      cases hreply : m.state.reply? inv.id with
      | some reply => exact does_reply hfocus hreply h
      | none =>
        simp only [step, hfocus, hreply] at h
        exact does_expire h
    | handling inv deadline activity =>
      simp only [step, hfocus] at h
      cases activity with
      | running program => exact Option.some.inj h ▸ does_work hfocus
      | asleep timer next =>
        dsimp only at h
        split at h
        · rw [← Option.some.inj h]
          refine does_nothing ?_ ⟨.of_eq rfl, rfl⟩
          rw [invs, invs, hfocus]
          exact List.Subset.refl _
        · exact does_expire h
      | parked next => exact does_expire h
    | leaving result =>
      simp only [step, hfocus] at h
      split at h
      · rename_i frame stack hstack
        exact Option.some.inj h ▸ does_resume hfocus hstack
      · cases h
  | unpark program h =>
    unfold unpark? at h
    split at h
    · rename_i inv deadline next hfocus
      rw [← Option.some.inj h]
      refine does_nothing ?_ ⟨.of_eq rfl, rfl⟩
      rw [invs, invs, hfocus]
      exact List.Subset.refl _
    · cases h
  | interrupt frames program h =>
    unfold interrupt? at h
    split at h
    · rename_i inv deadline next outside hdrop
      rw [← Option.some.inj h]
      refine does_nothing ?_ (calm_abandon _ _)
      have hstack : m.task.stack = m.task.stack.take frames ++
          .nested inv deadline next :: outside := by
        rw [← hdrop, List.take_append_drop]
      rw [invs, invs, hstack, List.map_append]
      exact List.Subset.trans (List.subset_append_right _ _) (List.subset_append_right _ _)
    · cases h

end Task

/-! ## Steps of a run -/

namespace System

variable {ex : Executor}

/-- What the move of a task does, it does in whatever company. -/
theorem deed_follow {y : System} {i : Nat} {move? : Task → Option Move}
    (h : ∀ t move, move? t = some move → Task.Does ex y.state t move) :
    let moved := y.follow i ((y.tasks[i]?).bind move?)
    Deed ex y moved.1 (moved.2.filter Event.isNotable) := by
  intro moved
  cases hmove : (y.tasks[i]?).bind move? with
  | none =>
    have hmoved : moved = (y, []) := by simp only [moved, hmove, follow]
    rw [hmoved]
    exact .nothing (List.Subset.refl _) (.of_eq rfl)
  | some move =>
    obtain ⟨t, ht, hmove?⟩ := Option.bind_eq_some_iff.mp hmove
    obtain ⟨hlt, -⟩ := List.getElem?_eq_some_iff.mp ht
    have hmoved : moved = (⟨move.state, y.tasks.set i move.task⟩, move.events) := by
      simp only [moved, hmove, follow]
    rw [hmoved]
    refine (h t move hmove?).mono ?_ ?_ ?_
    · exact List.cons_subset.mpr ⟨List.mem_of_getElem? ht, List.nil_subset _⟩
    · exact List.cons_subset.mpr ⟨List.mem_set hlt _, List.nil_subset _⟩
    · intro u hu
      obtain hother | rfl := List.mem_or_eq_of_mem_set hu
      · exact List.mem_cons_of_mem _ hother
      · exact List.mem_cons_self ..

/-- Each step of a run does something for one invocation, or nothing for any. -/
theorem deed_step (ex : Executor) (y : System) (a : Act) :
    Deed ex y (y.step ex a).after ((y.step ex a).events.filter Event.isNotable) := by
  cases a with
  | start action =>
    refine .nothing ?_ (.of_eq rfl)
    change (y.tasks ++ [Task.ofAction action]).flatMap Task.invs ⊆ y.invs
    rw [List.flatMap_append]
    exact List.append_subset.mpr ⟨List.Subset.refl _, List.nil_subset _⟩
  | answer target accepted =>
    have hcalm := y.state.calm_answer target accepted
    have hevents : (y.step ex (.answer target accepted)).events =
        (y.state.answer target accepted).2.2 := rfl
    rw [hevents, hcalm.unnoted]
    exact .nothing (List.Subset.refl _) hcalm.retains
  | move i => exact deed_follow fun t move h => Task.does_of_possible (m := ⟨_, t, move⟩) (.step h)
  | release i program =>
    exact deed_follow fun t move h => Task.does_of_possible (m := ⟨_, t, move⟩) (.unpark program h)
  | interrupt i frames program =>
    exact deed_follow fun t move h =>
      Task.does_of_possible (m := ⟨_, t, move⟩) (.interrupt frames program h)
  | drop i =>
    cases hi : y.tasks[i]? with
    | none =>
      have hstep : y.step ex (.drop i) = ⟨y, .drop i, y, []⟩ := by simp only [step, perform, hi]
      rw [hstep]
      exact .nothing (List.Subset.refl _) (.of_eq rfl)
    | some t =>
      have hstep : y.step ex (.drop i) = ⟨y, .drop i,
          ⟨(t.abandon y.state).1, y.tasks.eraseIdx i⟩, (t.abandon y.state).2⟩ := by
        simp only [step, perform, hi]
      have hcalm := Task.calm_abandon y.state t
      rw [hstep, hcalm.unnoted]
      exact .nothing (invs_subset (List.eraseIdx_subset ..)) hcalm.retains
  | elapse | change => exact .nothing (List.Subset.refl _) (.of_eq rfl)

end System

end ScreenLogic
