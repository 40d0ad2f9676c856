import ScreenLogic.Proofs.Executor.Deeds

/-!
# What was shown is what runs

An invocation is resolved once, against the model as it is when the invocation begins. The
request by which it asks to be confirmed and the parameters that its handler gets are those
of that one model, whatever becomes of the model while it waits. What it does in the end is
not resolved along with that. A page is opened by the model as it is then, and values are
written as the action has them.

## Main definitions

* `Config.written`: the entries of a `set` effect, as they are written after a result.
* `Snapshot`: an invocation runs by the model that it began in.

## Main statements

* `System.snapshot_run`: in every run, each invocation runs by the model that it began in.
-/

namespace ScreenLogic

/-- The effect for the side on which a handler settles. -/
def Action.effect (action : Action) : Except String Unit → Option Effect
  | .ok () => action.onSuccess
  | .error _ => action.onError

theorem Link.effect_of_resolved {link : Link} {action : Action} {model : Value}
    (h : link.inv.action = action.resolve model) : link.effect = action.effect link.result := by
  rw [effect, h]
  cases link.result <;> rfl

/-- The entries of a `set` effect, as they are written after a result. They stand as they are,
save that after an error which has a message the sentinel gives way to it. -/
def Config.written (c : Config) (result : Except String Unit) (entries : Fields Value) :
    Fields Value :=
  match result with
  | .ok () => entries
  | .error message =>
    if message = "" then entries
    else entries.map fun entry =>
      if entry.2 = .str c.errorMessageSentinel then (entry.1, .str message) else entry

/-- Whatever the result, the values are written at the same paths. -/
theorem Config.map_fst_written (c : Config) (result : Except String Unit)
    (entries : Fields Value) :
    (c.written result entries).map Prod.fst = entries.map Prod.fst := by
  unfold written
  split
  · rfl
  split
  · rfl
  · rw [List.map_map]
    refine List.map_congr_left fun entry _ => ?_
    dsimp only [Function.comp]
    split <;> rfl

theorem Config.written_error (c : Config) (message : String) (entries : Fields Value) :
    c.written (.error message) entries = entries.map fun entry =>
      if message ≠ "" ∧ entry.2 = .str c.errorMessageSentinel then (entry.1, .str message)
      else entry := by
  unfold written
  by_cases hmessage : message = ""
  · have hkept : (fun entry : String × Value =>
        if message ≠ "" ∧ entry.2 = .str c.errorMessageSentinel then (entry.1, .str message)
        else entry) = id :=
      funext fun _ => if_neg fun h => h.1 hmessage
    rw [hkept, List.map_id]
    exact if_pos hmessage
  · simp only [hmessage, if_false, ne_eq, not_false_eq_true, true_and]

theorem Link.writes_eq {ex : Executor} {link : Link} {entries : Fields Value}
    (h : link.effect = some (.set entries)) :
    link.writes ex = ex.config.written link.result entries := by
  have hkept : Fields.mapValues (Task.substitute ex.config.errorMessageSentinel none) entries =
      entries := List.map_id entries
  simp only [writes, h, message, Config.written]
  cases link.result with
  | ok => exact hkept
  | error message =>
    dsimp only
    split
    · exact hkept
    · refine List.map_congr_left fun entry _ => ?_
      simp only [Task.substitute]
      split <;> rfl

/-- A request asks what an action wants to be asked, filled in from a model. -/
def Request.Of (request : Request) (action : Action) (model : Value) : Prop :=
  request.action = action.name ∧ ∃ spec, action.confirm = some spec ∧
    request.confirm = { spec with
      title := Template.fill model spec.title
      message := Template.fill model spec.message }

theorem Invocation.Of.request {ex : Executor} {inv : Invocation} {action : Action} {model : Value}
    (h : inv.Of ex action model) {confirm : ConfirmSpec}
    (hconfirm : inv.action.confirm = some confirm) :
    (inv.request confirm).Of action model := by
  rw [h.action_eq] at hconfirm
  obtain ⟨spec, hspec, rfl⟩ := Option.map_eq_some_iff.mp hconfirm
  exact ⟨congrArg ResolvedAction.name h.action_eq, spec, hspec, rfl⟩

/-! ## What a deed tells -/

namespace System.Deed

variable {ex : Executor} {y y' : System} {events : List Event} (h : Deed ex y y' events)
include h

theorem of_mem_invs {inv : Invocation} (hinv : inv ∈ y'.invs) :
    inv ∈ y.invs ∨ ∃ action, .started inv.id action y.state.model ∈ events ∧
      inv.Of ex action y.state.model := by
  cases h with
  | nothing hsub | pass _ hsub | settle _ hsub => exact .inl (hsub hinv)
  | ask _ hof _ _ hsub | call _ hof _ _ hsub =>
    obtain rfl | hold := List.mem_cons.mp (hsub hinv)
    · exact .inr ⟨_, List.mem_cons_self .., hof⟩
    · exact .inl hold

theorem of_shown {request : Request} (hrequest : y'.state.shown = some request) :
    y.state.shown = some request ∨ .shown (some request) ∈ events := by
  cases h with
  | nothing _ hretains | call _ _ _ _ _ hretains | pass _ _ hretains | settle _ _ hretains =>
    exact .inl (hretains request hrequest)
  | ask _ _ _ _ _ hshown =>
    obtain rfl := Option.some.inj (hshown.symm.trans hrequest)
    exact .inr (List.mem_cons_of_mem _ (List.mem_singleton_self _))

/-- An invocation that begins is the only one to do so, and asks at once if it has to. -/
theorem of_mem_started {id : InvocationId} {action : Action} {model : Value}
    (he : .started id action model ∈ events) :
    id = y.state.nextId ∧ id < y'.state.nextId ∧ model = y.state.model ∧
      (∀ id action' model, .started id action' model ∈ events → action' = action) ∧
      (action.confirm.isSome → ∃ request, .shown (some request) ∈ events ∧ request.id = id) := by
  cases h with
  | nothing => cases he
  | @ask inv action' confirm hid hof hconfirm hnext hsub hshown =>
    simp only [List.mem_cons, Event.started.injEq, reduceCtorEq, List.not_mem_nil, or_false] at he
    obtain ⟨rfl, rfl, rfl⟩ := he
    refine ⟨hid, hid ▸ hnext, rfl, fun _ _ _ he => ?_, fun _ => ?_⟩
    · simp only [List.mem_cons, Event.started.injEq, reduceCtorEq, List.not_mem_nil, or_false] at he
      exact he.2.1
    · exact ⟨inv.request confirm, List.mem_cons_of_mem _ (List.mem_singleton_self _), rfl⟩
  | @call inv action' hid hof hconfirm hnext =>
    simp only [List.mem_cons, Event.started.injEq, reduceCtorEq, List.not_mem_nil, or_false] at he
    obtain ⟨rfl, rfl, rfl⟩ := he
    refine ⟨hid, hid ▸ hnext, rfl, fun _ _ _ he => ?_, fun hgated => ?_⟩
    · simp only [List.mem_cons, Event.started.injEq, reduceCtorEq, List.not_mem_nil, or_false] at he
      exact he.2.1
    · rw [hof.action_eq] at hconfirm
      rw [Option.map_eq_none_iff.mp hconfirm] at hgated
      cases hgated
  | pass => cases List.mem_singleton.mp he
  | settle =>
    obtain he | he := List.mem_cons.mp he
    · cases he
    · cases Link.isEffect_of_mem_closing he

theorem of_mem_shown {request : Request} (he : .shown (some request) ∈ events) :
    ∃ (inv : Invocation) (action : Action) (confirm : ConfirmSpec),
      .started inv.id action y.state.model ∈ events ∧
      inv.Of ex action y.state.model ∧ inv.action.confirm = some confirm ∧
      request = inv.request confirm := by
  cases h with
  | nothing => cases he
  | @ask inv action confirm _ hof hconfirm =>
    simp only [List.mem_cons, Event.shown.injEq, Option.some.injEq, reduceCtorEq, List.not_mem_nil,
      false_or, or_false] at he
    exact ⟨inv, action, confirm, List.mem_cons_self .., hof, hconfirm, he⟩
  | call => simp at he
  | pass => simp at he
  | settle =>
    obtain he | he := List.mem_cons.mp he
    · cases he
    · cases Link.isEffect_of_mem_closing he

theorem of_mem_called {id : InvocationId} {name : String} {params : Fields Value}
    (he : .called id name params ∈ events) :
    ∃ inv, y'.Runs inv ∧ inv.id = id ∧ inv.action.name = name ∧ inv.action.params = params := by
  cases h with
  | nothing => cases he
  | ask => simp at he
  | @call inv _ _ _ _ _ _ _ hruns =>
    simp only [List.mem_cons, Event.called.injEq, reduceCtorEq, List.not_mem_nil, false_or,
      or_false] at he
    obtain ⟨rfl, rfl, rfl⟩ := he
    exact ⟨inv, hruns, rfl, rfl, rfl⟩
  | @pass inv _ _ _ hruns =>
    simp only [List.mem_singleton, Event.called.injEq] at he
    obtain ⟨rfl, rfl, rfl⟩ := he
    exact ⟨inv, hruns, rfl, rfl, rfl⟩
  | settle =>
    obtain he | he := List.mem_cons.mp he
    · cases he
    · cases Link.isEffect_of_mem_closing he

theorem of_mem_settled {id : InvocationId} {result : Except String Unit}
    (he : .settled id result ∈ events) :
    ∃ link : Link, link.inv ∈ y.invs ∧ link.inv.id = id ∧ link.result = result ∧
      y'.state.model = Model.setAll y.state.model (link.writes ex) ∧
      events = .settled id result :: link.closing ex y.state.model := by
  cases h with
  | nothing => cases he
  | ask => simp at he
  | call => simp at he
  | pass => simp at he
  | @settle link hinv _ _ hmodel =>
    obtain he | he := List.mem_cons.mp he
    · obtain ⟨rfl, rfl⟩ := Event.settled.inj he
      exact ⟨link, hinv, rfl, rfl, hmodel, rfl⟩
    · cases Link.isEffect_of_mem_closing he

end System.Deed

/-! ## What a run has on record -/

/-- An invocation runs by the model that it began in. -/
structure Recorded (ex : Executor) (seen : List Event) (y : System) : Prop where
  known : ∀ id action model, .started id action model ∈ seen → id < y.state.nextId
  once : ∀ id action model action' model', .started id action model ∈ seen →
    .started id action' model' ∈ seen → action' = action ∧ model' = model
  invs : ∀ inv ∈ y.invs, ∃ action model, .started inv.id action model ∈ seen ∧
    inv.Of ex action model
  shown : ∀ request, y.state.shown = some request → ∃ action model,
    .started request.id action model ∈ seen ∧ request.Of action model

namespace System

variable (ex : Executor)

theorem recorded_step {seen : List Event} {y : System} (h : Recorded ex seen y) (a : Act) :
    Recorded ex (seen ++ (y.step ex a).events) (y.step ex a).after := by
  have hdeed := deed_step ex y a
  have hnext := (step_frame ex y a).1
  generalize (y.step ex a).events = events at hdeed ⊢
  generalize (y.step ex a).after = y' at hdeed hnext ⊢
  have hmem : ∀ {e : Event}, e.isNotable → (e ∈ events ↔ e ∈ events.filter Event.isNotable) :=
    fun hnotable => by rw [List.mem_filter, and_iff_left hnotable]
  have hnew : ∀ {e : Event}, e ∈ events.filter Event.isNotable → e ∈ seen ++ events :=
    fun he => List.mem_append_right _ (List.mem_of_mem_filter he)
  -- a number that is given out now was not given out before
  have hfresh : ∀ {id action model action' model'}, .started id action model ∈ seen →
      .started id action' model' ∉ events := by
    intro id action model action' model' hold he
    obtain ⟨hid, -⟩ := hdeed.of_mem_started ((hmem rfl).mp he)
    exact (h.known id action model hold).ne hid
  refine ⟨?_, ?_, ?_, ?_⟩
  · intro id action model he
    obtain hold | he := List.mem_append.mp he
    · exact (h.known id action model hold).trans_le hnext
    · exact (hdeed.of_mem_started ((hmem rfl).mp he)).2.1
  · intro id action model action' model' he he'
    obtain hold | he := List.mem_append.mp he <;> obtain hold' | he' := List.mem_append.mp he'
    · exact h.once id action model action' model' hold hold'
    · exact absurd he' (hfresh hold)
    · exact absurd he (hfresh hold')
    · obtain ⟨-, -, rfl, honce, -⟩ := hdeed.of_mem_started ((hmem rfl).mp he)
      have he' := (hmem rfl).mp he'
      exact ⟨honce _ _ _ he', (hdeed.of_mem_started he').2.2.1⟩
  · intro inv hinv
    obtain hold | ⟨action, he, hof⟩ := hdeed.of_mem_invs hinv
    · obtain ⟨action, model, he, hof⟩ := h.invs inv hold
      exact ⟨action, model, List.mem_append_left _ he, hof⟩
    · exact ⟨action, y.state.model, hnew he, hof⟩
  · intro request hrequest
    obtain hold | hasked := hdeed.of_shown hrequest
    · obtain ⟨action, model, he, hof⟩ := h.shown request hold
      exact ⟨action, model, List.mem_append_left _ he, hof⟩
    · obtain ⟨inv, action, confirm, he, hof, hconfirm, rfl⟩ := hdeed.of_mem_shown hasked
      exact ⟨action, y.state.model, hnew he, hof.request hconfirm⟩

theorem recorded_run (model : Value) (acts : List Act) :
    Recorded ex (story ((init model).steps ex acts)) ((init model).run ex acts) := by
  refine run_induction ex (motive := fun steps y => Recorded ex (story steps) y) ?_ ?_ acts
  · exact ⟨fun _ _ _ he => absurd he List.not_mem_nil,
      fun _ _ _ _ _ he => absurd he List.not_mem_nil,
      List.forall_mem_nil _, fun _ hrequest => by cases hrequest⟩
  · intro steps y a h
    rw [story_append, story_singleton]
    exact recorded_step ex h a

end System

/-! ## Snapshots -/

/-- The invocation that an event is about, if it is shown, called or has settled. -/
def Event.about? : Event → Option InvocationId
  | .shown (some request) => some request.id
  | .called id _ _ | .settled id _ => some id
  | _ => none

/-- In the steps of a run, an invocation of an action runs by one model. -/
structure Snapshot (ex : Executor) (steps : List Step) (id : InvocationId) (action : Action)
    (model : Value) : Prop where
  /-- It is the model as the invocation begins, and whatever is to be confirmed is shown then. -/
  begun : ∃ st ∈ steps, .started id action model ∈ st.events ∧ st.before.state.model = model ∧
    (action.confirm.isSome → ∃ request, .shown (some request) ∈ st.events ∧ request.id = id)
  once : ∀ action' model', .started id action' model' ∈ story steps →
    action' = action ∧ model' = model
  published : ∀ request, .shown (some request) ∈ story steps → request.id = id →
    request.Of action model
  shown : ∀ st ∈ steps, ∀ request, st.after.state.shown = some request → request.id = id →
    request.Of action model
  /-- The handler of the action is called with the parameters. -/
  called : ∀ st ∈ steps, ∀ name params, .called id name params ∈ st.events →
    name = action.name ∧ params = Binding.resolveAll model action.params ∧
      ∃ handler, ex.registry.handler? action.name = some handler ∧ ∃ t ∈ st.after.tasks,
        ∃ inv deadline, inv.id = id ∧
          t.focus = .handling inv deadline (.running (handler params))
  /-- A page is opened by the model as it is when the handler has settled. -/
  opened : ∀ st ∈ steps, ∀ result target, .settled id result ∈ st.events →
    action.effect result = some (.navigate target) →
      st.events.filter Event.isEffect =
        match target.resolve st.before.state.model with
        | none | some .null => []
        | some v => [.navigated (Value.display (some v))]
  /-- Values are written as the action has them, whatever the model is. -/
  written : ∀ st ∈ steps, ∀ result entries, .settled id result ∈ st.events →
    action.effect result = some (.set entries) →
      (st.events.filter Event.isEffect =
        (ex.config.written result entries).map fun write => .wrote write.1 write.2) ∧
      st.after.state.model =
        Model.setAll st.before.state.model (ex.config.written result entries)

theorem System.Runs.mem_invs {y : System} {inv : Invocation} (h : y.Runs inv) : inv ∈ y.invs := by
  obtain ⟨t, ht, deadline, hfocus⟩ := h
  refine List.mem_flatMap.mpr ⟨t, ht, ?_⟩
  rw [Task.invs, hfocus]
  exact List.mem_cons_self ..

/-- The effect of an invocation that settles is applied, and nothing else is. -/
theorem System.Deed.filter_isEffect {ex : Executor} {y y' : System} {events : List Event}
    {id : InvocationId} {result : Except String Unit}
    (h : Deed ex y y' (events.filter Event.isNotable)) (he : .settled id result ∈ events) :
    ∃ link : Link, link.inv ∈ y.invs ∧ link.inv.id = id ∧ link.result = result ∧
      y'.state.model = Model.setAll y.state.model (link.writes ex) ∧
      events.filter Event.isEffect = link.closing ex y.state.model := by
  obtain ⟨link, hinv, hid, hresult, hmodel, hevents⟩ :=
    h.of_mem_settled (List.mem_filter.mpr ⟨he, rfl⟩)
  refine ⟨link, hinv, hid, hresult, hmodel, ?_⟩
  have heffects : events.filter Event.isEffect =
      (events.filter Event.isNotable).filter Event.isEffect := by
    rw [List.filter_filter]
    refine List.filter_congr fun e _ => ?_
    cases e <;> rfl
  rw [heffects, hevents, List.filter_cons_of_neg (by exact Bool.false_ne_true),
    List.filter_eq_self]
  exact fun e he => Link.isEffect_of_mem_closing he

namespace System

variable (ex : Executor) {model : Value} {acts : List Act} {st : Step}

section Steps

variable (hst : st ∈ (init model).steps ex acts)
include hst

theorem mem_story_of_mem_events {e : Event} (he : e ∈ st.events) :
    e ∈ story ((init model).steps ex acts) := List.mem_flatMap.mpr ⟨st, hst, he⟩

theorem exists_recorded :
    ∃ seen, Recorded ex seen st.before ∧ Recorded ex (seen ++ st.events) st.after ∧
      st.before.Deed ex st.after (st.events.filter Event.isNotable) ∧
      seen ++ st.events ⊆ story ((init model).steps ex acts) := by
  obtain ⟨before, a, after, rfl, hsteps⟩ := exists_run_of_mem_steps ex hst
  have hbefore := recorded_run ex model before
  refine ⟨_, hbefore, recorded_step ex hbefore a, deed_step ex _ a, ?_⟩
  rw [hsteps, story_append, story_cons, ← List.append_assoc]
  exact List.subset_append_left _ _

theorem exists_started_of_state {request : Request} (h : st.after.state.shown = some request) :
    ∃ action m, .started request.id action m ∈ story ((init model).steps ex acts) ∧
      request.Of action m := by
  obtain ⟨seen, -, hafter, -, hsub⟩ := exists_recorded ex hst
  obtain ⟨action, m, hstarted, hof⟩ := hafter.shown request h
  exact ⟨action, m, hsub hstarted, hof⟩

theorem exists_started_of_shown {request : Request} (he : .shown (some request) ∈ st.events) :
    ∃ action m, .started request.id action m ∈ story ((init model).steps ex acts) ∧
      request.Of action m := by
  obtain ⟨seen, -, -, hdeed, -⟩ := exists_recorded ex hst
  obtain ⟨inv, action, confirm, hstarted, hof, hconfirm, rfl⟩ :=
    hdeed.of_mem_shown (List.mem_filter.mpr ⟨he, rfl⟩)
  exact ⟨action, _, mem_story_of_mem_events ex hst (List.mem_of_mem_filter hstarted),
    hof.request hconfirm⟩

theorem exists_started_of_called {id : InvocationId} {name : String} {params : Fields Value}
    (he : .called id name params ∈ st.events) :
    ∃ (inv : Invocation) (action : Action) (m : Value),
      .started id action m ∈ story ((init model).steps ex acts) ∧ inv.Of ex action m ∧
      inv.id = id ∧ inv.action.name = name ∧ inv.action.params = params ∧ st.after.Runs inv := by
  obtain ⟨seen, -, hafter, hdeed, hsub⟩ := exists_recorded ex hst
  obtain ⟨inv, hruns, rfl, hname, hparams⟩ :=
    hdeed.of_mem_called (List.mem_filter.mpr ⟨he, rfl⟩)
  obtain ⟨action, m, hstarted, hof⟩ := hafter.invs inv hruns.mem_invs
  exact ⟨inv, action, m, hsub hstarted, hof, rfl, hname, hparams, hruns⟩

theorem exists_started_of_settled {id : InvocationId} {result : Except String Unit}
    (he : .settled id result ∈ st.events) :
    ∃ (link : Link) (action : Action) (m : Value),
      .started id action m ∈ story ((init model).steps ex acts) ∧
      link.effect = action.effect result ∧ link.result = result ∧
      st.after.state.model = Model.setAll st.before.state.model (link.writes ex) ∧
      st.events.filter Event.isEffect = link.closing ex st.before.state.model := by
  obtain ⟨seen, hbefore, -, hdeed, hsub⟩ := exists_recorded ex hst
  obtain ⟨link, hinv, rfl, hresult, hmodel, heffects⟩ := hdeed.filter_isEffect he
  obtain ⟨action, m, hstarted, hof⟩ := hbefore.invs link.inv hinv
  refine ⟨link, action, m, hsub (List.mem_append_left _ hstarted), ?_, hresult, hmodel, heffects⟩
  rw [Link.effect_of_resolved hof.action_eq, hresult]

end Steps

/-- Whoever is shown, called or has settled has begun. -/
theorem exists_started {e : Event} (he : e ∈ story ((init model).steps ex acts))
    {id : InvocationId} (hid : id ∈ e.about?) :
    ∃ action m, .started id action m ∈ story ((init model).steps ex acts) := by
  obtain ⟨st, hst, he⟩ := List.mem_flatMap.mp he
  cases e with
  | shown request =>
    cases request with
    | none => cases hid
    | some request =>
      obtain rfl := Option.some.inj hid
      obtain ⟨action, m, hstarted, -⟩ := exists_started_of_shown ex hst he
      exact ⟨action, m, hstarted⟩
  | called =>
    obtain rfl := Option.some.inj hid
    obtain ⟨-, action, m, hstarted, -⟩ := exists_started_of_called ex hst he
    exact ⟨action, m, hstarted⟩
  | settled =>
    obtain rfl := Option.some.inj hid
    obtain ⟨-, action, m, hstarted, -⟩ := exists_started_of_settled ex hst he
    exact ⟨action, m, hstarted⟩
  | started | replied | observed | answered | returned | wrote | navigated => cases hid

/-- In every run, each invocation runs by the model that it began in. The request that is shown
for it and the parameters that its handler gets are those of that model. -/
theorem snapshot_run (model : Value) (acts : List Act) :
    let steps := (init model).steps ex acts
    (∀ e ∈ story steps, ∀ id ∈ e.about?, ∃ action m, .started id action m ∈ story steps) ∧
    ∀ id action m, .started id action m ∈ story steps → Snapshot ex steps id action m := by
  refine ⟨fun e he id => exists_started ex he, ?_⟩
  intro id action m hstarted
  have honce : ∀ action' m', .started id action' m' ∈ story ((init model).steps ex acts) →
      action' = action ∧ m' = m :=
    fun action' m' h => (recorded_run ex model acts).once id action m action' m' hstarted h
  refine ⟨?_, honce, ?_, ?_, ?_, ?_, ?_⟩
  · obtain ⟨st, hst, he⟩ := List.mem_flatMap.mp hstarted
    obtain ⟨-, -, -, hdeed, -⟩ := exists_recorded ex hst
    obtain ⟨-, -, rfl, -, hasks⟩ := hdeed.of_mem_started (List.mem_filter.mpr ⟨he, rfl⟩)
    refine ⟨st, hst, he, rfl, fun hgated => ?_⟩
    obtain ⟨request, hshown, hid⟩ := hasks hgated
    exact ⟨request, List.mem_of_mem_filter hshown, hid⟩
  · rintro request he rfl
    obtain ⟨st, hst, he⟩ := List.mem_flatMap.mp he
    obtain ⟨action', m', hstarted', hof⟩ := exists_started_of_shown ex hst he
    obtain ⟨rfl, rfl⟩ := honce action' m' hstarted'
    exact hof
  · rintro st hst request hshown rfl
    obtain ⟨action', m', hstarted', hof⟩ := exists_started_of_state ex hst hshown
    obtain ⟨rfl, rfl⟩ := honce action' m' hstarted'
    exact hof
  · intro st hst name params he
    obtain ⟨inv, action', m', hstarted', hof, hid, rfl, rfl, t, ht, deadline, hfocus⟩ :=
      exists_started_of_called ex hst he
    obtain ⟨rfl, rfl⟩ := honce action' m' hstarted'
    refine ⟨?_, ?_, inv.handler, hof.handler, t, ht, inv, deadline, hid, hfocus⟩
    · rw [hof.action_eq]
      rfl
    · rw [hof.action_eq]
      rfl
  · intro st hst result target he heffect
    obtain ⟨link, action', m', hstarted', hlink, -, -, heffects⟩ :=
      exists_started_of_settled ex hst he
    obtain ⟨rfl, rfl⟩ := honce action' m' hstarted'
    rw [heffects, Link.closing, hlink, heffect]
    dsimp only [Task.destination?]
    cases target.resolve st.before.state.model with
    | none => rfl
    | some v => cases v <;> rfl
  · intro st hst result entries he heffect
    obtain ⟨link, action', m', hstarted', hlink, hresult, hmodel, heffects⟩ :=
      exists_started_of_settled ex hst he
    obtain ⟨rfl, rfl⟩ := honce action' m' hstarted'
    have hset : link.effect = some (.set entries) := hlink.trans heffect
    have hwrites : link.writes ex = _ := Link.writes_eq hset
    rw [hresult] at hwrites
    refine ⟨?_, hwrites ▸ hmodel⟩
    rw [heffects, ← hwrites, Link.closing, Link.writes, hset]

/-- Values that an action writes do not all stand as they are, since one that is the sentinel
gives way to the message of the error. -/
theorem not_written_of_sentinel :
    ¬∀ (ex : Executor) (model : Value) (acts : List Act) (id : InvocationId) (action : Action)
      (m : Value), let steps := (init model).steps ex acts
      .started id action m ∈ story steps → ∀ st ∈ steps, ∀ result entries,
        .settled id result ∈ st.events → action.effect result = some (.set entries) →
        st.events.filter Event.isEffect = entries.map fun write => .wrote write.1 write.2 := by
  intro h
  let ex : Executor := ⟨⟨[("save", fun _ => .fail "offline")], []⟩, .initial⟩
  let entries : Fields Value := [("/problem", .str "$error.message")]
  let save : Action := { Action.bare "save" with onError := some (.set entries) }
  let st : Step := ((init (.obj [])).run ex [.start save, .move 0]).step ex (.move 0)
  have hsteps : (init (.obj [])).steps ex [.start save, .move 0, .move 0] =
      (init (.obj [])).steps ex [.start save, .move 0] ++ [st] := rfl
  have hstory : story ((init (.obj [])).steps ex [.start save, .move 0, .move 0]) =
      [.started 0 save (.obj []), .called 0 "save" [], .settled 0 (.error "offline"),
        .wrote "/problem" (.str "offline")] := rfl
  have hwrote := h ex (.obj []) [.start save, .move 0, .move 0] 0 save (.obj [])
    (by rw [hstory]; exact List.mem_cons_self ..) st
    (by rw [hsteps]; exact List.mem_append_right _ (List.mem_singleton_self _))
    (.error "offline") entries (List.mem_cons_self ..) rfl
  have hvalue : Event.wrote "/problem" (.str "offline") =
      .wrote "/problem" (.str "$error.message") := (List.cons.inj hwrote).1
  simp at hvalue

/-- The model changes while an action waits to be confirmed and while its handler works. -/
example :
    let page (url : String) : Value := .obj [("page", .str url)]
    let go : Action := { Action.bare "go" with
      params := [("to", .reference "/page")]
      confirm := some (.ofTexts "Go?" "")
      onSuccess := some (.navigate (.reference "/page")) }
    let ex : Executor := ⟨⟨[("go", fun _ => .finish)], []⟩, .initial⟩
    let steps := (init (page "/a")).steps ex
      [.start go, .move 0, .change (page "/b"), .answer none true, .move 0, .change (page "/c"),
        .move 0]
    (story steps).filter Event.isDoing =
      [.called 0 "go" [("to", .str "/a")], .settled 0 (.ok ()), .navigated "/c"] := by
  rfl

end System

end ScreenLogic
