import ScreenLogic.Proofs.Executor.Story

/-!
# Confirmed before called

An action that wants to be confirmed has its handler called only after somebody accepted
the request while it was the pending one. Whoever is declined, superseded or dropped while
it waits is lost for good, whatever happens before and after.

## Main definitions

* `Step.Refuses`: in a step, an invocation that waits is refused.
* `Ledger.Refused`: there is no way left from the wait to the handler.

## Main statements

* `System.confirmation_run`: all of that for any run.
-/

namespace ScreenLogic

namespace Ledger

open Standing

/-- Somebody who was numbered is not busy, and if it waits its reply has come and is not that it
is accepted. -/
structure Refused (id : InvocationId) (L : Ledger) : Prop where
  known : id < L.state.nextId
  idle : ∀ inv ∈ busy L.live, inv.id ≠ id
  resolved : L.state.channel? id ≠ some none
  denied : L.state.channel? id ≠ some (some .accepted)

variable {L M : Ledger} {events : List Event} {id : InvocationId}

theorem Fall.refused (h : Fall L events M) (hL : L.Refused id) : M.Refused id := by
  obtain ⟨hknown, hidle, hresolved, hdenied⟩ := hL
  rw [← h.nextId_eq] at hknown
  cases h with
  | idle => exact ⟨hknown, hidle, hresolved, hdenied⟩
  | forsake s live inv =>
    rw [busy_cons_waiting] at hidle
    refine ⟨hknown, hidle, ?_, ?_⟩
    all_goals
      rw [State.channel?_leaveWait]
      split
      · nofun
      · assumption
  | settle s live inv =>
    rw [busy_cons_of_ne (by decide)] at hidle
    exact ⟨hknown, by rwa [busy_cons_of_ne (by decide)], hresolved, hdenied⟩
  | leave s live stage inv hstage =>
    rw [busy_cons_of_ne hstage] at hidle
    rw [State.endLoading_eq] at hknown ⊢
    exact ⟨hknown, (Multiset.forall_mem_cons.mp hidle).2, hresolved, hdenied⟩

theorem Rise.refused (h : Rise L events M) (hL : L.Refused id) : M.Refused id := by
  have hnext := h.nextId_le
  obtain ⟨hknown, hidle, hresolved, hdenied⟩ := hL
  refine ⟨hknown.trans_le hnext, ?_, ?_, mt h.accepted hdenied⟩
  · cases h with
    | ask => rwa [busy_cons_waiting]
    | begin s live inv action model params timers hid =>
      rw [busy_cons_of_ne (by decide), Multiset.forall_mem_cons]
      exact ⟨fun heq => hknown.ne (heq.symm.trans hid), hidle⟩
    | pass s live inv params timers hreply =>
      rw [busy_cons_waiting] at hidle
      rw [busy_cons_of_ne (by decide), Multiset.forall_mem_cons]
      exact ⟨fun heq => hdenied (heq ▸ State.reply?_eq_some.mp hreply), hidle⟩
  · cases h with
    | ask s live inv request action model hid hrequest =>
      have hne : id ≠ request.id := by
        rw [hrequest, hid]
        exact hknown.ne
      rw [State.channel?_ask, State.channel?_supersede, if_neg hne, Option.or_none]
      split
      · nofun
      · exact hresolved
    | begin => exact hresolved
    | pass s live inv =>
      change (s.leaveWait inv.id).1.channel? id ≠ some none
      rw [State.channel?_leaveWait]
      split
      · nofun
      · exact hresolved

/-- Whoever is gone from among the living is refused, as is who waits for a reply that has come
and does not accept. -/
theorem Sound.refused_of_notMem (hL : L.Sound) (hknown : id < L.state.nextId)
    (hgone : id ∉ ids L.live) : L.Refused id := by
  rw [ids_eq_busy_add_waiters, Multiset.mem_add, not_or] at hgone
  have hnone : L.state.channel? id = none :=
    Option.not_isSome_iff_eq_none.mp (mt (hL.waiting id).mp hgone.2)
  refine ⟨hknown, ?_, by simp [hnone], by simp [hnone]⟩
  rintro inv hinv rfl
  exact hgone.1 (Multiset.mem_map_of_mem Invocation.id hinv)

theorem Sound.refused_of_reply (hL : L.Sound) {reply : Reply}
    (hreply : L.state.channel? id = some (some reply)) (hdenied : reply ≠ .accepted) :
    L.Refused id := by
  have hwaits : id ∈ waiters L.live := (hL.waiting id).mp (by simp [hreply])
  have hdistinct := hL.distinct
  rw [ids_eq_busy_add_waiters, Multiset.nodup_add] at hdistinct
  refine ⟨hL.known id (mem_ids_of_mem_waiters hwaits), ?_, by simp [hreply],
    by simp [hreply, hdenied]⟩
  rintro inv hinv rfl
  exact Multiset.disjoint_left.mp hdistinct.2.2 (Multiset.mem_map_of_mem Invocation.id hinv) hwaits

/-- A pending request gives way to another only by being closed. -/
theorem Rise.closed (h : Rise L events M) (hL : L.Sound) {newer : InvocationId}
    (hid : L.state.pending = some id) (hnewer : M.state.pending = some newer) (hne : newer ≠ id) :
    M.state.channel? id = some (some .closed) := by
  cases h with
  | ask s live inv request =>
    have hchannel : s.channel? id = some none := (hL.unresolved id).mpr hid
    rw [State.channel?_ask, State.channel?_supersede, if_pos ⟨hid, hchannel⟩]
    rfl
  | begin => exact absurd (Option.some.inj (hnewer.symm.trans hid)) hne
  | pass s live inv =>
    change (s.leaveWait inv.id).1.pending = some newer at hnewer
    change s.pending = some id at hid
    rw [State.leaveWait_fst] at hnewer
    grind

/-- If a handler is called, its invocation is busy, and it is new and not gated or was
accepted. -/
theorem Rise.of_mem_calls (h : Rise L events M) (hid : id ∈ calls events) :
    (∃ inv ∈ busy M.live, inv.id = id) ∧
      (id = L.state.nextId ∧ gated events = [] ∨
        L.state.channel? id = some (some .accepted)) := by
  cases h with
  | ask s live inv request action model =>
    have hquiet := ({ s with nextId := s.nextId + 1 } : State).quiet_ask request
    have hnone := calls_of_quiet hquiet
    exact absurd hid (hnone ▸ List.not_mem_nil)
  | begin s live inv action model params timers hinv hconfirm =>
    obtain rfl : id = inv.id := List.mem_singleton.mp hid
    have hgated : gated [.started s.nextId action model,
        .called inv.id inv.action.name params] = [] := by
      simp [gated, Event.gated?, hconfirm]
    rw [busy_cons_of_ne (by decide)]
    exact ⟨⟨inv, Multiset.mem_cons_self _ _, rfl⟩, .inl ⟨hinv, hgated⟩⟩
  | pass s live inv params timers hreply =>
    rw [calls_append, calls_of_quiet (s.quiet_leaveWait inv.id)] at hid
    obtain rfl : id = inv.id := List.mem_singleton.mp hid
    rw [busy_cons_of_ne (by decide)]
    exact ⟨⟨inv, Multiset.mem_cons_self _ _, rfl⟩, .inr (State.reply?_eq_some.mp hreply)⟩

/-- Whatever falls, nothing begins. -/
theorem Fall.calls_gated (h : Fall L events M) : calls events = [] ∧ gated events = [] := by
  cases h with
  | idle s live model clock timers events hlook =>
    have hquiet : ∀ e ∈ events, e.isQuiet := fun e he => Event.isQuiet_of_isLook (hlook e he)
    exact ⟨calls_of_quiet hquiet, gated_of_quiet hquiet⟩
  | forsake s live inv =>
    have hquiet := s.quiet_leaveWait inv.id
    exact ⟨calls_of_quiet hquiet, gated_of_quiet hquiet⟩
  | settle s live inv result effects model heffects =>
    have hnone : ∀ e ∈ Event.settled inv.id result :: effects, e.called? = none ∧ e.gated? = none :=
      List.forall_mem_cons.mpr ⟨⟨rfl, rfl⟩, fun e he =>
        ⟨(Event.none_of_isEffect (heffects e he)).1, (Event.none_of_isEffect (heffects e he)).2.2⟩⟩
    exact ⟨List.filterMap_eq_nil_iff.mpr fun e he => (hnone e he).1,
      List.filterMap_eq_nil_iff.mpr fun e he => (hnone e he).2⟩
  | leave => exact ⟨rfl, rfl⟩

theorem Falls.calls_gated (h : Falls L events M) : calls events = [] ∧ gated events = [] := by
  induction h with
  | refl => exact ⟨rfl, rfl⟩
  | cons first _ ih =>
    rw [calls_append, gated_append, first.calls_gated.1, first.calls_gated.2]
    exact ih

/-- Effects are applied for who has settled right before. -/
theorem Fall.settling (h : Fall L events M) {former later : List Event} {e : Event}
    (hevents : events = former ++ e :: later) (heffect : e.isEffect) :
    ∃ id, Settling id former := by
  have he : e ∈ events := hevents ▸ List.mem_append_right _ List.mem_cons_self
  cases h with
  | idle s live model clock timers events hlook =>
    exact absurd heffect (Event.not_isEffect_of_isQuiet (Event.isQuiet_of_isLook (hlook e he)))
  | forsake s live inv =>
    exact absurd heffect (Event.not_isEffect_of_isQuiet (s.quiet_leaveWait inv.id e he))
  | settle s live inv result effects model heffects =>
    obtain ⟨-, hfirst⟩ | ⟨applied, hformer, heq⟩ := List.cons_eq_append_iff.mp hevents
    · cases (List.cons.inj hfirst).1
      cases heffect
    · refine ⟨inv.id, [], result, applied, hformer, ?_⟩
      intro x hx
      exact heffects x (heq ▸ List.mem_append_left _ hx)
  | leave => cases he

theorem Falls.settling (h : Falls L events M) {former later : List Event} {e : Event}
    (hevents : events = former ++ e :: later) (heffect : e.isEffect) :
    ∃ id, Settling id former := by
  induction h generalizing former with
  | refl => cases (List.append_eq_nil_iff.mp hevents.symm).2
  | @cons _ _ _ events more first _ ih =>
    obtain ⟨rest, rfl, hmore⟩ | ⟨rest, hfirst, hrest⟩ := List.append_eq_append_iff.mp hevents
    · obtain ⟨id, hid⟩ := ih hmore
      exact ⟨id, hid.append events⟩
    · cases rest with
      | nil =>
        have hmore : more = [] ++ e :: later := hrest.symm
        obtain ⟨id, hid⟩ := ih hmore
        exact absurd hid Settling.not_nil
      | cons x rest =>
        obtain ⟨rfl, -⟩ := List.cons.inj hrest
        exact first.settling hfirst heffect

theorem Rise.not_isEffect (h : Rise L events M) {e : Event} (he : e ∈ events) : ¬e.isEffect := by
  cases h with
  | ask s live inv request action model =>
    have hquiet := ({ s with nextId := s.nextId + 1 } : State).quiet_ask request
    obtain rfl | he := List.mem_cons.mp he
    · nofun
    · exact Event.not_isEffect_of_isQuiet (hquiet e he)
  | begin s live inv action model params =>
    obtain rfl | he := List.mem_cons.mp he
    · nofun
    · obtain rfl := List.mem_singleton.mp he
      nofun
  | pass s live inv params =>
    obtain he | he := List.mem_append.mp he
    · exact Event.not_isEffect_of_isQuiet (s.quiet_leaveWait inv.id e he)
    · obtain rfl := List.mem_singleton.mp he
      nofun

/-- An invocation that begins gets the next id. -/
theorem Rise.of_mem_gated (h : Rise L events M) (hid : id ∈ gated events) :
    id = L.state.nextId ∧ id < M.state.nextId := by
  cases h with
  | ask s live inv request action model hinv hrequest hconfirm =>
    have hquiet := ({ s with nextId := s.nextId + 1 } : State).quiet_ask request
    have hone : gated (.started s.nextId action model ::
        ({ s with nextId := s.nextId + 1 }.ask request).2) = [s.nextId] := by
      rw [gated, List.filterMap_cons, Event.gated?, if_pos hconfirm]
      exact congrArg (List.cons s.nextId) (gated_of_quiet hquiet)
    rw [hone] at hid
    rw [State.ask_fst]
    obtain rfl := List.mem_singleton.mp hid
    exact ⟨rfl, Nat.lt_succ_self _⟩
  | begin s live inv action model params timers hinv hconfirm =>
    simp [gated, Event.gated?, hconfirm] at hid
  | pass s live inv params timers hreply =>
    rw [gated_append, gated_of_quiet (s.quiet_leaveWait inv.id)] at hid
    cases hid

end Ledger

namespace System

variable (ex : Executor)

theorem step_calls {y : System} {a : Act} {id : InvocationId}
    (hid : id ∈ calls (y.step ex a).events) :
    (∃ inv ∈ (y.step ex a).after.busy, inv.id = id) ∧
      (id = y.state.nextId ∧ gated (y.step ex a).events = [] ∨
        y.state.channel? id = some (some .accepted)) := by
  simp only [mem_busy]
  obtain ⟨target, accepted, looks, -, -, hevents, hlooks⟩ | ⟨-, hrise | hfalls⟩ := step_cases ex y a
  · rw [hevents, calls_of_quiet (y.state.quiet_answer target accepted hlooks)] at hid
    cases hid
  · exact hrise.of_mem_calls hid
  · rw [hfalls.calls_gated.1] at hid
    cases hid

theorem step_gated {y : System} {a : Act} {id : InvocationId}
    (hid : id ∈ gated (y.step ex a).events) :
    y.state.nextId ≤ id ∧ id < (y.step ex a).after.state.nextId := by
  obtain ⟨target, accepted, looks, -, -, hevents, hlooks⟩ | ⟨-, hrise | hfalls⟩ := step_cases ex y a
  · rw [hevents, gated_of_quiet (y.state.quiet_answer target accepted hlooks)] at hid
    cases hid
  · obtain ⟨heq, hlt⟩ := hrise.of_mem_gated hid
    exact ⟨heq.ge, hlt⟩
  · rw [hfalls.calls_gated.2] at hid
    cases hid

/-- Ids of a later part of a run are not smaller than those given out before. -/
theorem nextId_le_of_mem_gated {y : System} {acts : List Act} {id : InvocationId}
    (hid : id ∈ gated (story (y.steps ex acts))) : y.state.nextId ≤ id := by
  induction acts generalizing y with
  | nil => cases hid
  | cons a acts ih =>
    rw [steps, story_cons, gated_append] at hid
    obtain hid | hid := List.mem_append.mp hid
    · exact (step_gated ex hid).1
    · exact (step_frame ex y a).1.trans (ih hid)

theorem lt_nextId_of_mem_gated {y : System} {acts : List Act} {id : InvocationId}
    (hid : id ∈ gated (story (y.steps ex acts))) : id < (y.run ex acts).state.nextId := by
  refine run_induction ex (y := y)
    (motive := fun steps y => ∀ id ∈ gated (story steps), id < y.state.nextId)
    (List.forall_mem_nil _) ?_ acts id hid
  intro steps y a h other hother
  rw [story_append, story_singleton, gated_append] at hother
  obtain hother | hother := List.mem_append.mp hother
  · exact (h other hother).trans_le (step_frame ex y a).1
  · exact (step_gated ex hother).2

theorem refused_step {y : System} {id : InvocationId} (h : y.ledger.Refused id) (a : Act) :
    (y.step ex a).after.ledger.Refused id := by
  obtain ⟨target, accepted, -, -, hafter, -, -⟩ | ⟨-, hrise | hfalls⟩ := step_cases ex y a
  · obtain ⟨hnext, -, -⟩ := y.state.answer_frame target accepted
    have hchannel := State.channel?_answer h.resolved target accepted
    rw [hafter]
    exact ⟨hnext.symm ▸ h.known, h.idle, hchannel.symm ▸ h.resolved, hchannel.symm ▸ h.denied⟩
  · exact hrise.refused h
  · exact hfalls.preserves Ledger.Fall.refused h

theorem not_called_of_refused_after {y : System} {a : Act} {id : InvocationId}
    (h : (y.step ex a).after.ledger.Refused id) : id ∉ calls (y.step ex a).events := by
  intro hid
  obtain ⟨⟨inv, hinv, hbusy⟩, -⟩ := step_calls ex hid
  exact h.idle inv (mem_busy.mp hinv) hbusy

/-- Once an invocation is refused, its handler is not called. -/
theorem not_called_of_refused {y : System} {id : InvocationId} (h : y.ledger.Refused id)
    (acts : List Act) : id ∉ calls (story (y.steps ex acts)) := by
  induction acts generalizing y with
  | nil => exact List.not_mem_nil
  | cons a acts ih =>
    have hafter := refused_step ex h a
    rw [steps, story_cons, calls_append, List.mem_append]
    rintro (hid | hid)
    · exact not_called_of_refused_after ex hafter hid
    · exact ih hafter hid

end System

/-! ## Refusals -/

/-- In a step, an invocation that waits is refused. -/
inductive Step.Refuses (st : Step) (id : InvocationId) : Prop where
  | declined : st.delivers? = some (id, false) → Refuses st id
  | superseded (newer : InvocationId) : st.before.state.pending = some id →
      st.after.state.pending = some newer → newer ≠ id → Refuses st id
  | dropped (i : Nat) (t : Task) : st.act = .drop i → st.before.tasks[i]? = some t →
      t.confirming? = some id → Refuses st id
  /-- It is gone, say since a handler around it was out of time. -/
  | gone : (∃ t ∈ st.before.tasks, t.confirming? = some id) →
      (∀ t ∈ st.after.tasks, t.confirming? ≠ some id ∧ id ∉ t.busy.map Invocation.id) →
      Refuses st id

namespace System

open Standing

variable (ex : Executor)

theorem notMem_ids_of_drop {y : System} (hy : y.ledger.Sound) {i : Nat} {t : Task}
    {id : InvocationId} (hi : y.tasks[i]? = some t) (hid : t.confirming? = some id) :
    id ∉ ids (y.step ex (.drop i)).after.live := by
  obtain ⟨others, hlive, -, herase⟩ := exists_others hi
  have hafter : (y.step ex (.drop i)).after.live = (y.tasks.eraseIdx i).flatMap Task.live := by
    simp only [step, perform, hi, live]
  have hdistinct : (ids y.live).Nodup := hy.distinct
  rw [hlive, ids, Multiset.map_add, Multiset.nodup_add] at hdistinct
  obtain ⟨inv, hinv, rfl⟩ := Task.confirming?_eq_some.mp hid
  rw [hafter, herase]
  exact Multiset.disjoint_left.mp hdistinct.2.2 (Multiset.mem_map.mpr ⟨_, hinv, rfl⟩)

theorem notMem_ids {y : System} {id : InvocationId}
    (h : ∀ t ∈ y.tasks, t.confirming? ≠ some id ∧ id ∉ t.busy.map Invocation.id) :
    id ∉ ids y.live := by
  rw [ids_eq_busy_add_waiters, Multiset.mem_add, mem_waiters_live, ← coe_busy]
  rintro (hbusy | ⟨t, ht, hid⟩)
  · obtain ⟨inv, hinv, rfl⟩ := Multiset.mem_map.mp hbusy
    obtain ⟨t, ht, hmem⟩ := List.mem_flatMap.mp (Multiset.mem_coe.mp hinv)
    exact (h t ht).2 (List.mem_map_of_mem hmem)
  · exact (h t ht).1 hid

theorem step_closed {y : System} (hy : y.ledger.Sound) {a : Act} {id newer : InvocationId}
    (hid : y.state.pending = some id) (hnewer : (y.step ex a).after.state.pending = some newer)
    (hne : newer ≠ id) : (y.step ex a).after.state.channel? id = some (some .closed) := by
  obtain ⟨target, accepted, -, -, hafter, -, -⟩ | ⟨-, hrise | hfalls⟩ := step_cases ex y a
  · obtain ⟨-, -, hpending⟩ := y.state.answer_frame target accepted
    rw [show (y.step ex a).after.state = _ from congrArg Ledger.state hafter] at hnewer
    exact absurd (Option.some.inj ((hpending newer hnewer).symm.trans hid)) hne
  · exact hrise.closed hy hid hnewer hne
  · exact absurd (Option.some.inj ((hfalls.pending hnewer).symm.trans hid)) hne

/-- Who is refused in a step waited before, and is lost afterwards. -/
theorem refused_of_refuses {y : System} (hy : y.ledger.Sound) {a : Act} {id : InvocationId}
    (h : (y.step ex a).Refuses id) :
    id ∈ waiters y.live ∧ (y.step ex a).after.ledger.Refused id := by
  have hafter := sound_step ex hy a
  have hpending : y.state.pending = some id → id ∈ waiters y.live := fun hid =>
    (hy.waiting id).mp (Option.isSome_of_eq_some ((hy.unresolved id).mpr hid))
  have hknown : id ∈ waiters y.live → id < (y.step ex a).after.state.nextId := fun hid =>
    (hy.known id (mem_ids_of_mem_waiters hid)).trans_le (step_frame ex y a).1
  cases h with
  | declined hdelivers =>
    obtain ⟨_, -, hid, -⟩ := Step.delivers?_eq_some hdelivers
    obtain ⟨hchannel, hledger, -⟩ := step_delivers ex hy hdelivers
    have hreply : (y.step ex a).after.state.channel? id = some (some .declined) := by
      rw [show (y.step ex a).after.state = _ from congrArg Ledger.state hledger,
        State.channel?_answered, if_pos ⟨rfl, hchannel⟩]
      rfl
    exact ⟨hpending hid, hafter.refused_of_reply hreply nofun⟩
  | superseded newer hid hnewer hne =>
    exact ⟨hpending hid, hafter.refused_of_reply (step_closed ex hy hid hnewer hne) nofun⟩
  | dropped i t hact hi hid =>
    have hwaits := mem_waiters_live.mpr ⟨t, List.mem_of_getElem? hi, hid⟩
    obtain rfl : a = .drop i := hact
    exact ⟨hwaits, hafter.refused_of_notMem (hknown hwaits) (notMem_ids_of_drop ex hy hi hid)⟩
  | gone hwaits hgone =>
    have hwaits := mem_waiters_live.mpr hwaits
    exact ⟨hwaits, hafter.refused_of_notMem (hknown hwaits) (notMem_ids hgone)⟩

theorem mem_calls_of_busy {model : Value} {acts : List Act} {st : Step}
    (hst : st ∈ (init model).steps ex acts) {inv : Invocation} (hinv : inv ∈ st.after.busy) :
    inv.id ∈ calls (story ((init model).steps ex acts)) := by
  obtain ⟨before, a, after, rfl, hsteps⟩ := exists_run_of_mem_steps ex hst
  have hcalled := called_step ex (sound_run ex model before) (called_run ex model before) a
  rw [hsteps, story_append, story_cons, ← List.append_assoc, calls_append]
  exact List.mem_append_left _ (hcalled.busy inv (mem_busy.mp hinv))

/-- A handler is called at once only if its invocation is new and wants no confirmation. -/
theorem accepted_of_called {model : Value} {acts : List Act} {former later : List Step} {st : Step}
    (hsteps : (init model).steps ex acts = former ++ st :: later) {id : InvocationId}
    (hid : id ∈ calls st.events) (hgated : id ∈ gated (story ((init model).steps ex acts))) :
    (id, true) ∈ deliveries former := by
  obtain ⟨before, a, after, -, rfl, rfl, rfl⟩ := exists_run_of_steps_eq_append ex hsteps
  obtain ⟨-, ⟨hnew, hfree⟩ | haccepted⟩ := step_calls ex hid
  · have hsound := sound_run ex model before
    have hknown := (called_step ex hsound (called_run ex model before) a).known id (by
      rw [calls_append]
      exact List.mem_append_right _ hid)
    rw [hsteps, story_append, story_cons, gated_append, gated_append, hfree,
      List.nil_append] at hgated
    obtain hformer | hlater := List.mem_append.mp hgated
    · exact absurd (lt_nextId_of_mem_gated ex hformer) hnew.not_lt
    · exact absurd (nextId_le_of_mem_gated ex hlater) (Nat.not_le.mpr hknown)
  · exact (told_run ex model before).accepted id haccepted

/-- Who is refused is never called, neither before nor afterwards. -/
theorem not_called_of_refuses {model : Value} {acts : List Act} {st : Step}
    (hst : st ∈ (init model).steps ex acts) {id : InvocationId} (h : st.Refuses id) :
    id ∉ calls (story ((init model).steps ex acts)) := by
  obtain ⟨before, a, after, rfl, hsteps⟩ := exists_run_of_mem_steps ex hst
  obtain ⟨hwaits, hrefused⟩ := refused_of_refuses ex (sound_run ex model before) h
  rw [hsteps, story_append, story_cons, calls_append, calls_append, List.mem_append,
    List.mem_append]
  rintro (hformer | hid | hlater)
  · exact (called_run ex model before).passed id hformer hwaits
  · exact not_called_of_refused_after ex hrefused hid
  · exact not_called_of_refused ex hrefused after hlater

theorem settling_of_isEffect {y : System} {a : Act} {former later : List Event} {e : Event}
    (hevents : (y.step ex a).events = former ++ e :: later) (heffect : e.isEffect) :
    ∃ id, Settling id former := by
  have he : e ∈ (y.step ex a).events := hevents ▸ List.mem_append_right _ List.mem_cons_self
  obtain ⟨target, accepted, looks, -, -, hanswer, hlooks⟩ | ⟨-, hrise | hfalls⟩ := step_cases ex y a
  · have hquiet := y.state.quiet_answer target accepted hlooks
    exact absurd heffect (Event.not_isEffect_of_isQuiet (hquiet e (hanswer ▸ he)))
  · exact absurd heffect (hrise.not_isEffect he)
  · exact hfalls.settling hevents heffect

/-- Whoever is told that the answer was given has it sent to the one who waits for it. -/
theorem delivered_of_told {y : System} (hy : y.ledger.Sound) {a : Act}
    {target : Option InvocationId} {accepted : Bool}
    (hanswer : (y.step ex a).answer? = some (target, accepted))
    (htold : (y.state.answer target accepted).1 = true) :
    ∃ id, y.state.pending = some id ∧ (y.step ex a).delivers? = some (id, accepted) ∧
      (∃ t ∈ (y.step ex a).after.tasks, t.confirming? = some id) ∧
      (y.step ex a).after.state.channel? id = some (some (.ofAnswer accepted)) ∧
      ∀ other ≠ id, (y.step ex a).after.state.channel? other = y.state.channel? other := by
  obtain ⟨id, hpending, -, hdelivers, -⟩ | ⟨-, -, hgiven⟩ := Step.delivers?_cases hanswer hy
  · obtain ⟨hchannel, hledger, -⟩ := step_delivers ex hy hdelivers
    have hstate : (y.step ex a).after.state = y.state.answered id accepted :=
      congrArg Ledger.state hledger
    have hreply : (y.step ex a).after.state.channel? id = some (some (.ofAnswer accepted)) := by
      rw [hstate, State.channel?_answered, if_pos ⟨rfl, hchannel⟩]
    have hwaits : id ∈ waiters (y.step ex a).after.live :=
      ((sound_step ex hy a).waiting id).mp (Option.isSome_of_eq_some hreply)
    refine ⟨id, hpending, hdelivers, mem_waiters_live.mp hwaits, hreply, ?_⟩
    intro other hne
    rw [hstate, State.channel?_answered, if_neg fun h => hne h.1]
  · cases (congrArg Prod.fst hgiven).symm.trans htold

theorem answer_of_not_pending {y : System} {a : Act} {id : InvocationId} {accepted : Bool}
    (hanswer : (y.step ex a).answer? = some (some id, accepted)) (hid : y.state.pending ≠ some id) :
    y.state.answer (some id) accepted = (false, y.state, []) ∧
      (y.step ex a).after.state = y.state := by
  have hother : ∀ pending, y.state.pending = some pending →
      (some id).all (· == pending) = false := by
    intro pending hpending
    have hne : id ≠ pending := fun heq => hid (heq ▸ hpending)
    simpa using hne
  have hgiven := State.answer_of_other accepted hother
  exact ⟨hgiven, (state_of_answered ex hanswer).trans (congrArg (·.2.1) hgiven)⟩

/-- What confirmation means for a run. -/
structure Confirmation (steps : List Step) : Prop where
  /-- Where confirmation is wanted, the handler is called only after an accepting answer was
  delivered to the invocation. -/
  accepted : ∀ former st later, steps = former ++ st :: later → ∀ id ∈ calls st.events,
    id ∈ gated (story steps) → (id, true) ∈ deliveries former
  /-- Whoever is refused is never called, does not settle and does not chain. -/
  refused : ∀ st ∈ steps, ∀ id, st.Refuses id →
    id ∉ calls (story steps) ∧ id ∉ settlements (story steps) ∧
      ∀ other ∈ steps, id ∉ other.after.busy.map Invocation.id
  /-- Effects are applied for who has settled, and for nobody else. -/
  effects : ∀ st ∈ steps, ∀ former e later, st.events = former ++ e :: later → e.isEffect →
    ∃ id, Settling id former
  /-- No invocation calls its handler twice. -/
  once : (calls (story steps)).Nodup
  /-- An answer that counts as given is the reply to the pending invocation alone. -/
  delivered : ∀ st ∈ steps, ∀ target accepted, st.answer? = some (target, accepted) →
    (st.before.state.answer target accepted).1 = true →
      ∃ id, st.before.state.pending = some id ∧ st.delivers? = some (id, accepted) ∧
        (∃ t ∈ st.after.tasks, t.confirming? = some id) ∧
        st.after.state.channel? id = some (some (.ofAnswer accepted)) ∧
        ∀ other ≠ id, st.after.state.channel? other = st.before.state.channel? other
  /-- No invocation gets two answers. -/
  distinct : ((deliveries steps).map Prod.fst).Nodup
  bounded : ((calls (story steps)).filter (· ∈ gated (story steps))).length ≤
    ((deliveries steps).filter Prod.snd).length
  /-- An answer that means somebody else than who is pending does nothing. -/
  other : ∀ st ∈ steps, ∀ id accepted, st.answer? = some (some id, accepted) →
    st.before.state.pending ≠ some id →
      st.before.state.answer (some id) accepted = (false, st.before.state, []) ∧
        st.after.state = st.before.state

/-- Every call after a confirmation has an accepting answer of its own. -/
theorem length_calls_le {steps : List Step} (honce : (calls (story steps)).Nodup)
    (haccepted : ∀ former st later, steps = former ++ st :: later → ∀ id ∈ calls st.events,
      id ∈ gated (story steps) → (id, true) ∈ deliveries former) :
    ((calls (story steps)).filter (· ∈ gated (story steps))).length ≤
      ((deliveries steps).filter Prod.snd).length := by
  have hsub : (calls (story steps)).filter (· ∈ gated (story steps)) ⊆
      ((deliveries steps).filter Prod.snd).map Prod.fst := by
    intro id hid
    obtain ⟨hcalled, hgated⟩ := List.mem_filter.mp hid
    obtain ⟨e, he, hcall⟩ := List.mem_filterMap.mp hcalled
    obtain ⟨st, hst, hmem⟩ := List.mem_flatMap.mp he
    obtain ⟨former, later, hsteps⟩ := List.append_of_mem hst
    have hdelivered := haccepted former st later hsteps id
      (List.mem_filterMap.mpr ⟨e, hmem, hcall⟩) (of_decide_eq_true hgated)
    refine List.mem_map.mpr ⟨(id, true), List.mem_filter.mpr ⟨?_, rfl⟩, rfl⟩
    rw [hsteps, deliveries_append]
    exact List.mem_append_left _ hdelivered
  simpa using ((honce.filter _).subperm hsub).length_le

/-- In every run, handlers are called as confirmations allow. -/
theorem confirmation_run (model : Value) (acts : List Act) :
    Confirmation ((init model).steps ex acts) := by
  have hcalled := called_run ex model acts
  have htold := told_run ex model acts
  refine ⟨?_, ?_, ?_, hcalled.once, ?_, htold.once, ?_, ?_⟩
  · intro former st later hsteps id hid hgated
    exact accepted_of_called ex hsteps hid hgated
  · intro st hst id h
    have hnever := not_called_of_refuses ex hst h
    refine ⟨hnever, fun hsettled => hnever (hcalled.settled id hsettled), ?_⟩
    intro other hother hbusy
    obtain ⟨inv, hinv, rfl⟩ := List.mem_map.mp hbusy
    exact hnever (mem_calls_of_busy ex hother hinv)
  · intro st hst former e later hevents heffect
    obtain ⟨before, a, after, rfl, -⟩ := exists_run_of_mem_steps ex hst
    exact settling_of_isEffect ex hevents heffect
  · intro st hst target accepted hanswer htold
    obtain ⟨before, a, after, rfl, -⟩ := exists_run_of_mem_steps ex hst
    exact delivered_of_told ex (sound_run ex model before) hanswer htold
  · exact length_calls_le hcalled.once fun former st later hsteps id hid hgated =>
      accepted_of_called ex hsteps hid hgated
  · intro st hst id accepted hanswer hother
    obtain ⟨before, a, after, rfl, -⟩ := exists_run_of_mem_steps ex hst
    exact answer_of_not_pending ex hanswer hother

/-- Of two requests the newer one is accepted, and the older one is lost. -/
example :
    let save : Action := { Action.bare "save" with confirm := some (.ofTexts "Save?" "") }
    let ex : Executor := ⟨⟨[("save", fun _ => .finish)], []⟩, .initial⟩
    let steps := (init .null).steps ex
      [.start save, .move 0, .start save, .move 1, .answer none true, .move 0, .move 1]
    deliveries steps = [(1, true)] ∧ calls (story steps) = [1] := by
  decide

end System

end ScreenLogic
