import ScreenLogic.Proofs.Executor.Channels
import ScreenLogic.Proofs.Executor.Ledger

/-!
# The confirmation gate

At most one request for confirmation is pending, and what is shown is that request. The
invocation that is pending waits for it with no reply sent; all others who wait have got
their reply, and leave at their next step.

## Main definitions

* `Ledger.Sound`: the pending request, the shown one and the channels agree with those
  who live and wait.

## Main statements

* `System.sound_run`: this holds after every run.
* `System.gate_run`: what it means for those who wait.
-/

namespace ScreenLogic

namespace Ledger

open Standing

/-- The pending request, the shown one and the channels agree with those who live and wait. -/
structure Sound (L : Ledger) : Prop where
  distinct : (ids L.live).Nodup
  known : ∀ id ∈ ids L.live, id < L.state.nextId
  shown : L.state.pending = L.state.shown.map Request.id
  waiting : ∀ id, (L.state.channel? id).isSome ↔ id ∈ waiters L.live
  /-- The pending one, and nobody else, waits with no reply sent. -/
  unresolved : ∀ id, L.state.channel? id = some none ↔ L.state.pending = some id

theorem sound_init (model : Value) : (System.init model).ledger.Sound where
  distinct := Multiset.nodup_zero
  known := nofun
  shown := rfl
  waiting _ := ⟨nofun, nofun⟩
  unresolved _ := ⟨nofun, nofun⟩

/-- Whoever is counted was numbered, and is counted once. -/
theorem Sound.head {s : State} {x : Standing} {live : Multiset Standing}
    (hL : Sound ⟨s, x ::ₘ live⟩) : x.2.id < s.nextId ∧ x.2.id ∉ ids live := by
  have hdistinct := hL.distinct
  have hknown := hL.known
  rw [ids_cons] at hdistinct hknown
  exact ⟨hknown x.2.id (Multiset.mem_cons_self _ _), (Multiset.nodup_cons.mp hdistinct).1⟩

/-- A waiter that is gone has no channel, and is not pending. -/
theorem Sound.leaveWait {s : State} {live : Multiset Standing} {inv : Invocation}
    (hL : Sound ⟨s, (.waiting, inv) ::ₘ live⟩) : Sound ⟨(s.leaveWait inv.id).1, live⟩ := by
  obtain ⟨hdistinct, hknown, hshown, hwaiting, hunresolved⟩ := hL
  simp only [ids_cons, waiters_cons_waiting, Multiset.nodup_cons, Multiset.mem_cons] at *
  obtain ⟨hfresh, hdistinct⟩ := hdistinct
  have hgone : inv.id ∉ waiters live := mt mem_ids_of_mem_waiters hfresh
  refine ⟨hdistinct, ?_, ?_, ?_, ?_⟩
  · intro id hid
    rw [State.leaveWait_fst]
    exact hknown id (.inr hid)
  · rw [State.leaveWait_fst]
    dsimp only
    split
    · rfl
    · exact hshown
  · intro id
    rw [State.channel?_leaveWait]
    grind
  · intro id
    rw [State.channel?_leaveWait, State.leaveWait_fst]
    grind

theorem Fall.sound {L M : Ledger} {events : List Event} (h : Fall L events M) (hL : L.Sound) :
    M.Sound := by
  cases h with
  | idle => exact ⟨hL.distinct, hL.known, hL.shown, hL.waiting, hL.unresolved⟩
  | forsake s live inv => exact hL.leaveWait
  | settle s live inv result effects model =>
    obtain ⟨hdistinct, hknown, hshown, hwaiting, hunresolved⟩ := hL
    refine ⟨?_, ?_, hshown, ?_, hunresolved⟩
    · simpa using hdistinct
    · simpa using hknown
    · intro id
      rw [waiters_cons_of_ne (by decide)] at hwaiting ⊢
      exact hwaiting id
  | leave s live stage inv hstage =>
    obtain ⟨hdistinct, hknown, hshown, hwaiting, hunresolved⟩ := hL
    simp only [ids_cons, waiters_cons_of_ne hstage, Multiset.nodup_cons, Multiset.mem_cons] at *
    rw [State.endLoading_eq]
    refine ⟨hdistinct.2, ?_, hshown, hwaiting, hunresolved⟩
    intro id hid
    exact hknown id (.inr hid)

theorem Sound.reserve {s : State} {live : Multiset Standing} (hL : Sound ⟨s, live⟩) :
    Sound ⟨{ s with nextId := s.nextId + 1 }, live⟩ :=
  ⟨hL.distinct, fun id hid => Nat.lt_succ_of_lt (hL.known id hid), hL.shown, hL.waiting,
    hL.unresolved⟩

theorem Sound.nextId_notMem {L : Ledger} (hL : L.Sound) : L.state.nextId ∉ ids L.live :=
  fun h => Nat.lt_irrefl _ (hL.known _ h)

/-- A new waiter takes the place of the one before it, whose channel is closed. -/
theorem Sound.ask {s : State} {live : Multiset Standing} (hL : Sound ⟨s, live⟩) {inv : Invocation}
    {request : Request} (hfresh : inv.id ∉ ids live) (hid : inv.id < s.nextId)
    (hrequest : request.id = inv.id) :
    Sound ⟨(s.ask request).1, (.waiting, inv) ::ₘ live⟩ := by
  obtain ⟨hdistinct, hknown, hshown, hwaiting, hunresolved⟩ := hL
  have hgone : inv.id ∉ waiters live := mt mem_ids_of_mem_waiters hfresh
  have hnone : s.channel? inv.id = none :=
    Option.not_isSome_iff_eq_none.mp (mt (hwaiting inv.id).mp hgone)
  refine ⟨?_, ?_, ?_, ?_, ?_⟩
  · rw [ids_cons]
    exact Multiset.nodup_cons.mpr ⟨hfresh, hdistinct⟩
  · rw [ids_cons, State.ask_fst]
    exact Multiset.forall_mem_cons.mpr ⟨hid, hknown⟩
  · rw [State.ask_fst]
    rfl
  · intro id
    rw [State.channel?_ask, State.channel?_supersede, waiters_cons_waiting, Multiset.mem_cons]
    have := hwaiting id
    grind
  · intro id
    rw [State.channel?_ask, State.channel?_supersede, State.ask_fst]
    have := hunresolved id
    grind

/-- A handler is called, of somebody new or of one whose wait is over. -/
theorem Sound.call {s : State} {live : Multiset Standing} (hL : Sound ⟨s, live⟩) {inv : Invocation}
    (hfresh : inv.id ∉ ids live) (hid : inv.id < s.nextId) (timers : Nat) :
    Sound
      ⟨{ s with timers := timers }.beginLoading inv.action.name, (.handling, inv) ::ₘ live⟩ := by
  obtain ⟨hdistinct, hknown, hshown, hwaiting, hunresolved⟩ := hL
  refine ⟨?_, ?_, hshown, ?_, hunresolved⟩
  · rw [ids_cons]
    exact Multiset.nodup_cons.mpr ⟨hfresh, hdistinct⟩
  · rw [ids_cons]
    exact Multiset.forall_mem_cons.mpr ⟨hid, hknown⟩
  · rwa [waiters_cons_of_ne (by decide)]

theorem Rise.sound {L M : Ledger} {events : List Event} (h : Rise L events M) (hL : L.Sound) :
    M.Sound := by
  cases h with
  | ask s live inv request action model hid hrequest hconfirm =>
    have hfresh : inv.id ∉ ids live := hid ▸ hL.nextId_notMem
    exact hL.reserve.ask hfresh (hid ▸ Nat.lt_succ_self s.nextId) hrequest
  | begin s live inv action model params timers hid hconfirm =>
    have hfresh : inv.id ∉ ids live := hid ▸ hL.nextId_notMem
    exact hL.reserve.call hfresh (hid ▸ Nat.lt_succ_self s.nextId) timers
  | pass s live inv params timers hreply =>
    obtain ⟨hknown, hfresh⟩ := hL.head
    have hid : inv.id < (s.leaveWait inv.id).1.nextId := by
      rw [State.leaveWait_fst]
      exact hknown
    exact hL.leaveWait.call hfresh hid timers

theorem Falls.sound {L M : Ledger} {events : List Event} (h : Falls L events M) (hL : L.Sound) :
    M.Sound :=
  h.preserves Fall.sound hL

/-- Whether a confirmation is answered, and whose. -/
theorem Sound.answer_cases {s : State} {live : Multiset Standing} (hL : Sound ⟨s, live⟩)
    (target : Option InvocationId) (accepted : Bool) :
    (∃ id, s.pending = some id ∧ target.all (· == id) ∧ s.answer target accepted =
      (true, s.answered id accepted, [.shown none, .replied id (.ofAnswer accepted)])) ∨
    (∀ id, s.pending = some id → target.all (· == id) = false) ∧
      s.answer target accepted = (false, s, []) := by
  cases hpending : s.pending with
  | none => exact .inr ⟨nofun, State.answer_of_other accepted (by simp [hpending])⟩
  | some id =>
    cases htarget : target.all (· == id) with
    | false =>
      have hother : ∀ id', s.pending = some id' → target.all (· == id') = false := by
        intro id' h
        obtain rfl := Option.some.inj (hpending.symm.trans h)
        exact htarget
      exact .inr ⟨hpending ▸ hother, State.answer_of_other accepted hother⟩
    | true =>
      have hchannel := (hL.unresolved id).mpr hpending
      exact .inl ⟨id, rfl, htarget, State.answer_of_pending accepted hpending htarget hchannel⟩

/-- The pending one gets its answer, and is not pending any more. -/
theorem Sound.answer {s : State} {live : Multiset Standing} (hL : Sound ⟨s, live⟩)
    (target : Option InvocationId) (accepted : Bool) :
    Sound ⟨(s.answer target accepted).2.1, live⟩ := by
  obtain ⟨id, hpending, -, hanswer⟩ | ⟨-, hanswer⟩ := hL.answer_cases target accepted
  · obtain ⟨hdistinct, hknown, hshown, hwaiting, hunresolved⟩ := hL
    rw [hanswer]
    refine ⟨hdistinct, hknown, rfl, ?_, ?_⟩
    · intro other
      rw [State.channel?_answered]
      have := hwaiting other
      grind
    · intro other
      change _ ↔ none = some other
      rw [State.channel?_answered]
      have := hunresolved other
      grind
  · rw [hanswer]
    exact hL

end Ledger

namespace System

theorem sound_step (ex : Executor) {y : System} (hy : y.ledger.Sound) (a : Act) :
    (y.step ex a).after.ledger.Sound := by
  obtain ⟨target, accepted, -, -, hafter, -, -⟩ | ⟨-, hrise | hfalls⟩ := step_cases ex y a
  · rw [hafter]
    exact hy.answer target accepted
  · exact hrise.sound hy
  · exact hfalls.sound hy

/-- After every run the requests and channels agree with those who live and wait. -/
theorem sound_run (ex : Executor) (model : Value) (acts : List Act) :
    ((init model).run ex acts).ledger.Sound :=
  run_induction ex (motive := fun _ y => y.ledger.Sound) (Ledger.sound_init model)
    (fun _ _ a hy => sound_step ex hy a) acts

end System

/-! ## How long a request is pending -/

namespace Ledger

open Standing

theorem Fall.nextId_eq {L M : Ledger} {events : List Event} (h : Fall L events M) :
    M.state.nextId = L.state.nextId := by
  cases h with
  | idle | settle => rfl
  | forsake => rw [State.leaveWait_fst]
  | leave => rw [State.endLoading_eq]

theorem Fall.pending {L M : Ledger} {events : List Event} (h : Fall L events M)
    {id : InvocationId} (hid : M.state.pending = some id) : L.state.pending = some id := by
  cases h with
  | idle | settle => exact hid
  | forsake =>
    rw [State.leaveWait_fst] at hid
    grind
  | leave =>
    rw [State.endLoading_eq] at hid
    exact hid

theorem Falls.nextId_eq {L M : Ledger} {events : List Event} (h : Falls L events M) :
    M.state.nextId = L.state.nextId := by
  induction h with
  | refl => rfl
  | cons first _ ih => exact ih.trans first.nextId_eq

theorem Falls.pending {L M : Ledger} {events : List Event} (h : Falls L events M)
    {id : InvocationId} (hid : M.state.pending = some id) : L.state.pending = some id := by
  induction h with
  | refl => exact hid
  | cons first _ ih => exact first.pending (ih hid)

theorem Rise.nextId_le {L M : Ledger} {events : List Event} (h : Rise L events M) :
    L.state.nextId ≤ M.state.nextId := by
  cases h with
  | ask =>
    rw [State.ask_fst]
    exact Nat.le_succ _
  | begin => exact Nat.le_succ _
  | pass =>
    change _ ≤ (State.leaveWait _ _).1.nextId
    rw [State.leaveWait_fst]

/-- A request becomes pending when it is made, and at no other time. -/
theorem Rise.pending {L M : Ledger} {events : List Event} (h : Rise L events M)
    {id : InvocationId} (hid : M.state.pending = some id) :
    L.state.pending = some id ∨ L.state.nextId ≤ id := by
  cases h with
  | ask s live inv request action model hinv hrequest =>
    rw [State.ask_fst, hrequest, hinv] at hid
    obtain rfl := Option.some.inj hid
    exact .inr le_rfl
  | begin => exact .inl hid
  | pass s live inv =>
    change (s.leaveWait inv.id).1.pending = some id at hid
    rw [State.leaveWait_fst] at hid
    grind

theorem Fall.waiters_le {L M : Ledger} {events : List Event} (h : Fall L events M) :
    waiters M.live ≤ waiters L.live := by
  cases h with
  | idle => exact le_rfl
  | forsake s live inv =>
    rw [waiters_cons_waiting]
    exact Multiset.le_cons_self _ _
  | settle =>
    rw [waiters_cons_of_ne (by decide), waiters_cons_of_ne (by decide)]
  | leave s live stage inv hstage => rw [waiters_cons_of_ne hstage]

/-- Whoever waits for what is pending goes on to do so, or does not wait any more. -/
theorem Sound.leaveWait_pending {s : State} {live : Multiset Standing} {inv : Invocation}
    (hL : Sound ⟨s, (.waiting, inv) ::ₘ live⟩) {id : InvocationId} (hid : s.pending = some id) :
    (s.leaveWait inv.id).1.pending = some id ∨ id ∉ waiters live := by
  obtain ⟨-, hfresh⟩ := hL.head
  rw [State.leaveWait_fst]
  by_cases h : inv.id = id
  · exact .inr (h ▸ mt mem_ids_of_mem_waiters hfresh)
  · left
    simp [hid, Ne.symm h]

theorem Fall.stays {L M : Ledger} {events : List Event} (h : Fall L events M) (hL : L.Sound)
    {id : InvocationId} (hid : L.state.pending = some id) :
    M.state.pending = some id ∨ id ∉ waiters M.live := by
  cases h with
  | idle | settle => exact .inl hid
  | forsake => exact hL.leaveWait_pending hid
  | leave =>
    left
    rw [State.endLoading_eq]
    exact hid

theorem Falls.stays {L M : Ledger} {events : List Event} (h : Falls L events M) (hL : L.Sound)
    {id : InvocationId} (hid : L.state.pending = some id) :
    M.state.pending = some id ∨ id ∉ waiters M.live := by
  have hM := h.preserves
    (P := fun L => L.Sound ∧ (L.state.pending = some id ∨ id ∉ waiters L.live)) ?_ ⟨hL, .inl hid⟩
  · exact hM.2
  · rintro L events M hfall ⟨hL, hstays | hgone⟩
    · exact ⟨hfall.sound hL, hfall.stays hL hstays⟩
    · exact ⟨hfall.sound hL, .inr fun h => hgone (Multiset.mem_of_le hfall.waiters_le h)⟩

theorem Rise.stays {L M : Ledger} {events : List Event} (h : Rise L events M) (hL : L.Sound)
    {id : InvocationId} (hid : L.state.pending = some id) :
    M.state.pending = some id ∨ M.state.pending = some L.state.nextId ∨
      id ∉ waiters M.live := by
  cases h with
  | ask s live inv request action model hinv hrequest =>
    rw [State.ask_fst, hrequest, hinv]
    exact .inr (.inl rfl)
  | begin => exact .inl hid
  | pass s live inv =>
    rw [waiters_cons_of_ne (by decide)]
    obtain hstays | hgone := hL.leaveWait_pending hid
    · exact .inl hstays
    · exact .inr (.inr hgone)

end Ledger

namespace System

variable (ex : Executor)

/-- Ids are given out in order, and only a new one becomes pending. -/
theorem step_frame (y : System) (a : Act) :
    y.state.nextId ≤ (y.step ex a).after.state.nextId ∧
      ∀ id, (y.step ex a).after.state.pending = some id →
        y.state.pending = some id ∨ y.state.nextId ≤ id := by
  obtain ⟨target, accepted, -, -, hafter, -, -⟩ | ⟨-, hrise | hfalls⟩ := step_cases ex y a
  · have hstate : (y.step ex a).after.state = (y.state.answer target accepted).2.1 :=
      congrArg Ledger.state hafter
    obtain ⟨hnext, -, hpending⟩ := y.state.answer_frame target accepted
    rw [hstate]
    exact ⟨hnext.ge, fun id hid => .inl (hpending id hid)⟩
  · exact ⟨hrise.nextId_le, fun id hid => hrise.pending hid⟩
  · exact ⟨hfalls.nextId_eq.ge, fun id hid => .inl (hfalls.pending hid)⟩

/-- A request that was answered, withdrawn or superseded is never pending again. -/
theorem not_pending_run {id : InvocationId} (acts : List Act) (y : System)
    (hknown : id < y.state.nextId) (hid : y.state.pending ≠ some id) :
    (y.run ex acts).state.pending ≠ some id := by
  induction acts generalizing y with
  | nil => exact hid
  | cons a acts ih =>
    obtain ⟨hnext, hpending⟩ := step_frame ex y a
    refine ih (y.step ex a).after (hknown.trans_le hnext) fun h => ?_
    obtain hold | hnew := hpending id h
    · exact hid hold
    · exact absurd hknown (Nat.not_lt.mpr hnew)

end System

/-! ## The tasks that wait -/

namespace Task

theorem confirming?_eq_some {t : Task} {id : InvocationId} :
    t.confirming? = some id ↔ ∃ inv, (.waiting, inv) ∈ t.live ∧ inv.id = id := by
  obtain ⟨focus, stack⟩ := t
  have hstack : ∀ inv, ((.waiting, inv) : Standing) ∉ stack.map Frame.standing := by
    intro inv hmem
    obtain ⟨frame, -, hframe⟩ := List.mem_map.mp hmem
    exact Frame.standing_ne_waiting frame (congrArg Prod.fst hframe)
  cases focus <;> simp [confirming?, Task.live, Focus.live, hstack]

/-- Once the reply has come, the next move of a task ends its wait. -/
theorem step_of_reply (ex : Executor) {s : State} {t : Task} {id : InvocationId} {reply : Reply}
    (ht : t.confirming? = some id) (hreply : s.reply? id = some reply) :
    ∃ move, t.step ex s = some move ∧ move.task.confirming? = none := by
  obtain ⟨focus, stack⟩ := t
  cases focus with
  | confirming inv =>
    obtain rfl := Option.some.inj ht
    simp only [step, hreply]
    refine ⟨_, rfl, ?_⟩
    cases reply <;> rfl
  | entering | handling | leaving => cases ht

theorem exists_abandonFrames_eq (s : State) (frames : List Frame) :
    ∃ loading, abandonFrames s frames = { s with loading := loading } := by
  induction frames generalizing s with
  | nil => exact ⟨s.loading, rfl⟩
  | cons frame frames ih =>
    obtain ⟨loading, h⟩ := ih (s.endLoading frame.inv.action.name)
    refine ⟨loading, h.trans ?_⟩
    rw [State.endLoading_eq]

/-- Who has ended holds nothing that is given back. -/
theorem abandon_of_result? {t : Task} (h : t.result?.isSome) (s : State) :
    t.abandon s = (s, []) := by
  obtain ⟨focus, stack⟩ := t
  cases focus with
  | leaving =>
    cases stack with
    | nil => rfl
    | cons => cases h
  | entering | confirming | handling => cases h

/-- Who does not wait for the pending request leaves it alone. -/
theorem abandon_of_not_pending {s : State} {t : Task}
    (h : ∀ id, t.confirming? = some id → s.pending ≠ some id) :
    (t.abandon s).1.pending = s.pending ∧ (t.abandon s).1.shown = s.shown := by
  obtain ⟨focus, stack⟩ := t
  obtain ⟨loading, hframes⟩ := exists_abandonFrames_eq (abandonFocus s focus).1 stack
  change (abandonFrames (abandonFocus s focus).1 stack).pending = s.pending ∧
    (abandonFrames (abandonFocus s focus).1 stack).shown = s.shown
  rw [hframes]
  cases focus with
  | confirming inv =>
    have hid : s.pending ≠ some inv.id := h inv.id rfl
    simp [abandonFocus, State.leaveWait_fst, hid]
  | handling inv =>
    rw [abandonFocus, State.endLoading_eq]
    exact ⟨rfl, rfl⟩
  | entering | leaving => exact ⟨rfl, rfl⟩

end Task

namespace System

variable (ex : Executor)

theorem mem_waiters_live {y : System} {id : InvocationId} :
    id ∈ Standing.waiters y.live ↔ ∃ t ∈ y.tasks, t.confirming? = some id := by
  simp only [Standing.waiters, Standing.ids, live, Multiset.mem_map, Multiset.mem_filter,
    Multiset.mem_coe, List.mem_flatMap, Task.confirming?_eq_some]
  constructor
  · rintro ⟨⟨stage, inv⟩, ⟨⟨t, ht, hmem⟩, hstage⟩, rfl⟩
    obtain rfl : stage = .waiting := hstage
    exact ⟨t, ht, inv, hmem, rfl⟩
  · rintro ⟨t, ht, inv, hmem, rfl⟩
    exact ⟨(.waiting, inv), ⟨⟨t, ht, hmem⟩, rfl⟩, rfl⟩

/-- No two tasks wait for the confirmation of one invocation. -/
theorem confirming?_injective {y : System} (hy : y.ledger.Sound) {i j : Nat} {t u : Task}
    {id : InvocationId} (hi : y.tasks[i]? = some t) (hj : y.tasks[j]? = some u)
    (ht : t.confirming? = some id) (hu : u.confirming? = some id) : i = j := by
  have hnodup : (y.tasks.flatMap fun t => t.live.map fun x => x.2.id).Nodup := by
    rw [← List.map_flatMap]
    exact Multiset.coe_nodup.mp hy.distinct
  have hdisjoint := List.pairwise_iff_getElem.mp (List.nodup_flatMap.mp hnodup).2
  have hmem : ∀ {t : Task}, t.confirming? = some id → id ∈ t.live.map fun x => x.2.id := by
    intro t h
    obtain ⟨inv, hinv, rfl⟩ := Task.confirming?_eq_some.mp h
    exact List.mem_map.mpr ⟨_, hinv, rfl⟩
  obtain ⟨hilt, rfl⟩ := List.getElem?_eq_some_iff.mp hi
  obtain ⟨hjlt, rfl⟩ := List.getElem?_eq_some_iff.mp hj
  rcases lt_trichotomy i j with hlt | heq | hlt
  · exact absurd (hmem hu) (hdisjoint i j hilt hjlt hlt (hmem ht))
  · exact heq
  · exact absurd (hmem ht) (hdisjoint j i hjlt hilt hlt (hmem hu))

/-- The pending request at a moment of a run. -/
structure Gate (y : System) : Prop where
  /-- What is shown is the request that is pending. -/
  shown : y.state.pending = y.state.shown.map Request.id
  /-- Whoever is pending is alive and waits, and was sent nothing. -/
  pending : ∀ id, y.state.pending = some id →
    (∃ t ∈ y.tasks, t.confirming? = some id) ∧ y.state.channel? id = some none
  alone : ∀ (i j : Nat) (t u : Task) (id : InvocationId), y.tasks[i]? = some t →
    y.tasks[j]? = some u → t.confirming? = some id → u.confirming? = some id → i = j
  /-- Anybody else who waits has got a reply and leaves at the next move. -/
  others : ∀ t ∈ y.tasks, ∀ id, t.confirming? = some id → y.state.pending ≠ some id →
    (∃ reply, y.state.reply? id = some reply) ∧
      ∃ move, t.step ex y.state = some move ∧ move.task.confirming? = none
  /-- The request stays unless it is answered, a newer one takes its place, or the invocation
  itself waits no more. -/
  stays : ∀ id, y.state.pending = some id → ∀ a, (y.step ex a).answer? = none →
    let after := (y.step ex a).after
    after.state.pending = some id ∨ after.state.pending = some y.state.nextId ∨
      ∀ t ∈ after.tasks, t.confirming? ≠ some id
  /-- Once answered or superseded, an invocation is never pending again. -/
  past : ∀ id < y.state.nextId, y.state.pending ≠ some id → ∀ acts,
    (y.run ex acts).state.pending ≠ some id
  /-- If such a one is dropped, the request that is pending then stays. -/
  drop : ∀ id < y.state.nextId, y.state.pending ≠ some id → ∀ acts (i : Nat) (t : Task),
    (y.run ex acts).tasks[i]? = some t → t.confirming? = some id →
      let dropped := ((y.run ex acts).step ex (.drop i)).after.state
      dropped.pending = (y.run ex acts).state.pending ∧
        dropped.shown = (y.run ex acts).state.shown
  /-- An answer finds somebody exactly when a request is pending. -/
  answer : ∀ accepted, (y.state.answer none accepted).1 = y.state.pending.isSome

theorem drop_of_not_pending {y : System} {i : Nat} {t : Task} (hi : y.tasks[i]? = some t)
    (ht : ∀ id, t.confirming? = some id → y.state.pending ≠ some id) :
    let dropped := (y.step ex (.drop i)).after.state
    dropped.pending = y.state.pending ∧ dropped.shown = y.state.shown := by
  have hdropped : (y.step ex (.drop i)).after.state = (t.abandon y.state).1 := by
    simp only [step, perform, hi]
  rw [hdropped]
  exact Task.abandon_of_not_pending ht

theorem stays_of_not_answered {y : System} (hy : y.ledger.Sound) {id : InvocationId}
    (hid : y.state.pending = some id) (a : Act) (ha : (y.step ex a).answer? = none) :
    let after := (y.step ex a).after
    after.state.pending = some id ∨ after.state.pending = some y.state.nextId ∨
      ∀ t ∈ after.tasks, t.confirming? ≠ some id := by
  have hgone : id ∉ Standing.waiters (y.step ex a).after.live →
      ∀ t ∈ (y.step ex a).after.tasks, t.confirming? ≠ some id := by
    intro h t ht hwaits
    exact h (mem_waiters_live.mpr ⟨t, ht, hwaits⟩)
  obtain ⟨_, _, _, hanswer, -⟩ | ⟨-, hrise | hfalls⟩ := step_cases ex y a
  · cases ha.symm.trans hanswer
  · exact (hrise.stays hy hid).imp_right (Or.imp_right hgone)
  · exact (hfalls.stays hy hid).imp_right fun h => .inr (hgone h)

/-- At every moment of every run, the pending request belongs to one live invocation that
waits for it, and nobody else stands in its way. -/
theorem gate_run (model : Value) (acts : List Act) : ((init model).run ex acts).Gate ex := by
  have hsound := sound_run ex model acts
  generalize (init model).run ex acts = y at hsound
  refine ⟨hsound.shown, ?_, ?_, ?_, ?_, ?_, ?_, ?_⟩
  · intro id hid
    have hchannel := (hsound.unresolved id).mpr hid
    have hwaits : id ∈ Standing.waiters y.live := (hsound.waiting id).mp (by simp [hchannel])
    exact ⟨mem_waiters_live.mp hwaits, hchannel⟩
  · intro i j t u id hi hj
    exact confirming?_injective hsound hi hj
  · intro t ht id hid hother
    have hwaits := (hsound.waiting id).mpr (mem_waiters_live.mpr ⟨t, ht, hid⟩)
    obtain ⟨channel, hchannel⟩ := Option.isSome_iff_exists.mp hwaits
    cases channel with
    | none => exact absurd ((hsound.unresolved id).mp hchannel) hother
    | some reply =>
      have hreply : y.state.reply? id = some reply := congrArg Option.join hchannel
      exact ⟨⟨reply, hreply⟩, Task.step_of_reply ex hid hreply⟩
  · intro id hid a
    exact stays_of_not_answered ex hsound hid a
  · intro id hknown hid more
    exact not_pending_run ex more y hknown hid
  · intro id hknown hid more i t hi ht
    refine drop_of_not_pending ex hi ?_
    intro other hother
    obtain rfl := Option.some.inj (ht.symm.trans hother)
    exact not_pending_run ex more y hknown hid
  · intro accepted
    obtain ⟨id, hid, -, hanswer⟩ | ⟨hnone, hanswer⟩ := hsound.answer_cases none accepted
    · rw [hanswer, show y.state.pending = some id from hid]
      rfl
    · rw [hanswer]
      cases hpending : y.state.pending with
      | none => rfl
      | some id => exact absurd (hnone id hpending) (by simp)

end System

end ScreenLogic
