import ScreenLogic.Proofs.Executor.Loading

/-!
# The story of a run

What is seen during a run tells which handlers were called and which have settled, and the
answers that were given tell who was confirmed. All of that agrees with who lives, waits
and is pending when the run is over.

## Main definitions

* `calls`, `settlements`, `gated`: whose handlers were called, whose have settled, and who
  wants to be confirmed.
* `Step.delivers?`: the answer that a step delivers, and to whom.

## Main statements

* `System.called_run`, `System.told_run`: the story agrees with the system after a run.
-/

namespace ScreenLogic

/-! ## What can be seen -/

namespace Event

def called? : Event → Option InvocationId
  | .called id _ _ => some id
  | _ => none

def settled? : Event → Option InvocationId
  | .settled id _ => some id
  | _ => none

/-- An invocation began, of an action that wants to be confirmed. -/
def gated? : Event → Option InvocationId
  | .started id action _ => if action.confirm.isSome then some id else none
  | _ => none

/-- Nothing is done for an invocation, neither its handler called nor an effect applied. -/
def isQuiet : Event → Bool
  | .started _ _ _ | .called _ _ _ | .settled _ _ | .wrote _ _ | .navigated _ => false
  | _ => true

theorem isQuiet_of_isLook {e : Event} (h : e.isLook) : e.isQuiet := by
  cases e <;> first | rfl | cases h

theorem none_of_isQuiet {e : Event} (h : e.isQuiet) :
    e.called? = none ∧ e.settled? = none ∧ e.gated? = none := by
  cases e <;> first | exact ⟨rfl, rfl, rfl⟩ | cases h

theorem none_of_isEffect {e : Event} (h : e.isEffect) :
    e.called? = none ∧ e.settled? = none ∧ e.gated? = none := by
  cases e <;> first | exact ⟨rfl, rfl, rfl⟩ | cases h

theorem not_isEffect_of_isQuiet {e : Event} (h : e.isQuiet) : ¬e.isEffect := by
  cases e <;> first | exact Bool.false_ne_true | cases h

end Event

/-- The handlers that were called, by their invocations. -/
def calls (story : List Event) : List InvocationId := story.filterMap Event.called?

/-- Those whose handlers have settled, so that their effects are applied. -/
def settlements (story : List Event) : List InvocationId := story.filterMap Event.settled?

/-- Those that want to be confirmed before their handlers are called. -/
def gated (story : List Event) : List InvocationId := story.filterMap Event.gated?

@[simp] theorem calls_append (story more : List Event) :
    calls (story ++ more) = calls story ++ calls more := List.filterMap_append

@[simp] theorem settlements_append (story more : List Event) :
    settlements (story ++ more) = settlements story ++ settlements more := List.filterMap_append

@[simp] theorem gated_append (story more : List Event) :
    gated (story ++ more) = gated story ++ gated more := List.filterMap_append

/-- An invocation has settled, and nothing but its effects was seen since. -/
def Settling (id : InvocationId) (seen : List Event) : Prop :=
  ∃ former result applied, seen = former ++ .settled id result :: applied ∧
    ∀ e ∈ applied, e.isEffect

theorem Settling.append {id : InvocationId} {seen : List Event} (h : Settling id seen)
    (former : List Event) : Settling id (former ++ seen) := by
  obtain ⟨between, result, applied, rfl, heffects⟩ := h
  exact ⟨former ++ between, result, applied, (List.append_assoc _ _ _).symm, heffects⟩

theorem Settling.not_nil {id : InvocationId} : ¬Settling id [] := by
  rintro ⟨former, result, applied, hnil, -⟩
  cases (List.append_eq_nil_iff.mp hnil.symm).2

section Quiet

variable {events : List Event} (h : ∀ e ∈ events, e.isQuiet)
include h

theorem calls_of_quiet : calls events = [] :=
  List.filterMap_eq_nil_iff.mpr fun e he => (Event.none_of_isQuiet (h e he)).1

theorem settlements_of_quiet : settlements events = [] :=
  List.filterMap_eq_nil_iff.mpr fun e he => (Event.none_of_isQuiet (h e he)).2.1

theorem gated_of_quiet : gated events = [] :=
  List.filterMap_eq_nil_iff.mpr fun e he => (Event.none_of_isQuiet (h e he)).2.2

end Quiet

namespace State

theorem quiet_supersede (s : State) : ∀ e ∈ s.supersede.2, e.isQuiet := by
  unfold supersede
  split
  · dsimp only
    split
    · exact List.forall_mem_singleton.mpr rfl
    · exact List.forall_mem_nil _
  · exact List.forall_mem_nil _

theorem quiet_ask (s : State) (request : Request) : ∀ e ∈ (s.ask request).2, e.isQuiet :=
  List.forall_mem_append.mpr ⟨s.quiet_supersede, List.forall_mem_singleton.mpr rfl⟩

theorem quiet_leaveWait (s : State) (id : InvocationId) :
    ∀ e ∈ (s.leaveWait id).2, e.isQuiet := by
  unfold leaveWait withdraw
  split
  · exact List.forall_mem_singleton.mpr rfl
  · exact List.forall_mem_nil _

/-- Whoever answers, be it a handler that looks what came of it. -/
theorem quiet_answer (s : State) (target : Option InvocationId) (accepted : Bool)
    {looks : List Event} (hlooks : ∀ e ∈ looks, e.isLook) :
    ∀ e ∈ (s.answer target accepted).2.2 ++ looks, e.isQuiet := by
  refine List.forall_mem_append.mpr ⟨?_, fun e he => Event.isQuiet_of_isLook (hlooks e he)⟩
  unfold answer
  split
  · split
    · refine List.forall_mem_cons.mpr ⟨rfl, ?_⟩
      split
      · exact List.forall_mem_singleton.mpr rfl
      · exact List.forall_mem_nil _
    · exact List.forall_mem_nil _
  · exact List.forall_mem_nil _

end State

/-! ## Handlers that were called -/

namespace Ledger

open Standing

/-- Nobody is busy before its handler is called, nobody has settled then, and nobody waits
afterwards or is called again. -/
structure Called (story : List Event) (L : Ledger) : Prop where
  known : ∀ id ∈ calls story, id < L.state.nextId
  passed : ∀ id ∈ calls story, id ∉ waiters L.live
  once : (calls story).Nodup
  busy : ∀ inv ∈ busy L.live, inv.id ∈ calls story
  settled : ∀ id ∈ settlements story, id ∈ calls story

variable {story : List Event} {L M : Ledger} {events : List Event}

/-- No handler is called and none settles. -/
theorem Called.append (h : Called story L) (hcalls : calls events = [])
    (hsettled : settlements events = []) (hnext : L.state.nextId ≤ M.state.nextId)
    (hwaiters : ∀ id ∈ waiters M.live, id ∈ waiters L.live ∨ L.state.nextId ≤ id)
    (hbusy : Standing.busy M.live ≤ Standing.busy L.live) : Called (story ++ events) M := by
  refine ⟨?_, ?_, ?_, ?_, ?_⟩
  all_goals simp only [calls_append, settlements_append, hcalls, hsettled, List.append_nil]
  · exact fun id hid => (h.known id hid).trans_le hnext
  · intro id hid hmem
    obtain hold | hnew := hwaiters id hmem
    · exact h.passed id hid hold
    · exact absurd (h.known id hid) (Nat.not_lt.mpr hnew)
  · exact h.once
  · exact fun inv hinv => h.busy inv (Multiset.mem_of_le hbusy hinv)
  · exact h.settled

/-- A handler is called, of somebody new or of one who waited. -/
theorem Called.call {s t : State} {live rest : Multiset Standing} {inv : Invocation}
    {params : Fields Value} (h : Called story ⟨s, live⟩) (hcalls : calls events = [])
    (hsettled : settlements events = []) (hnext : s.nextId ≤ t.nextId)
    (hwaiters : waiters rest ≤ waiters live) (hbusy : Standing.busy rest = Standing.busy live)
    (hid : inv.id < t.nextId) (hnew : inv.id ∉ calls story) (hgone : inv.id ∉ waiters rest) :
    Called (story ++ (events ++ [.called inv.id inv.action.name params]))
      ⟨t, (.handling, inv) ::ₘ rest⟩ := by
  have hcall : calls [.called inv.id inv.action.name params] = [inv.id] := rfl
  have hnone : settlements [.called inv.id inv.action.name params] = [] := rfl
  refine ⟨?_, ?_, ?_, ?_, ?_⟩
  all_goals simp only [calls_append, settlements_append, hcalls, hsettled, hcall, hnone,
    List.append_nil, List.nil_append]
  · rw [List.forall_mem_append, List.forall_mem_singleton]
    exact ⟨fun id hid => (h.known id hid).trans_le hnext, hid⟩
  · rw [waiters_cons_of_ne (by decide), List.forall_mem_append, List.forall_mem_singleton]
    exact ⟨fun id hid hmem => h.passed id hid (Multiset.mem_of_le hwaiters hmem), hgone⟩
  · exact List.nodup_append_comm.mp (List.nodup_cons.mpr ⟨hnew, h.once⟩)
  · rw [busy_cons_of_ne (by decide), hbusy]
    intro other hother
    obtain rfl | hother := Multiset.mem_cons.mp hother
    · exact List.mem_append_right _ (List.mem_singleton_self _)
    · exact List.mem_append_left _ (h.busy other hother)
  · exact fun id hid => List.mem_append_left _ (h.settled id hid)

theorem Called.quiet (h : Called story L) (hquiet : ∀ e ∈ events, e.isQuiet)
    (hnext : L.state.nextId = M.state.nextId) (hwaiters : waiters M.live ≤ waiters L.live)
    (hbusy : Standing.busy M.live ≤ Standing.busy L.live) : Called (story ++ events) M :=
  h.append (calls_of_quiet hquiet) (settlements_of_quiet hquiet) hnext.le
    (fun _ hid => .inl (Multiset.mem_of_le hwaiters hid)) hbusy

theorem Fall.called (h : Fall L events M) (hL : Called story L) : Called (story ++ events) M := by
  have hnext := h.nextId_eq.symm
  cases h with
  | idle s live model clock timers events hlook =>
    exact hL.quiet (fun e he => Event.isQuiet_of_isLook (hlook e he)) hnext le_rfl le_rfl
  | forsake s live inv =>
    refine hL.quiet (s.quiet_leaveWait inv.id) hnext ?_ ?_
    · rw [waiters_cons_waiting]
      exact Multiset.le_cons_self _ _
    · rw [busy_cons_waiting]
  | settle s live inv result effects model heffects =>
    have hcalls : calls (.settled inv.id result :: effects) = [] :=
      List.filterMap_eq_nil_iff.mpr <| List.forall_mem_cons.mpr
        ⟨rfl, fun e he => (Event.none_of_isEffect (heffects e he)).1⟩
    have hsettled : settlements (.settled inv.id result :: effects) = [inv.id] :=
      congrArg (List.cons inv.id) <| List.filterMap_eq_nil_iff.mpr fun e he =>
        (Event.none_of_isEffect (heffects e he)).2.1
    obtain ⟨hknown, hpassed, honce, hbusy, hsettlements⟩ := hL
    rw [waiters_cons_of_ne (by decide)] at hpassed
    rw [busy_cons_of_ne (by decide)] at hbusy
    refine ⟨?_, ?_, ?_, ?_, ?_⟩
    all_goals simp only [calls_append, settlements_append, hcalls, hsettled, List.append_nil]
    · exact hknown
    · rwa [waiters_cons_of_ne (by decide)]
    · exact honce
    · rwa [busy_cons_of_ne (by decide)]
    · rw [List.forall_mem_append, List.forall_mem_singleton]
      exact ⟨hsettlements, hbusy inv (Multiset.mem_cons_self _ _)⟩
  | leave s live stage inv hstage =>
    refine hL.quiet (List.forall_mem_nil _) hnext ?_ ?_
    · rw [waiters_cons_of_ne hstage]
    · rw [busy_cons_of_ne hstage]
      exact Multiset.le_cons_self _ _

theorem Falls.called (h : Falls L events M) (hL : Called story L) : Called (story ++ events) M := by
  induction h generalizing story with
  | refl => rwa [List.append_nil]
  | cons first _ ih =>
    rw [← List.append_assoc]
    exact ih (first.called hL)

theorem Rise.called (h : Rise L events M) (hL : Called story L) (hsound : L.Sound) :
    Called (story ++ events) M := by
  have hnext := h.nextId_le
  cases h with
  | ask s live inv request action model hid hrequest hconfirm =>
    have hquiet := ({ s with nextId := s.nextId + 1 } : State).quiet_ask request
    have hcalls := calls_of_quiet hquiet
    have hsettled := settlements_of_quiet hquiet
    refine hL.append hcalls hsettled hnext ?_ ?_
    · rw [waiters_cons_waiting]
      intro id hmem
      obtain rfl | hmem := Multiset.mem_cons.mp hmem
      · exact .inr hid.ge
      · exact .inl hmem
    · rw [busy_cons_waiting]
  | begin s live inv action model params timers hid hconfirm =>
    have hfresh : inv.id ∉ ids live := hid ▸ hsound.nextId_notMem
    have hnew : inv.id ∉ calls story := fun h => Nat.lt_irrefl s.nextId (hid ▸ hL.known _ h)
    have hcalls : calls [.started s.nextId action model] = [] := rfl
    have hsettled : settlements [.started s.nextId action model] = [] := rfl
    exact hL.call hcalls hsettled hnext le_rfl rfl (hid ▸ Nat.lt_succ_self s.nextId) hnew
      (mt mem_ids_of_mem_waiters hfresh)
  | pass s live inv params timers hreply =>
    obtain ⟨hknown, hfresh⟩ := hsound.head
    have hwaits : inv.id ∈ waiters ((.waiting, inv) ::ₘ live) := by
      rw [waiters_cons_waiting]
      exact Multiset.mem_cons_self _ _
    have hquiet := s.quiet_leaveWait inv.id
    refine hL.call (calls_of_quiet hquiet) (settlements_of_quiet hquiet) hnext ?_ ?_ ?_ ?_ ?_
    · rw [waiters_cons_waiting]
      exact Multiset.le_cons_self _ _
    · rw [busy_cons_waiting]
    · exact hknown.trans_le hnext
    · exact fun h => hL.passed inv.id h hwaits
    · exact mt mem_ids_of_mem_waiters hfresh

end Ledger

/-! ## Answers that were delivered -/

/-- The answer that a step delivers, and to whom: to the invocation that is pending then,
provided that whoever answers is told so. -/
def Step.delivers? (st : Step) : Option (InvocationId × Bool) :=
  match st.answer?, st.before.state.pending with
  | some (target, accepted), some id =>
    if (st.before.state.answer target accepted).1 then some (id, accepted) else none
  | _, _ => none

def story (steps : List Step) : List Event := steps.flatMap Step.events

def deliveries (steps : List Step) : List (InvocationId × Bool) := steps.filterMap Step.delivers?

theorem story_cons (st : Step) (steps : List Step) :
    story (st :: steps) = st.events ++ story steps := rfl

theorem story_singleton (st : Step) : story [st] = st.events := List.append_nil st.events

@[simp] theorem story_append (steps more : List Step) :
    story (steps ++ more) = story steps ++ story more := List.flatMap_append

@[simp] theorem deliveries_append (steps more : List Step) :
    deliveries (steps ++ more) = deliveries steps ++ deliveries more := List.filterMap_append

theorem Step.delivers?_of_not_answered {st : Step} (h : st.answer? = none) :
    st.delivers? = none := by
  simp [delivers?, h]

theorem Step.delivers?_eq_some {st : Step} {id : InvocationId} {accepted : Bool}
    (h : st.delivers? = some (id, accepted)) :
    ∃ target, st.answer? = some (target, accepted) ∧ st.before.state.pending = some id ∧
      (st.before.state.answer target accepted).1 = true := by
  unfold delivers? at h
  split at h
  · rename_i target accepted' id' hanswer hpending
    split at h
    · rename_i htold
      obtain ⟨rfl, rfl⟩ := Prod.mk.inj (Option.some.inj h)
      exact ⟨target, hanswer, hpending, htold⟩
    · cases h
  · cases h

/-- An answer is delivered to the pending invocation if that is meant, and to nobody else. -/
theorem Step.delivers?_cases {st : Step} {target : Option InvocationId} {accepted : Bool}
    (hst : st.answer? = some (target, accepted)) (hsound : st.before.ledger.Sound) :
    (∃ id, st.before.state.pending = some id ∧ target.all (· == id) ∧
      st.delivers? = some (id, accepted) ∧ st.before.state.answer target accepted =
        (true, st.before.state.answered id accepted,
          [.shown none, .replied id (.ofAnswer accepted)])) ∨
    (∀ id, st.before.state.pending = some id → target.all (· == id) = false) ∧
      st.delivers? = none ∧
      st.before.state.answer target accepted = (false, st.before.state, []) := by
  obtain ⟨id, hpending, htarget, hanswer⟩ | ⟨hother, hanswer⟩ :=
    Ledger.Sound.answer_cases hsound target accepted
  · refine .inl ⟨id, hpending, htarget, ?_, hanswer⟩
    simp only [delivers?, hst, hpending, hanswer, if_true]
  · refine .inr ⟨hother, ?_, hanswer⟩
    cases hpending : st.before.state.pending with
    | none => simp only [delivers?, hst, hpending]
    | some id => simp [delivers?, hst, hpending, hanswer]

namespace Ledger

/-- Whoever got an answer was numbered and is not pending any more, got it once, and is not
confirmed in any other way. -/
structure Told (told : List (InvocationId × Bool)) (s : State) : Prop where
  known : ∀ x ∈ told, x.1 < s.nextId
  past : ∀ x ∈ told, s.pending ≠ some x.1
  once : (told.map Prod.fst).Nodup
  accepted : ∀ id, s.channel? id = some (some .accepted) → (id, true) ∈ told

theorem Fall.accepted {L M : Ledger} {events : List Event} (h : Fall L events M)
    {id : InvocationId} (hid : M.state.channel? id = some (some .accepted)) :
    L.state.channel? id = some (some .accepted) := by
  cases h with
  | idle | settle => exact hid
  | forsake =>
    rw [State.channel?_leaveWait] at hid
    grind
  | leave =>
    rw [State.endLoading_eq] at hid
    exact hid

theorem Falls.accepted {L M : Ledger} {events : List Event} (h : Falls L events M)
    {id : InvocationId} (hid : M.state.channel? id = some (some .accepted)) :
    L.state.channel? id = some (some .accepted) := by
  induction h with
  | refl => exact hid
  | cons first _ ih => exact first.accepted (ih hid)

theorem Rise.accepted {L M : Ledger} {events : List Event} (h : Rise L events M)
    {id : InvocationId} (hid : M.state.channel? id = some (some .accepted)) :
    L.state.channel? id = some (some .accepted) := by
  cases h with
  | ask s live inv request =>
    rw [State.channel?_ask, State.channel?_supersede] at hid
    obtain hid | ⟨-, hid⟩ := Option.or_eq_some_iff.mp hid <;> split at hid
    · cases hid
    · exact hid
    · cases hid
    · cases hid
  | begin => exact hid
  | pass s live inv params timers hreply =>
    change (s.leaveWait inv.id).1.channel? id = some (some .accepted) at hid
    rw [State.channel?_leaveWait] at hid
    grind

theorem Told.answer {told : List (InvocationId × Bool)} {s : State} (h : Told told s)
    {id : InvocationId} {accepted : Bool} (hknown : id < s.nextId)
    (hpending : s.pending = some id) :
    Told (told ++ [(id, accepted)]) (s.answered id accepted) := by
  refine ⟨?_, ?_, ?_, ?_⟩
  · rw [List.forall_mem_append, List.forall_mem_singleton]
    exact ⟨h.known, hknown⟩
  · exact fun _ _ => nofun
  · rw [List.map_append]
    have hnew : id ∉ told.map Prod.fst := by
      intro hmem
      obtain ⟨x, hx, rfl⟩ := List.mem_map.mp hmem
      exact h.past x hx hpending
    exact List.nodup_append_comm.mp (List.nodup_cons.mpr ⟨hnew, h.once⟩)
  · intro other hother
    rw [State.channel?_answered] at hother
    split at hother
    · rename_i hid
      obtain ⟨rfl, -⟩ := hid
      cases accepted with
      | true => exact List.mem_append_right _ (List.mem_singleton_self _)
      | false => cases hother
    · exact List.mem_append_left _ (h.accepted other hother)

end Ledger

namespace System

variable (ex : Executor)

theorem accepted_of_step {y : System} {a : Act} (ha : (y.step ex a).answer? = none)
    {id : InvocationId} (h : (y.step ex a).after.state.channel? id = some (some .accepted)) :
    y.state.channel? id = some (some .accepted) := by
  obtain ⟨_, _, _, hanswer, -⟩ | ⟨-, hrise | hfalls⟩ := step_cases ex y a
  · cases ha.symm.trans hanswer
  · exact hrise.accepted h
  · exact hfalls.accepted h

theorem called_step {y : System} {seen : List Event} (hy : y.ledger.Sound)
    (h : Ledger.Called seen y.ledger) (a : Act) :
    Ledger.Called (seen ++ (y.step ex a).events) (y.step ex a).after.ledger := by
  obtain ⟨target, accepted, looks, -, hafter, hevents, hlooks⟩ | ⟨-, hrise | hfalls⟩ :=
    step_cases ex y a
  · obtain ⟨hnext, -, -⟩ := y.state.answer_frame target accepted
    rw [hafter, hevents]
    exact h.quiet (y.state.quiet_answer target accepted hlooks) hnext.symm le_rfl le_rfl
  · exact hrise.called h hy
  · exact hfalls.called h

/-- The story of a run tells who has passed the gate. -/
theorem called_run (model : Value) (acts : List Act) :
    Ledger.Called (story ((init model).steps ex acts)) ((init model).run ex acts).ledger := by
  refine (run_induction ex
    (motive := fun steps y => y.ledger.Sound ∧ Ledger.Called (story steps) y.ledger) ?_ ?_ acts).2
  · exact ⟨Ledger.sound_init model, List.forall_mem_nil _, List.forall_mem_nil _, List.nodup_nil,
      fun inv hinv => absurd hinv (Multiset.notMem_zero inv), List.forall_mem_nil _⟩
  · rintro steps y a ⟨hy, h⟩
    refine ⟨sound_step ex hy a, ?_⟩
    rw [story_append, story_singleton]
    exact called_step ex hy h a

theorem state_of_answered {y : System} {a : Act} {target : Option InvocationId} {accepted : Bool}
    (h : (y.step ex a).answer? = some (target, accepted)) :
    (y.step ex a).after.state = (y.state.answer target accepted).2.1 := by
  obtain ⟨target', accepted', -, hanswer, hafter, -, -⟩ | ⟨hanswer, -⟩ := step_cases ex y a
  · obtain ⟨rfl, rfl⟩ := Prod.mk.inj (Option.some.inj (h.symm.trans hanswer))
    exact congrArg Ledger.state hafter
  · cases h.symm.trans hanswer

theorem step_delivers {y : System} (hy : y.ledger.Sound) {a : Act} {id : InvocationId}
    {accepted : Bool} (h : (y.step ex a).delivers? = some (id, accepted)) :
    y.state.channel? id = some none ∧
      (y.step ex a).after.ledger = ⟨y.state.answered id accepted, y.live⟩ ∧
      ∃ looks, (y.step ex a).events =
        [.shown none, .replied id (.ofAnswer accepted)] ++ looks ∧ ∀ e ∈ looks, e.isLook := by
  obtain ⟨target, accepted', looks, hanswer, hafter, hevents, hlooks⟩ | ⟨hanswer, -⟩ :=
    step_cases ex y a
  · obtain ⟨id', hpending, -, hdelivers, hgiven⟩ | ⟨-, hdelivers, -⟩ :=
      Step.delivers?_cases hanswer hy
    · obtain ⟨rfl, rfl⟩ := Prod.mk.inj (Option.some.inj (h.symm.trans hdelivers))
      rw [hafter, hevents, show y.state.answer target accepted = _ from hgiven]
      exact ⟨(hy.unresolved id).mpr hpending, rfl, looks, rfl, hlooks⟩
    · cases h.symm.trans hdelivers
  · cases h.symm.trans (Step.delivers?_of_not_answered hanswer)

theorem told_step {y : System} {told : List (InvocationId × Bool)} (hy : y.ledger.Sound)
    (h : Ledger.Told told y.state) (a : Act) :
    Ledger.Told (told ++ deliveries [y.step ex a]) (y.step ex a).after.state := by
  obtain ⟨target, accepted, -, hanswer, hafter, -, -⟩ | ⟨hanswer, -⟩ := step_cases ex y a
  · have hstate : (y.step ex a).after.state = (y.state.answer target accepted).2.1 :=
      congrArg Ledger.state hafter
    obtain ⟨id, hpending, -, hdelivers, hgiven⟩ | ⟨-, hdelivers, hgiven⟩ :=
      Step.delivers?_cases hanswer hy
    · have hwaits := (hy.waiting id).mp (Option.isSome_of_eq_some ((hy.unresolved id).mpr hpending))
      have hknown := hy.known id (Standing.mem_ids_of_mem_waiters hwaits)
      have hmore : deliveries [y.step ex a] = [(id, accepted)] := by
        simp [deliveries, hdelivers]
      rw [hstate, hmore, show y.state.answer target accepted = _ from hgiven]
      exact h.answer hknown hpending
    · have hmore : deliveries [y.step ex a] = [] := by simp [deliveries, hdelivers]
      rw [hstate, hmore, List.append_nil, show y.state.answer target accepted = _ from hgiven]
      exact h
  · have hmore : deliveries [y.step ex a] = [] := by
      simp [deliveries, Step.delivers?_of_not_answered hanswer]
    obtain ⟨hnext, hpending⟩ := step_frame ex y a
    rw [hmore, List.append_nil]
    refine ⟨?_, ?_, h.once, ?_⟩
    · exact fun x hx => (h.known x hx).trans_le hnext
    · intro x hx hid
      obtain hold | hnew := hpending x.1 hid
      · exact h.past x hx hold
      · exact absurd (h.known x hx) (Nat.not_lt.mpr hnew)
    · exact fun id hid => h.accepted id (accepted_of_step ex hanswer hid)

/-- The story of a run tells who got an answer. -/
theorem told_run (model : Value) (acts : List Act) :
    Ledger.Told (deliveries ((init model).steps ex acts)) ((init model).run ex acts).state := by
  refine (run_induction ex
    (motive := fun steps y => y.ledger.Sound ∧ Ledger.Told (deliveries steps) y.state) ?_ ?_ acts).2
  · exact ⟨Ledger.sound_init model, List.forall_mem_nil _, List.forall_mem_nil _, List.nodup_nil,
      fun _ h => by cases h⟩
  · rintro steps y a ⟨hy, h⟩
    refine ⟨sound_step ex hy a, ?_⟩
    rw [deliveries_append]
    exact told_step ex hy h a

end System

end ScreenLogic
