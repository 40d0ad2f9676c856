import ScreenLogic.Executor.State

/-!
# Channels of those who wait

What the operations on the shared state do to the channels, to the pending request and to
the one that is shown, read off channel by channel.

## Main statements

* `State.channel?_ask`: a new channel is opened, and the one that was pending is closed.
* `State.answer_of_pending`, `State.answer_of_other`: an answer is sent to the pending one
  if that is meant, and else does nothing.
* `State.channel?_leaveWait`: who leaves has no channel any more.
-/

namespace ScreenLogic

namespace State

/-! ## Sending -/

theorem lookup_map_reply (channels : List (InvocationId × Option Reply)) (id : InvocationId)
    (r : Reply) (other : InvocationId) :
    (channels.map fun c => if c.1 = id then (id, some r) else c).lookup other =
      if other = id then (channels.lookup other).map fun _ => some r
      else channels.lookup other := by
  induction channels with
  | nil => simp
  | cons c rest ih =>
    obtain ⟨key, reply⟩ := c
    rw [List.map_cons, List.lookup_cons]
    by_cases hkey : key = id
    · rw [if_pos hkey, List.lookup_cons, ih, hkey]
      by_cases hother : other = id
      · simp [hother]
      · simp [hother, beq_false_of_ne hother]
    · rw [if_neg hkey, List.lookup_cons, ih]
      by_cases hother : other = key
      · simp [hother, hkey]
      · simp [beq_false_of_ne hother]

theorem lookup_filter_ne (channels : List (InvocationId × Option Reply))
    (id other : InvocationId) :
    (channels.filter (·.1 != id)).lookup other =
      if other = id then none else channels.lookup other := by
  induction channels with
  | nil => simp
  | cons c rest ih => grind

theorem reply?_eq_some {s : State} {id : InvocationId} {reply : Reply} :
    s.reply? id = some reply ↔ s.channel? id = some (some reply) :=
  Option.join_eq_some_iff

theorem send_snd (s : State) (id : InvocationId) (r : Reply) :
    (s.send id r).2 = { s with channels := (s.send id r).2.channels } := by
  unfold send
  split <;> rfl

theorem channel?_send (s : State) (id : InvocationId) (r : Reply) (other : InvocationId) :
    (s.send id r).2.channel? other =
      if other = id ∧ s.channel? id = some none then some (some r) else s.channel? other := by
  unfold send
  split
  · rename_i h
    simp only [channel?, lookup_map_reply] at h ⊢
    grind
  · rename_i h
    simp [h]

/-! ## Asking -/

theorem supersede_fst (s : State) :
    s.supersede.1 = { s with channels := s.supersede.1.channels } := by
  unfold supersede
  split
  · exact send_snd s _ .closed
  · rfl

theorem channel?_supersede (s : State) (id : InvocationId) :
    s.supersede.1.channel? id =
      if s.pending = some id ∧ s.channel? id = some none then some (some .closed)
      else s.channel? id := by
  unfold supersede
  split
  · rename_i old h
    rw [h]
    exact (channel?_send s old .closed id).trans (by grind)
  · rename_i h
    simp [h]

theorem ask_fst (s : State) (request : Request) :
    (s.ask request).1 =
      { s with
        channels := s.supersede.1.channels ++ [(request.id, none)]
        pending := some request.id
        shown := some request } := by
  change { s.supersede.1 with
    channels := s.supersede.1.channels ++ [(request.id, none)]
    pending := some request.id
    shown := some request } = _
  rw [supersede_fst]

theorem channel?_ask (s : State) (request : Request) (id : InvocationId) :
    (s.ask request).1.channel? id =
      (s.supersede.1.channel? id).or (if id = request.id then some none else none) := by
  rw [ask_fst]
  simp only [channel?, List.lookup_append, List.lookup_cons, List.lookup_nil]
  grind

/-! ## Leaving -/

theorem leaveWait_fst (s : State) (id : InvocationId) :
    (s.leaveWait id).1 =
      { s with
        channels := s.channels.filter (·.1 != id)
        pending := if s.pending = some id then none else s.pending
        shown := if s.pending = some id then none else s.shown } := by
  unfold leaveWait withdraw
  dsimp only
  split <;> simp_all

theorem channel?_leaveWait (s : State) (id other : InvocationId) :
    (s.leaveWait id).1.channel? other = if other = id then none else s.channel? other := by
  rw [leaveWait_fst]
  exact lookup_filter_ne s.channels id other

/-! ## Answering -/

/-- The pending invocation was told. -/
def answered (s : State) (id : InvocationId) (accepted : Bool) : State :=
  { s with
    channels := (s.send id (.ofAnswer accepted)).2.channels
    pending := none
    shown := none }

theorem channel?_answered (s : State) (id : InvocationId) (accepted : Bool)
    (other : InvocationId) :
    (s.answered id accepted).channel? other =
      if other = id ∧ s.channel? id = some none then some (some (.ofAnswer accepted))
      else s.channel? other :=
  channel?_send s id (.ofAnswer accepted) other

theorem answer_of_pending {s : State} {id : InvocationId} {target : Option InvocationId}
    (accepted : Bool) (hpending : s.pending = some id) (htarget : target.all (· == id))
    (hchannel : s.channel? id = some none) :
    s.answer target accepted =
      (true, s.answered id accepted, [.shown none, .replied id (.ofAnswer accepted)]) := by
  have hsend : ({ s with pending := none, shown := none } : State).channel? id = some none :=
    hchannel
  simp only [answer, answered, hpending, htarget, if_true, send, hsend, hchannel]

theorem answer_of_other {s : State} {target : Option InvocationId} (accepted : Bool)
    (h : ∀ id, s.pending = some id → target.all (· == id) = false) :
    s.answer target accepted = (false, s, []) := by
  unfold answer
  split
  · rename_i id hpending
    simp [h id hpending]
  · rfl

/-- An answer goes to one who has none yet. -/
theorem channel?_answer {s : State} {id : InvocationId} (h : s.channel? id ≠ some none)
    (target : Option InvocationId) (accepted : Bool) :
    (s.answer target accepted).2.1.channel? id = s.channel? id := by
  unfold answer
  split
  · rename_i pending hpending
    split
    · have hne : ¬(id = pending ∧ s.channel? pending = some none) := by
        rintro ⟨rfl, hnone⟩
        exact h hnone
      exact (channel?_send _ _ _ _).trans (if_neg hne)
    · rfl
  · rfl

/-- Whatever an answer does, it touches no count and nothing gets pending by it. -/
theorem answer_frame (s : State) (target : Option InvocationId) (accepted : Bool) :
    (s.answer target accepted).2.1.nextId = s.nextId ∧
      (s.answer target accepted).2.1.loading = s.loading ∧
      ∀ id, (s.answer target accepted).2.1.pending = some id → s.pending = some id := by
  unfold answer
  split
  · split
    · dsimp only
      rw [send_snd]
      exact ⟨rfl, rfl, nofun⟩
    · exact ⟨rfl, rfl, fun _ => id⟩
  · exact ⟨rfl, rfl, fun _ => id⟩

/-! ## Loading -/

theorem endLoading_eq (s : State) (name : String) :
    s.endLoading name = { s with loading := (s.endLoading name).loading } := by
  unfold endLoading
  split
  · split <;> rfl
  · rfl

end State

end ScreenLogic
