import ScreenLogic.Proofs.Executor.Gate
import ScreenLogic.Proofs.Fields

/-!
# Loading counts

An invocation is busy from the call of its handler until it leaves, which includes all
that it chains to. The counts that are kept under the names of actions are the numbers of
busy invocations: whoever becomes busy takes one unit, and whoever leaves gives it back.

## Main definitions

* `System.busy`: the busy invocations.
* `State.Returns`: every unit that is given back is there.

## Main statements

* `System.loading_run`: at every moment of a run the counts are those of the busy ones.
-/

namespace ScreenLogic

/-! ## The table of counts -/

namespace State

variable (s : State) (name other : String)

theorem get?_beginLoading :
    Fields.get? (s.beginLoading name).loading other =
      if name = other then some ((Fields.get? s.loading name).getD 0 + 1)
      else Fields.get? s.loading other :=
  Fields.get?_put s.loading name other _

theorem get?_endLoading {k : Nat} (h : Fields.get? s.loading name = some (k + 1)) :
    Fields.get? (s.endLoading name).loading other =
      if name = other then (if k = 0 then none else some k) else Fields.get? s.loading other := by
  simp only [endLoading, h, Nat.add_sub_cancel]
  split
  · exact Fields.get?_erase s.loading name other
  · exact Fields.get?_put s.loading name other k

theorem wellFormed_endLoading (h : Fields.WellFormed s.loading) :
    Fields.WellFormed (s.endLoading name).loading := by
  unfold endLoading
  split
  · split
    · exact h.erase name
    · exact h.put name _
  · exact h

theorem endLoading_congr {s t : State} (h : s.loading = t.loading) :
    (s.endLoading name).loading = (t.endLoading name).loading := by
  simp only [endLoading, h]
  split
  · split <;> rfl
  · exact h

/-- Each of those who leave gives back one unit. -/
def giveBack (s : State) (left : List Invocation) : State :=
  left.foldl (fun s inv => s.endLoading inv.action.name) s

/-- Each unit that is given back is there. -/
def Returns : State → List Invocation → Prop
  | _, [] => True
  | s, inv :: left =>
    (∃ k, Fields.get? s.loading inv.action.name = some (k + 1)) ∧
      Returns (s.endLoading inv.action.name) left

theorem giveBack_congr {s t : State} {left : List Invocation} (h : s.loading = t.loading) :
    (s.giveBack left).loading = (t.giveBack left).loading := by
  induction left generalizing s t with
  | nil => exact h
  | cons inv left ih => exact ih (endLoading_congr inv.action.name h)

theorem giveBack_append (left more : List Invocation) :
    s.giveBack (left ++ more) = (s.giveBack left).giveBack more := List.foldl_append

end State

/-- A table holds the names of a collection with the numbers of times that they are in it. -/
structure Tally (loading : Fields Nat) (names : Multiset String) : Prop where
  wellFormed : Fields.WellFormed loading
  count : ∀ name, Fields.get? loading name =
    if names.count name = 0 then none else some (names.count name)

namespace Tally

variable {s : State} {names : Multiset String}

theorem empty : Tally [] 0 := ⟨List.Pairwise.nil, fun _ => rfl⟩

theorem beginLoading (h : Tally s.loading names) (name : String) :
    Tally (s.beginLoading name).loading (name ::ₘ names) := by
  refine ⟨h.wellFormed.put name _, ?_⟩
  intro other
  rw [State.get?_beginLoading, h.count, h.count]
  by_cases heq : name = other
  · subst heq
    rw [if_pos rfl, Multiset.count_cons_self, if_neg (Nat.succ_ne_zero _)]
    split
    · rename_i hzero
      rw [hzero]
      rfl
    · rfl
  · rw [if_neg heq, Multiset.count_cons_of_ne (Ne.symm heq)]

/-- The unit of a name that is counted is there, and giving it back leaves the others. -/
theorem endLoading {name : String} (h : Tally s.loading (name ::ₘ names)) :
    (∃ k, Fields.get? s.loading name = some (k + 1)) ∧ Tally (s.endLoading name).loading names := by
  have hcount : Fields.get? s.loading name = some (names.count name + 1) := by
    rw [h.count, Multiset.count_cons_self, if_neg (Nat.succ_ne_zero _)]
  refine ⟨⟨_, hcount⟩, s.wellFormed_endLoading name h.wellFormed, ?_⟩
  intro other
  rw [State.get?_endLoading s name other hcount]
  by_cases heq : name = other
  · rw [if_pos heq, heq]
  · rw [if_neg heq, h.count, Multiset.count_cons_of_ne (Ne.symm heq)]

/-- All who are counted may leave, in any order. -/
theorem giveBack {left : List Invocation}
    (h : Tally s.loading (↑(left.map fun inv => inv.action.name) + names)) :
    s.Returns left ∧ Tally (s.giveBack left).loading names := by
  induction left generalizing s with
  | nil =>
    rw [List.map_nil, coe_nil_add] at h
    exact ⟨trivial, h⟩
  | cons inv left ih =>
    rw [List.map_cons, coe_cons_add] at h
    obtain ⟨hunit, hrest⟩ := h.endLoading
    obtain ⟨hreturns, htally⟩ := ih hrest
    exact ⟨⟨hunit, hreturns⟩, htally⟩

theorem mem_keys_iff (h : Tally s.loading names) (name : String) :
    name ∈ Fields.keys s.loading ↔ name ∈ names := by
  rw [Fields.mem_keys_iff_get?_ne_none, h.count, ← Multiset.count_ne_zero]
  split <;> simp_all

end Tally

/-! ## Who is busy -/

def Focus.busy : Focus → List Invocation
  | .handling inv _ _ => [inv]
  | .entering _ _ | .confirming _ | .leaving _ => []

/-- The invocations of a task whose handlers were called, the innermost first. The handler is
at work, or what the invocation chained to is. -/
def Task.busy (t : Task) : List Invocation := t.focus.busy ++ t.stack.map Frame.inv

def System.busy (y : System) : List Invocation := y.tasks.flatMap Task.busy

namespace Standing

/-- Those who are alive and do not wait to be confirmed. -/
def busy (live : Multiset Standing) : Multiset Invocation :=
  (live.filter (·.1 ≠ .waiting)).map Prod.snd

@[simp] theorem busy_cons_waiting (inv : Invocation) (live : Multiset Standing) :
    busy ((.waiting, inv) ::ₘ live) = busy live := by
  simp [busy]

@[simp] theorem busy_cons_of_ne {stage : Stage} (h : stage ≠ .waiting) (inv : Invocation)
    (live : Multiset Standing) : busy ((stage, inv) ::ₘ live) = inv ::ₘ busy live := by
  simp [busy, h]

theorem ids_eq_busy_add_waiters (live : Multiset Standing) :
    ids live = (busy live).map Invocation.id + waiters live := by
  induction live using Multiset.induction_on with
  | empty => rfl
  | cons x live ih =>
    obtain ⟨stage, inv⟩ := x
    cases stage with
    | waiting => rw [ids_cons, busy_cons_waiting, waiters_cons_waiting, ih, Multiset.add_cons]
    | handling | continuing =>
      rw [ids_cons, busy_cons_of_ne (by decide), waiters_cons_of_ne (by decide), ih,
        Multiset.map_cons, Multiset.cons_add]

end Standing

namespace Ledger

open Standing

theorem Fall.left {L M : Ledger} {events : List Event} (h : Fall L events M) :
    ∃ left : List Invocation, busy L.live = ↑left + busy M.live ∧
      M.state.loading = (L.state.giveBack left).loading := by
  cases h with
  | idle => exact ⟨[], (zero_add _).symm, rfl⟩
  | forsake s live inv =>
    refine ⟨[], ?_, ?_⟩
    · rw [busy_cons_waiting, coe_nil_add]
    · rw [State.leaveWait_fst]
      rfl
  | settle s live inv =>
    refine ⟨[], ?_, rfl⟩
    rw [busy_cons_of_ne (by decide), busy_cons_of_ne (by decide), coe_nil_add]
  | leave s live stage inv hstage =>
    refine ⟨[inv], ?_, rfl⟩
    rw [busy_cons_of_ne hstage, coe_cons_add, coe_nil_add]

theorem Falls.left {L M : Ledger} {events : List Event} (h : Falls L events M) :
    ∃ left : List Invocation, busy L.live = ↑left + busy M.live ∧
      M.state.loading = (L.state.giveBack left).loading := by
  induction h with
  | refl L => exact ⟨[], (zero_add _).symm, rfl⟩
  | cons first _ ih =>
    obtain ⟨left, hbusy, hloading⟩ := first.left
    obtain ⟨more, hbusy', hloading'⟩ := ih
    refine ⟨left ++ more, ?_, ?_⟩
    · rw [hbusy, hbusy', coe_append_add]
    · rw [hloading', State.giveBack_append]
      exact State.giveBack_congr hloading

/-- One invocation becomes busy when its handler is called, or none does. -/
theorem Rise.entered {L M : Ledger} {events : List Event} (h : Rise L events M) :
    (busy L.live = busy M.live ∧ M.state.loading = L.state.loading) ∨
      ∃ inv params, .called inv.id inv.action.name params ∈ events ∧
        busy M.live = inv ::ₘ busy L.live ∧
        M.state.loading = (L.state.beginLoading inv.action.name).loading := by
  cases h with
  | ask s live inv request =>
    left
    rw [busy_cons_waiting, State.ask_fst]
    exact ⟨rfl, rfl⟩
  | begin s live inv action model params =>
    right
    refine ⟨inv, params, ?_, busy_cons_of_ne (by decide) inv live, rfl⟩
    exact List.mem_cons_of_mem _ (List.mem_singleton_self _)
  | pass s live inv params =>
    right
    refine ⟨inv, params, ?_, ?_, ?_⟩
    · exact List.mem_append_right _ (List.mem_singleton_self _)
    · rw [busy_cons_of_ne (by decide), busy_cons_waiting]
    · rw [State.leaveWait_fst]
      rfl

end Ledger

theorem Task.filter_live (t : Task) :
    (t.live.filter (·.1 ≠ .waiting)).map Prod.snd = t.busy := by
  obtain ⟨focus, stack⟩ := t
  have hstack : (stack.map Frame.standing).filter (·.1 ≠ .waiting) =
      stack.map Frame.standing := by
    rw [List.filter_eq_self]
    intro x hx
    obtain ⟨frame, -, rfl⟩ := List.mem_map.mp hx
    exact decide_eq_true (Frame.standing_ne_waiting frame)
  have hinv : (stack.map Frame.standing).map Prod.snd = stack.map Frame.inv := by
    rw [List.map_map]
    exact List.map_congr_left fun frame _ => congrArg Prod.snd (Frame.standing_eq frame)
  rw [Task.live, Task.busy, List.filter_append, List.map_append, hstack, hinv]
  cases focus <;> rfl

namespace System

open Standing

variable (ex : Executor)

theorem coe_busy (y : System) : (y.busy : Multiset Invocation) = Standing.busy y.live := by
  have hbusy : (y.live.filter (·.1 ≠ .waiting)).map Prod.snd = y.busy := by
    rw [live, List.filter_flatMap, List.map_flatMap]
    exact List.flatMap_congr fun t _ => t.filter_live
  rw [← hbusy]
  rfl

theorem mem_busy {y : System} {inv : Invocation} :
    inv ∈ y.busy ↔ inv ∈ Standing.busy y.live := by
  rw [← coe_busy, Multiset.mem_coe]

/-- In a step one handler is called and its invocation takes a unit, or some invocations leave
and give theirs back. -/
theorem step_busy (y : System) (a : Act) :
    let st := y.step ex a
    (∃ inv params, .called inv.id inv.action.name params ∈ st.events ∧
      st.after.busy.Perm (inv :: y.busy) ∧
      st.after.state.loading = (y.state.beginLoading inv.action.name).loading) ∨
    ∃ left, y.busy.Perm (left ++ st.after.busy) ∧
      st.after.state.loading = (y.state.giveBack left).loading := by
  intro st
  have hbefore := coe_busy y
  have hafter := coe_busy st.after
  obtain ⟨target, accepted, -, -, hledger, -, -⟩ | ⟨-, hrise | hfalls⟩ := step_cases ex y a
  · obtain ⟨-, hloading, -⟩ := y.state.answer_frame target accepted
    have hlive : (st.after.live : Multiset Standing) = y.live := congrArg Ledger.live hledger
    have hstate : st.after.state = (y.state.answer target accepted).2.1 :=
      congrArg Ledger.state hledger
    refine .inr ⟨[], ?_, hstate ▸ hloading⟩
    exact Multiset.coe_eq_coe.mp (by rw [hbefore, ← hlive, ← hafter, List.nil_append])
  · obtain ⟨hbusy, hloading⟩ | ⟨inv, params, hcalled, hbusy, hloading⟩ := hrise.entered
    · exact .inr ⟨[], Multiset.coe_eq_coe.mp (hbefore.trans (hbusy.trans hafter.symm)), hloading⟩
    · refine .inl ⟨inv, params, hcalled, Multiset.coe_eq_coe.mp ?_, hloading⟩
      rw [hafter, ← Multiset.cons_coe, hbefore]
      exact hbusy
  · obtain ⟨left, hbusy, hloading⟩ := hfalls.left
    refine .inr ⟨left, Multiset.coe_eq_coe.mp ?_, hloading⟩
    rw [hbefore, ← Multiset.coe_add, hafter]
    exact hbusy

/-- The counts are those of the names of the busy invocations. -/
def Tallied (y : System) : Prop :=
  Tally y.state.loading (y.busy.map fun inv => inv.action.name : List String)

/-- Those who leave together give back what is there. -/
theorem Tallied.returns {y after : System} (hy : y.Tallied) {left : List Invocation}
    (hbusy : y.busy.Perm (left ++ after.busy)) :
    y.state.Returns left ∧ Tally (y.state.giveBack left).loading
      (after.busy.map fun inv => inv.action.name : List String) := by
  refine Tally.giveBack ?_
  rw [Multiset.coe_add, ← List.map_append,
    ← Multiset.coe_eq_coe.mpr (hbusy.map fun inv => inv.action.name)]
  exact hy

theorem tallied_run (model : Value) (acts : List Act) : ((init model).run ex acts).Tallied := by
  refine run_induction ex (motive := fun _ y => y.Tallied) (y := init model) Tally.empty ?_ acts
  intro _ y a hy
  obtain ⟨inv, params, -, hbusy, hloading⟩ | ⟨left, hbusy, hloading⟩ := step_busy ex y a
  · rw [Tallied, hloading, Multiset.coe_eq_coe.mpr (hbusy.map fun inv => inv.action.name)]
    exact Tally.beginLoading hy inv.action.name
  · rw [Tallied, hloading]
    exact (hy.returns hbusy).2

/-- The loading counts at a moment of a run. -/
structure Loading (y : System) : Prop where
  /-- A name has a count when one of its invocations is busy, and it is their number. -/
  count : ∀ name, Fields.get? y.state.loading name =
    if y.busy.countP (·.action.name = name) = 0 then none
    else some (y.busy.countP (·.action.name = name))
  /-- No invocation counts twice. -/
  distinct : (y.busy.map Invocation.id).Nodup
  /-- Who waits to be confirmed does not count. -/
  waiting : ∀ t ∈ y.tasks, ∀ id, t.confirming? = some id → id ∉ y.busy.map Invocation.id
  /-- Nor does an action that is refused. -/
  refused : ∀ (i depth : Nat) (action : Action) (stack : List Frame),
    y.tasks[i]? = some ⟨.entering action depth, stack⟩ →
    (ex.config.maxChainDepth < depth ∨ ex.registry.handler? action.name = none) →
      (y.step ex (.move i)).after.state = y.state ∧ (y.step ex (.move i)).after.busy = y.busy
  /-- Whatever is done, one handler is called and its invocation takes one unit, or some
  invocations leave and give back one each, which is there. -/
  step : ∀ a, let st := y.step ex a
    (∃ inv params, .called inv.id inv.action.name params ∈ st.events ∧
      st.after.busy.Perm (inv :: y.busy) ∧
      st.after.state.loading = (y.state.beginLoading inv.action.name).loading) ∨
    ∃ left, y.busy.Perm (left ++ st.after.busy) ∧ y.state.Returns left ∧
      st.after.state.loading = (y.state.giveBack left).loading
  isLoading : ∀ name, y.state.isLoading name ↔ ∃ inv ∈ y.busy, inv.action.name = name
  names : y.state.observation.loading.Pairwise (· < ·)
  mem_names : ∀ name, name ∈ y.state.observation.loading ↔ ∃ inv ∈ y.busy, inv.action.name = name

theorem busy_follow {y : System} {i : Nat} {t : Task} {move : Move} (hi : y.tasks[i]? = some t)
    (h : move.task.busy = t.busy) : (y.follow i (some move)).1.busy = y.busy := by
  obtain ⟨hlt, rfl⟩ := List.getElem?_eq_some_iff.mp hi
  change (y.tasks.set i move.task).flatMap Task.busy = y.tasks.flatMap Task.busy
  rw [List.flatMap_def, List.map_set, h, ← List.getElem_map Task.busy (h := by simpa using hlt),
    List.set_getElem_self, ← List.flatMap_def]

/-- An action that is nested too deep, or that nobody handles, ends where it began. -/
theorem step_of_refused {y : System} {i depth : Nat} {action : Action} {stack : List Frame}
    (hi : y.tasks[i]? = some ⟨.entering action depth, stack⟩)
    (h : ex.config.maxChainDepth < depth ∨ ex.registry.handler? action.name = none) :
    (y.step ex (.move i)).after.state = y.state ∧ (y.step ex (.move i)).after.busy = y.busy := by
  obtain ⟨error, henter⟩ : ∃ error, Task.enter ex y.state action depth stack =
      ⟨y.state, ⟨.leaving (.error error), stack⟩, []⟩ := by
    unfold Task.enter
    split
    · exact ⟨_, rfl⟩
    · rename_i hdepth
      rw [h.resolve_left hdepth]
      exact ⟨_, rfl⟩
  have hafter : (y.step ex (.move i)).after =
      (y.follow i (some (Task.enter ex y.state action depth stack))).1 := by
    simp only [step, perform, hi, Option.bind_some, Task.step]
  rw [hafter, henter]
  exact ⟨rfl, busy_follow hi rfl⟩

/-- At every moment of every run, the loading counts are those of the busy invocations. -/
theorem loading_run (model : Value) (acts : List Act) :
    ((init model).run ex acts).Loading ex := by
  have hsound := sound_run ex model acts
  have htally := tallied_run ex model acts
  generalize (init model).run ex acts = y at hsound htally
  have hids := hsound.distinct
  change (ids y.live).Nodup at hids
  rw [ids_eq_busy_add_waiters, ← coe_busy, Multiset.map_coe, Multiset.nodup_add] at hids
  obtain ⟨hdistinct, -, hdisjoint⟩ := hids
  have hmem : ∀ name, name ∈ Fields.keys y.state.loading ↔
      ∃ inv ∈ y.busy, inv.action.name = name := by
    intro name
    rw [Tally.mem_keys_iff htally, Multiset.mem_coe, List.mem_map]
  refine ⟨?_, Multiset.coe_nodup.mp hdistinct, ?_, ?_, ?_, ?_, ?_, hmem⟩
  · intro name
    have hcount : Multiset.count name (y.busy.map fun inv => inv.action.name : List String) =
        y.busy.countP (·.action.name = name) := by
      rw [Multiset.coe_count, List.count, List.countP_map]
      rfl
    rw [htally.count, hcount]
  · intro t ht id hid hbusy
    exact Multiset.disjoint_left.mp hdisjoint (Multiset.mem_coe.mpr hbusy)
      (mem_waiters_live.mpr ⟨t, ht, hid⟩)
  · intro i depth action stack hi h
    exact step_of_refused ex hi h
  · intro a
    obtain hentered | ⟨left, hbusy, hloading⟩ := step_busy ex y a
    · exact .inl hentered
    · exact .inr ⟨left, hbusy, (htally.returns hbusy).1, hloading⟩
  · intro name
    rw [← hmem, Fields.mem_keys_iff_get?_ne_none]
    exact Option.isSome_iff_ne_none
  · exact (Fields.wellFormed_iff_keys _).mp htally.wellFormed

end System

end ScreenLogic
