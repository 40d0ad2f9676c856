import Mathlib.Data.List.Chain
import ScreenLogic.Proofs.Executor.Execution
import ScreenLogic.Proofs.Executor.Registration

/-!
# Chains are bounded

However the definitions of actions refer to one another, a chain calls one handler more than
its depth may be, and no more. Then it is over: each step along it comes nearer to its end.

## Main definitions

* `Invocation.Follows`: an invocation was run because of the effect of another.
* `Outline.rank`: how many steps a chain may still make.
* `Execution.Fair`: nobody keeps the execution waiting for ever.

## Main statements

* `Execution.exists_result`: a fair execution comes to an end.
* `Execution.chain_bounded`: how many handlers an execution calls, which ones, and when it
  goes too deep.
-/

namespace ScreenLogic

/-! ## The handlers along a chain -/

theorem calls_doings (links : List Link) :
    calls (links.flatMap Link.doings) = (links.map Link.inv).map Invocation.id := by
  induction links with
  | nil => rfl
  | cons link links ih =>
    rw [List.flatMap_cons, calls_append, ih]
    rfl

theorem calls_closing (ex : Executor) (model : Value) (link : Link) :
    calls (link.closing ex model) = [] :=
  List.filterMap_eq_nil_iff.mpr fun _ he =>
    (Event.none_of_isEffect (Link.isEffect_of_mem_closing he)).1

section Leads

variable {ex : Executor} {past : List Moment} {first action : Action} {links : List Link}
  {depth : Nat}

theorem Leads.length_eq (h : Leads ex past first links action depth) : links.length = depth := by
  induction h with
  | first => rfl
  | next _ _ _ ih => rw [List.length_append, ih, List.length_singleton]

theorem Invocation.Ran.depth_eq {inv : Invocation} (h : inv.Ran ex past action depth) :
    inv.depth = depth := by
  obtain ⟨⟨_, -, hbegins⟩, -, -⟩ := h
  exact hbegins.depth_eq

theorem Invocation.Ran.depth_le {inv : Invocation} (h : inv.Ran ex past action depth) :
    depth ≤ ex.config.maxChainDepth := by
  obtain ⟨⟨_, -, hbegins⟩, -, -⟩ := h
  exact hbegins.depth_le

/-- No link is deeper than allowed, so there is at most one more than that. -/
theorem Leads.depth_le (h : Leads ex past first links action depth) :
    depth ≤ ex.config.maxChainDepth + 1 := by
  cases h with
  | first => exact Nat.zero_le _
  | next _ hran _ => exact Nat.succ_le_succ hran.depth_le

theorem Leads.isSome_next? (h : Leads ex past first links action depth) :
    ∀ link ∈ links, link.next?.isSome := by
  induction h with
  | first => exact List.forall_mem_nil _
  | next _ _ hnext ih =>
    rw [List.forall_mem_append, List.forall_mem_singleton]
    exact ⟨ih, Option.isSome_of_eq_some hnext⟩

/-- What the last link has chained to comes next. -/
theorem Leads.getLast? (h : Leads ex past first links action (depth + 1)) :
    ∃ name, links.getLast?.bind Link.next? = some name ∧ action = ex.registry.definition name := by
  cases h with
  | next _ _ hnext => exact ⟨_, by rwa [List.getLast?_concat], rfl⟩

/-! ## One because of another -/

/-- An invocation was run because of the effect with which the handler of another has settled:
by the handler registered last under the name there, for the action defined last under it. -/
def Invocation.Follows (registrations : List Registration) (ex : Executor) (past : List Moment)
    (inv next : Invocation) : Prop :=
  ∃ (link : Link) (name : String), link.inv = inv ∧ (∃ m ∈ past, m.task.Settles ex m.state link) ∧
    link.next? = some name ∧
    next.Ran ex past (Registration.lastAction registrations name) (inv.depth + 1) ∧
    Registration.lastHandler? registrations name = some next.handler

/-- Invocations that were run one because of another, the first of them for an action. -/
structure Invocation.Series (registrations : List Registration) (ex : Executor)
    (past : List Moment) (first : Action) (invs : List Invocation) : Prop where
  first : ∀ inv ∈ invs.head?, inv.Ran ex past first 0
  next : invs.IsChain (Invocation.Follows registrations ex past)

variable {registrations : List Registration}
  (hregistry : ex.registry = Registry.ofRegistrations registrations)
include hregistry

theorem Link.Ran.follows {link : Link} {name : String} (h : link.Ran ex past action depth)
    (hnext : link.next? = some name) {inv : Invocation}
    (hinv : inv.Ran ex past (ex.registry.definition name) (depth + 1)) :
    link.inv.Follows registrations ex past inv := by
  rw [hregistry, Registry.definition_ofRegistrations] at hinv
  obtain ⟨_, -, hbegins⟩ := hinv.begun
  have hhandler := hbegins.handler
  rw [hregistry, Registry.handler?_ofRegistrations, Registration.lastAction_name] at hhandler
  refine ⟨link, name, rfl, h.settled, hnext, ?_, hhandler⟩
  rwa [h.toRan.depth_eq]

theorem Leads.series_concat (h : Leads ex past first links action depth) {inv : Invocation}
    (hinv : inv.Ran ex past action depth) :
    Invocation.Series registrations ex past first (links.map Link.inv ++ [inv]) := by
  induction h generalizing inv with
  | first =>
    refine ⟨?_, List.isChain_singleton inv⟩
    rintro _ ⟨⟩
    exact hinv
  | @next links action depth link name _ hran hnext ih =>
    have hformer := ih hran.toRan
    rw [List.map_append, List.map_singleton]
    refine ⟨?_, ?_⟩
    · intro head hhead
      rw [List.append_assoc, List.head?_append] at hhead
      exact hformer.first head (by rwa [List.head?_append])
    · rw [List.isChain_append]
      refine ⟨hformer.next, List.isChain_singleton inv, ?_⟩
      rw [List.getLast?_concat]
      rintro _ ⟨⟩ _ ⟨⟩
      exact hran.follows hregistry hnext hinv

theorem Leads.series (h : Leads ex past first links action depth) :
    Invocation.Series registrations ex past first (links.map Link.inv) := by
  cases h with
  | first =>
    refine ⟨?_, List.isChain_nil⟩
    rintro _ ⟨⟩
  | next hleads hran _ =>
    rw [List.map_append]
    exact hleads.series_concat hregistry hran.toRan

/-- At any time the handlers that were called are those of a series, which is not too long. -/
theorem Progress.exists_series {o : Outline} {done : List Event}
    (h : Progress ex past first o done) : ∃ invs, calls done = invs.map Invocation.id ∧
      invs.length ≤ ex.config.maxChainDepth + 1 ∧
      Invocation.Series registrations ex past first invs := by
  have hlinks : ∀ {links : List Link} {action : Action} {depth : Nat},
      Leads ex past first links action depth →
      (links.map Link.inv).length ≤ ex.config.maxChainDepth + 1 ∧
        Invocation.Series registrations ex past first (links.map Link.inv) := by
    intro links action depth hleads
    rw [List.length_map, hleads.length_eq]
    exact ⟨hleads.depth_le, hleads.series hregistry⟩
  have hconcat : ∀ {links : List Link} {action : Action} {depth : Nat} {inv : Invocation},
      Leads ex past first links action depth → inv.Ran ex past action depth →
      (links.map Link.inv ++ [inv]).length ≤ ex.config.maxChainDepth + 1 ∧
        Invocation.Series registrations ex past first (links.map Link.inv ++ [inv]) := by
    intro links action depth inv hleads hran
    rw [List.length_append, List.length_map, hleads.length_eq]
    exact ⟨Nat.succ_le_succ hran.depth_le, hleads.series_concat hregistry hran⟩
  cases h with
  | entering hleads => exact ⟨_, calls_doings _, hlinks hleads⟩
  | confirming hleads => exact ⟨_, calls_doings _, hlinks hleads⟩
  | handling hleads hran =>
    refine ⟨_, ?_, hconcat hleads hran⟩
    rw [calls_append, calls_doings, List.map_append]
    rfl
  | @leaving c _ _ hran _ =>
    obtain ⟨action, depth, hleads, hreached⟩ := hran
    obtain ⟨passed, ending⟩ := c
    rw [Chain.doings, calls_append, calls_doings]
    cases hreached with
    | refused => exact ⟨_, List.append_nil _, hlinks hleads⟩
    | declined => exact ⟨_, List.append_nil _, hlinks hleads⟩
    | closed hlink =>
      refine ⟨_, ?_, hconcat hleads hlink.toRan⟩
      rw [Chain.effects, calls_closing, List.append_nil, Chain.links, List.map_append]
      rfl

end Leads

/-! ## Going too deep -/

section TooDeep

variable {ex : Executor} {past : List Moment} {first : Action} {c : Chain}
  (hnames : ∀ name, (ex.registry.definition name).name = name)

include hnames

/-- A chain goes too deep exactly if as many links as there may be have all chained on. -/
theorem Chain.Ran.tooDeep_iff (h : c.Ran ex past first) {name : String} {depth : Nat} :
    c.result = .error (.chainTooDeep name depth) ↔
      depth = ex.config.maxChainDepth ∧ c.links.length = depth + 1 ∧
        (∀ link ∈ c.links, link.next?.isSome) ∧ c.links.getLast?.bind Link.next? = some name := by
  obtain ⟨action, k, hleads, hreached⟩ := h
  obtain ⟨passed, ending⟩ := c
  rw [Chain.result_eq_error]
  constructor
  · rintro rfl
    cases hreached with
    | refused hrefuses =>
      cases hrefuses with
      | tooDeep hdeep =>
        obtain rfl : k = ex.config.maxChainDepth + 1 := le_antisymm hleads.depth_le hdeep
        obtain ⟨name, hlast, rfl⟩ := hleads.getLast?
        rw [hnames]
        exact ⟨rfl, hleads.length_eq, hleads.isSome_next?, hlast⟩
  · rintro ⟨rfl, hlength, hnext, hlast⟩
    cases hreached with
    | @refused error hrefuses =>
      have hk : k = ex.config.maxChainDepth + 1 := hleads.length_eq.symm.trans hlength
      subst hk
      obtain ⟨target, htarget, rfl⟩ := hleads.getLast?
      obtain rfl := Option.some.inj (hlast.symm.trans htarget)
      cases hrefuses with
      | tooDeep => rw [hnames]
      | unknown hle => exact absurd hle (Nat.not_succ_le_self _)
    | declined _ hbegun =>
      obtain ⟨_, -, hbegins⟩ := hbegun
      have hk : k = ex.config.maxChainDepth + 1 := hleads.length_eq.symm.trans hlength
      exact absurd (hk ▸ hbegins.depth_le) (Nat.not_succ_le_self _)
    | @closed link _ hlink hnone =>
      have hsome := hnext link (List.mem_append_right _ (List.mem_singleton_self _))
      rw [hnone] at hsome
      cases hsome

end TooDeep

/-! ## Coming to an end -/

/-- How many steps along the chain there may still be, if no link is deeper than `d`. -/
def Outline.rank (d : Nat) (o : Outline) : Nat :=
  match o.phase with
  | .entering _ _ => 3 * (d + 1 - o.waiting.length) + d + 2
  | .confirming _ => 3 * (d + 1 - o.waiting.length) + d + 1
  | .handling _ => 3 * (d + 1 - o.waiting.length) + d
  | .leaving _ => o.waiting.length

section Rank

variable {ex : Executor} {past : List Moment} {first : Action}

theorem Link.length_waiting (links : List Link) : (Link.waiting links).length = links.length := by
  rw [waiting, List.length_reverse, List.length_map]

theorem Progress.rank_lt {m : Moment} {o o' : Outline} {done more : List Event}
    (h : Progress ex past first o done) (hturn : Turn ex m more o o') :
    o'.rank ex.config.maxChainDepth < o.rank ex.config.maxChainDepth := by
  cases hturn with
  | refuse | ask | call =>
    cases h with
    | entering hleads =>
      have hle := hleads.depth_le
      rw [← hleads.length_eq, ← Link.length_waiting] at hle
      dsimp only [Outline.rank]
      omega
  | pass | decline =>
    cases h with
    | confirming hleads _ hbegun =>
      obtain ⟨_, -, hbegins⟩ := hbegun
      have hle := hbegins.depth_le
      rw [← hleads.length_eq, ← Link.length_waiting] at hle
      dsimp only [Outline.rank]
      omega
  | close | chain =>
    cases h with
    | handling hleads hran =>
      have hle := hran.depth_le
      rw [← hleads.length_eq, ← Link.length_waiting] at hle
      dsimp only [Outline.rank, List.length_cons]
      omega
  | resume waiting => exact Nat.lt_succ_self waiting.length

/-- A handler that a chain is at was called and has not settled. -/
theorem Progress.of_handling {o : Outline} {done : List Event}
    (h : Progress ex past first o done) {inv : Invocation} (hphase : o.phase = .handling inv)
    (honce : (calls done).Nodup) :
    (∃ name params, .called inv.id name params ∈ done) ∧
      ∀ result, .settled inv.id result ∉ done := by
  cases h with
  | @handling links _ _ other hleads hran =>
    obtain rfl := Phase.handling.inj hphase
    refine ⟨⟨_, _, List.mem_append_right _ (List.mem_singleton_self _)⟩, fun result hmem => ?_⟩
    obtain ⟨link, hlink, hid, -⟩ :
        ∃ link ∈ links, other.id = link.inv.id ∧ result = link.result := by
      simpa [Link.doings] using hmem
    rw [calls_append, calls_doings] at honce
    have hmem : other.id ∈ (links.map Link.inv).map Invocation.id := by
      rw [hid]
      exact List.mem_map_of_mem (List.mem_map_of_mem hlink)
    exact (List.nodup_append.mp honce).2.2 _ hmem _ (List.mem_singleton_self _) rfl
  | entering | confirming | leaving => cases hphase

end Rank

/-- Outside of a handler a task waits for a reply only. -/
theorem Task.step_eq_none {ex : Executor} {s : State} {t : Task} (h : t.step ex s = none)
    (hfree : ∀ inv, t.outline.phase ≠ .handling inv) :
    t.result?.isSome ∨ ∃ inv, t.outline.phase = .confirming inv ∧ s.reply? inv.id = none := by
  obtain ⟨hphase, -⟩ := phase_eq hfree
  obtain ⟨focus, stack⟩ := t
  cases focus with
  | entering => cases h
  | confirming inv =>
    refine .inr ⟨inv, hphase, ?_⟩
    cases hreply : s.reply? inv.id with
    | none => rfl
    | some reply =>
      obtain ⟨move, hmove, -⟩ := step_of_reply ex (t := ⟨.confirming inv, stack⟩) rfl hreply
      cases h.symm.trans hmove
  | handling inv => exact absurd hphase (hfree inv)
  | leaving result =>
    cases stack with
    | nil => exact .inl rfl
    | cons => cases h

namespace Execution

variable {ex : Executor} {action : Action} (e : Execution ex action)

/-- The task gets its turn again and again, whatever handler is called along its chain settles
or runs out of time, and whatever confirmation is waited for there gets a reply. -/
structure Fair : Prop where
  turns : ∀ n, ∃ k ≥ n, e.acts k = .move (e.place k)
  settles : ∀ n id name params, .called id name params ∈ e.doings n →
    ∃ k result, .settled id result ∈ e.doings k
  answered : ∀ n inv, (e.outline n).phase = .confirming inv →
    ∃ k ≥ n, (∃ reply, (e.system k).state.reply? inv.id = some reply) ∨
      (e.outline k).phase ≠ .confirming inv

def rank (n : ℕ) : Nat := (e.outline n).rank ex.config.maxChainDepth

/-- As time goes by a chain stays where it is, or has come nearer to its end. -/
theorem outline_eq_or_rank_lt {n k : ℕ} (h : n ≤ k) :
    e.outline k = e.outline n ∨ e.rank k < e.rank n := by
  induction k, h using Nat.le_induction with
  | base => exact .inl rfl
  | succ k _ ih =>
    obtain ⟨houtline, -⟩ | ⟨m, -, more, hturn, -⟩ := e.step_cases k
    · rwa [rank, houtline]
    · have hlt : e.rank (k + 1) < e.rank k := (e.progress k).rank_lt hturn
      have hle : e.rank k ≤ e.rank n := ih.elim (fun h => (congrArg (Outline.rank _) h).le) le_of_lt
      exact .inr (hlt.trans_le hle)

/-- When the task gets its turn, a chain that is not at a handler comes nearer to its end. -/
theorem rank_succ_lt {k : ℕ} (hturn : e.acts k = .move (e.place k)) {move : Move}
    (hmove : (e.task k).step ex (e.system k).state = some move)
    (hphase : ∀ inv, (e.outline k).phase ≠ .handling inv) : e.rank (k + 1) < e.rank k := by
  have hmoment : e.moment? k = some ⟨(e.system k).state, e.task k, move⟩ := by
    rw [moment?, hturn, Act.move?, if_pos rfl, hmove]
    rfl
  obtain ⟨-, -, hafter, hpossible⟩ := e.moment?_eq_some hmoment
  obtain hsilent | hadvances := Moment.turn_of_possible hpossible
  · obtain ⟨inv, hinv⟩ := hsilent.handling
    exact absurd hinv (hphase inv)
  · have hturn := hadvances.turn
    rw [hafter] at hturn
    exact (e.progress k).rank_lt hturn

/-! ### Nobody waits for ever -/

theorem confirming?_eq {n : ℕ} {inv : Invocation} (h : (e.outline n).phase = .confirming inv) :
    (e.task n).confirming? = some inv.id := by
  obtain ⟨hphase, -⟩ := Task.phase_eq (t := e.task n) fun other hother => by
    cases h.symm.trans hother
  rw [show (e.task n).outline.phase = .confirming inv from h] at hphase
  cases hfocus : (e.task n).focus with
  | confirming other =>
    rw [hfocus] at hphase
    obtain rfl := Phase.confirming.inj hphase
    rw [Task.confirming?, hfocus]
  | entering | handling | leaving =>
    rw [hfocus] at hphase
    cases hphase

theorem mem_waiters {n : ℕ} {inv : Invocation} (h : (e.outline n).phase = .confirming inv) :
    inv.id ∈ Standing.waiters (e.system n).live :=
  System.mem_waiters_live.mpr
    ⟨e.task n, List.mem_of_getElem? (e.getElem?_place n), e.confirming?_eq h⟩

theorem not_pending_of_le {n k : ℕ} (h : n ≤ k) {id : InvocationId}
    (hknown : id < (e.system n).state.nextId) (hid : (e.system n).state.pending ≠ some id) :
    (e.system k).state.pending ≠ some id := by
  suffices hall : id < (e.system k).state.nextId ∧ (e.system k).state.pending ≠ some id from
    hall.2
  induction k, h using Nat.le_induction with
  | base => exact ⟨hknown, hid⟩
  | succ k _ ih =>
    obtain ⟨hknown, hid⟩ := ih
    obtain ⟨hnext, hpending⟩ := System.step_frame ex (e.system k) (e.acts k)
    rw [system_succ]
    refine ⟨hknown.trans_le hnext, fun h => ?_⟩
    obtain hold | hnew := hpending id h
    · exact hid hold
    · exact absurd hknown (Nat.not_lt.mpr hnew)

/-- A reply that has come is there as long as the chain waits for it. -/
theorem reply_of_le {n k : ℕ} (h : n ≤ k) {inv : Invocation}
    (hn : (e.outline n).phase = .confirming inv) (hk : (e.outline k).phase = .confirming inv)
    {reply : Reply} (hreply : (e.system n).state.reply? inv.id = some reply) :
    ∃ reply, (e.system k).state.reply? inv.id = some reply := by
  have hknown := (e.sound n).known _ (Standing.mem_ids_of_mem_waiters (e.mem_waiters hn))
  have hid : (e.system n).state.pending ≠ some inv.id := by
    intro hpending
    have hchannel : (e.system n).state.channel? inv.id = some none :=
      ((e.sound n).unresolved _).mpr hpending
    rw [State.reply?, hchannel] at hreply
    cases hreply
  have hgone := e.not_pending_of_le h hknown hid
  obtain ⟨channel, hchannel⟩ :=
    Option.isSome_iff_exists.mp (((e.sound k).waiting _).mpr (e.mem_waiters hk))
  cases channel with
  | none => exact absurd (((e.sound k).unresolved _).mp hchannel) hgone
  | some reply => exact ⟨reply, congrArg Option.join hchannel⟩

namespace Fair

variable {e} (hfair : e.Fair)
include hfair

/-- A chain does not stay at a handler. -/
theorem exists_outline_ne {n : ℕ} {inv : Invocation}
    (hphase : (e.outline n).phase = .handling inv) : ∃ k ≥ n, e.outline k ≠ e.outline n := by
  obtain ⟨⟨name, params, hcalled⟩, -⟩ := (e.progress n).of_handling hphase (e.nodup_calls n)
  obtain ⟨k, result, hsettled⟩ := hfair.settles n inv.id name params hcalled
  refine ⟨max n k, le_max_left n k, fun hsame => ?_⟩
  rw [← hsame] at hphase
  obtain ⟨-, hrunning⟩ := (e.progress _).of_handling hphase (e.nodup_calls _)
  exact hrunning result ((e.doings_prefix (le_max_right n k)).subset hsettled)

/-- A chain that stays where it is gets the reply that it waits for, if it does. -/
theorem exists_reply {n : ℕ} (hsame : ∀ k ≥ n, e.outline k = e.outline n) :
    ∃ k ≥ n, ∀ inv, (e.outline n).phase = .confirming inv →
      ∃ reply, (e.system k).state.reply? inv.id = some reply := by
  cases hphase : (e.outline n).phase with
  | confirming inv =>
    obtain ⟨k, hk, hreply | hleft⟩ := hfair.answered n inv hphase
    · refine ⟨k, hk, ?_⟩
      rintro _ ⟨⟩
      exact hreply
    · rw [hsame k hk] at hleft
      exact absurd hphase hleft
  | entering | handling | leaving => exact ⟨n, le_rfl, fun _ hphase => nomatch hphase⟩

/-- A chain comes nearer to its end, if it does not come to it. -/
theorem exists_rank_lt (n : ℕ) :
    (∃ k ≥ n, (e.task k).result?.isSome) ∨ ∃ k ≥ n, e.rank k < e.rank n := by
  by_contra hstays
  obtain ⟨hrun, hnot⟩ := not_or.mp hstays
  have hsame : ∀ k ≥ n, e.outline k = e.outline n :=
    fun k hk => (e.outline_eq_or_rank_lt hk).resolve_right fun hlt => hnot ⟨k, hk, hlt⟩
  have hfree : ∀ inv, (e.outline n).phase ≠ .handling inv := by
    intro inv hphase
    obtain ⟨k, hk, hne⟩ := hfair.exists_outline_ne hphase
    exact hne (hsame k hk)
  -- the task gets a turn when it has its reply, and there is nothing else to wait for
  obtain ⟨j, hj, hready⟩ := hfair.exists_reply hsame
  obtain ⟨k, hk, hturn⟩ := hfair.turns j
  have hkn := hj.trans hk
  rw [← hsame k hkn] at hfree
  cases hstep : (e.task k).step ex (e.system k).state with
  | some move =>
    have hlt := e.rank_succ_lt hturn hstep hfree
    have hrank : e.rank k = e.rank n := congrArg (Outline.rank _) (hsame k hkn)
    exact hnot ⟨k + 1, Nat.le_succ_of_le hkn, hrank ▸ hlt⟩
  | none =>
    obtain hend | ⟨inv, hphase, hnone⟩ := Task.step_eq_none hstep hfree
    · exact hrun ⟨k, hkn, hend⟩
    · have hwaits : (e.outline n).phase = .confirming inv := by
        rw [← hsame k hkn]
        exact hphase
      obtain ⟨reply, hreply⟩ := hready inv hwaits
      obtain ⟨reply, hreply⟩ := e.reply_of_le hk (hsame j hj ▸ hwaits) hphase hreply
      cases hnone.symm.trans hreply

/-- An execution that nobody keeps waiting comes to an end. -/
theorem exists_result : ∃ n result, (e.task n).result? = some result := by
  suffices hall : ∀ n, ∃ k result, (e.task k).result? = some result from hall 0
  intro n
  induction hrank : e.rank n using Nat.strong_induction_on generalizing n with
  | _ r ih =>
    obtain ⟨k, -, hend⟩ | ⟨k, -, hlt⟩ := hfair.exists_rank_lt n
    · exact ⟨k, Option.isSome_iff_exists.mp hend⟩
    · exact ih _ (hrank ▸ hlt) k rfl

end Fair

/-- Whatever is registered, and however the definitions refer to one another, an execution
calls at most one handler more than its chain may be deep: each for what the effect before
has named. If nobody keeps it waiting it comes to an end, and it ends with an error for its
depth exactly if all links that there may be have settled with an effect that chains on. -/
theorem chain_bounded (registrations : List Registration) {config : Config} {ex : Executor}
    (hex : Executor.ofConfig (.ofRegistrations registrations) config = .ok ex) {action : Action}
    (e : Execution ex action) :
    (∀ n, ∃ invs, calls (e.doings n) = invs.map Invocation.id ∧
      invs.length ≤ config.maxChainDepth + 1 ∧
      Invocation.Series registrations ex (e.past n) action invs) ∧
    (e.Fair → ∃ n result, (e.task n).result? = some result) ∧
    ∀ n result, (e.task n).result? = some result → ∃ c : Chain,
      c.Ran ex (e.past n) action ∧ e.doings n = c.doings ex ∧
      ∀ name depth, result = .error (.chainTooDeep name depth) ↔
        depth = config.maxChainDepth ∧ c.links.length = depth + 1 ∧
          (∀ link ∈ c.links, link.next?.isSome) ∧
          c.links.getLast?.bind Link.next? = some name := by
  obtain rfl : ex = ⟨.ofRegistrations registrations, config⟩ := by
    unfold Executor.ofConfig at hex
    split at hex
    · exact (Except.ok.inj hex).symm
    · cases hex
  refine ⟨fun n => (e.progress n).exists_series rfl, fun hfair => hfair.exists_result, ?_⟩
  intro n result hresult
  obtain ⟨c, hran, hdoings, rfl⟩ := e.exists_chain hresult
  refine ⟨c, hran, hdoings, fun name depth => hran.tooDeep_iff fun name => ?_⟩
  rw [Registry.definition_ofRegistrations, Registration.lastAction_name]

end Execution

/-! ## A loop -/

namespace Loop

/-- An action that chains to itself. -/
def action : Action := { Action.bare "loop" with onSuccess := some (.chain "loop") }

def registrations : List Registration := [.register "loop" fun _ => .finish, .define action]

def config : Config := { Config.initial with maxChainDepth := 1 }

def executor : Executor := ⟨.ofRegistrations registrations, config⟩

def execution : Execution executor action := .solo executor action .null

theorem task_eq {n : ℕ} (h : 7 ≤ n) :
    execution.task n = ⟨.leaving (.error (.chainTooDeep "loop" 1)), []⟩ :=
  (execution.eq_of_result? h rfl).1

theorem doings_seven : execution.doings 7 =
    [.called 0 "loop" [], .settled 0 (.ok ()), .called 1 "loop" [], .settled 1 (.ok ())] := rfl

theorem subset_doings (n : ℕ) : execution.doings n ⊆ execution.doings 7 := by
  obtain hle | hle := le_total n 7
  · exact (execution.doings_prefix hle).subset
  · rw [(execution.eq_of_result? hle rfl).2]
    exact List.Subset.refl _

theorem fair_execution : execution.Fair where
  turns n := ⟨n, le_rfl, congrArg Act.move (Execution.place_solo .null n).symm⟩
  settles n id name params h := by
    have hmem := subset_doings n h
    rw [doings_seven] at hmem
    have hid : id = 0 ∨ id = 1 := by
      simp only [List.mem_cons, Event.called.injEq, reduceCtorEq, List.not_mem_nil, or_false,
        false_or] at hmem
      exact hmem.imp And.left And.left
    refine ⟨7, .ok (), ?_⟩
    rw [doings_seven]
    simpa using hid
  answered n inv _ := by
    refine ⟨max n 7, le_max_left n 7, .inr ?_⟩
    rw [Execution.outline, task_eq (le_max_right n 7)]
    rintro ⟨⟩

end Loop

theorem Execution.chain_bounded_of_loop :
    Executor.ofConfig (.ofRegistrations Loop.registrations) Loop.config = .ok Loop.executor ∧
      Loop.execution.Fair ∧
      (∃ n, (Loop.execution.task n).result? = some (.error (.chainTooDeep "loop" 1))) ∧
      ∀ n, (calls (Loop.execution.doings n)).length ≤ 2 := by
  have hex : Executor.ofConfig (.ofRegistrations Loop.registrations) Loop.config =
      .ok Loop.executor := rfl
  obtain ⟨hcalls, hends, -⟩ := chain_bounded Loop.registrations hex Loop.execution
  refine ⟨hex, Loop.fair_execution, ?_, ?_⟩
  · obtain ⟨n, result, hresult⟩ := hends Loop.fair_execution
    have hlater := (Loop.execution.eq_of_result? (le_max_left n 7)
      (Option.isSome_of_eq_some hresult)).1
    refine ⟨n, ?_⟩
    rw [← hlater, Loop.task_eq (le_max_right n 7)]
    rfl
  · intro n
    obtain ⟨invs, hids, hlength, -⟩ := hcalls n
    rw [hids, List.length_map]
    exact hlength

end ScreenLogic
