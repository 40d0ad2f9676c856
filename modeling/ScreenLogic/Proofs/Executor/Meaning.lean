import Mathlib.Tactic.IntervalCases
import ScreenLogic.Action.Wire
import ScreenLogic.Proofs.Executor.Execution

/-!
# What an execution amounts to

Executed with nothing else in flight, an action calls the handlers along its chain one after
another. Then the last of them has at most one effect: a page is opened, or the values of
one `set` are written. What comes out was decided by the first handler, unless the chain was
refused to go on.

## Main definitions

* `Execution.Alone`: nothing else is in flight.

## Main statements

* `Execution.meaning`: what is done, and what comes out.
-/

namespace ScreenLogic

/-! ## Effects on the wire -/

/-- The entry of an effect that counts. -/
def Effect.leading? (fields : Fields Value) : Option (String × Value) :=
  ["navigate", "set", "action"].findSome? fun key => (Fields.get? fields key).map (key, ·)

/-- Of several entries the others might as well not be there. -/
theorem Effect.ofValue_eq_leading? (fields : Fields Value) :
    ofValue (.obj fields) = ofValue (.obj (leading? fields).toList) := by
  simp only [leading?, List.findSome?_cons, List.findSome?_nil, ofValue]
  cases hnavigate : Fields.get? fields "navigate" with
  | some target => rfl
  | none =>
    cases hset : Fields.get? fields "set" with
    | some entries => cases entries <;> rfl
    | none =>
      cases haction : Fields.get? fields "action" with
      | some name => cases name <;> rfl
      | none => rfl

/-! ## Chains -/

namespace Link

variable {link : Link}

theorem outcome_eq_succeeded : link.outcome = .succeeded ↔ link.result = .ok () := by
  unfold outcome
  cases link.result <;> simp

theorem outcome_eq_failed {message : String} :
    link.outcome = .failed message ↔ link.result = .error message := by
  unfold outcome
  cases link.result <;> simp

theorem outcome_ne_cancelled : link.outcome ≠ .cancelled := by
  unfold outcome
  cases link.result <;> simp

end Link

/-- In the end one page is opened, or values are written, or nothing is done. -/
theorem Link.closing_cases (ex : Executor) (model : Value) (link : Link) :
    link.closing ex model = [] ∨ (∃ url, link.closing ex model = [.navigated url]) ∨
      ∃ writes : Fields Value, link.closing ex model =
        writes.map fun write => .wrote write.1 write.2 := by
  unfold closing
  split
  · rename_i target _
    cases Task.destination? model target with
    | none => exact .inl rfl
    | some url => exact .inr (.inl ⟨url, rfl⟩)
  · exact .inr (.inr ⟨_, rfl⟩)
  all_goals exact .inl rfl

namespace Chain

variable (c : Chain)

theorem effects_cases (ex : Executor) :
    c.effects ex = [] ∨ (∃ url, c.effects ex = [.navigated url]) ∨
      ∃ writes : Fields Value, c.effects ex = writes.map fun write => .wrote write.1 write.2 := by
  obtain ⟨passed, ending⟩ := c
  cases ending with
  | refused | declined => exact .inl rfl
  | closed link model => exact link.closing_cases ex model

/-- An error comes out exactly if the chain was refused to go on. Otherwise its first handler
has decided, or its first action was not confirmed. -/
structure Results (result : ActionResult) : Prop where
  error : ∀ error, result = .error error ↔ c.ending = .refused error
  succeeded : result = .ok .succeeded ↔
    (∀ error, c.ending ≠ .refused error) ∧ ∃ link ∈ c.links.head?, link.result = .ok ()
  failed : ∀ message, result = .ok (.failed message) ↔
    (∀ error, c.ending ≠ .refused error) ∧ ∃ link ∈ c.links.head?, link.result = .error message
  cancelled : result = .ok .cancelled ↔ c.links = [] ∧ c.ending = .declined

variable {c}

theorem result_of_not_refused (h : ∀ error, c.ending ≠ .refused error) :
    c.result = .ok ((c.links.head?.map Link.outcome).getD .cancelled) := by
  obtain ⟨passed, ending⟩ := c
  cases ending with
  | refused error => exact absurd rfl (h error)
  | declined | closed =>
    simp only [result]
    cases List.head? _ <;> rfl

theorem results_result (c : Chain) : c.Results c.result := by
  have hdecided : ∀ outcome, c.result = .ok outcome ↔ (∀ error, c.ending ≠ .refused error) ∧
      (c.links.head?.map Link.outcome).getD .cancelled = outcome := by
    intro outcome
    constructor
    · intro h
      have hfree : ∀ error, c.ending ≠ .refused error := by
        intro error hrefused
        cases h.symm.trans (result_eq_error.mpr hrefused)
      rw [result_of_not_refused hfree] at h
      exact ⟨hfree, Except.ok.inj h⟩
    · rintro ⟨hfree, rfl⟩
      exact result_of_not_refused hfree
  refine ⟨fun _ => result_eq_error, ?_, fun message => ?_, ?_⟩
  · rw [hdecided]
    cases c.links.head? with
    | none => simp
    | some link => simp [Link.outcome_eq_succeeded]
  · rw [hdecided]
    cases c.links.head? with
    | none => simp
    | some link => simp [Link.outcome_eq_failed]
  · rw [hdecided]
    obtain ⟨passed, ending⟩ := c
    cases ending with
    | refused error => simp
    | declined => cases passed <;> simp [links, Link.outcome_ne_cancelled]
    | closed link => cases passed <;> simp [links, Link.outcome_ne_cancelled]

end Chain

theorem Leads.of_nil {ex : Executor} {past : List Moment} {first action : Action} {depth : Nat}
    (h : Leads ex past first [] action depth) : action = first ∧ depth = 0 := by
  generalize hlinks : ([] : List Link) = links at h
  cases h with
  | first => exact ⟨rfl, rfl⟩
  | next => simp at hlinks

/-- The first link of a chain was run for the action that the chain is for. -/
theorem Leads.head {ex : Executor} {past : List Moment} {first action : Action}
    {links : List Link} {depth : Nat} (h : Leads ex past first links action depth) :
    ∀ link ∈ links.head?, link.Ran ex past first 0 := by
  induction h with
  | first => rintro _ ⟨⟩
  | @next links _ _ _ _ hleads hran _ ih =>
    intro head hhead
    cases links with
    | nil =>
      obtain rfl := Option.some.inj hhead
      obtain ⟨rfl, rfl⟩ := hleads.of_nil
      exact hran
    | cons => exact ih head hhead

theorem Chain.Ran.head {ex : Executor} {past : List Moment} {first : Action} {c : Chain}
    (h : c.Ran ex past first) : ∀ link ∈ c.links.head?, link.Ran ex past first 0 := by
  obtain ⟨action, depth, hleads, hreached⟩ := h
  obtain ⟨passed, ending⟩ := c
  cases hreached with
  | refused | declined => exact hleads.head
  | @closed last model hlast =>
    intro head hhead
    cases passed with
    | nil =>
      obtain rfl := Option.some.inj hhead
      obtain ⟨rfl, rfl⟩ := hleads.of_nil
      exact hlast
    | cons => exact hleads.head head hhead

/-! ## Nothing before the last handler has settled -/

theorem Turn.of_leaving {ex : Executor} {m : Moment} {more : List Event} {o o' : Outline}
    (h : Turn ex m more o o') (hphase : ∃ result, o.phase = .leaving result) :
    more = [] ∧ ∃ result, o'.phase = .leaving result := by
  cases h with
  | resume => exact ⟨rfl, _, rfl⟩
  | refuse | ask | call | pass | decline | close | chain => cases hphase.choose_spec

theorem not_isEffect_of_doings {links : List Link} {e : Event}
    (he : e ∈ links.flatMap Link.doings) : ¬e.isEffect := by
  obtain ⟨link, -, hlink⟩ := List.mem_flatMap.mp he
  obtain rfl | hlink := List.mem_cons.mp hlink
  · exact Bool.false_ne_true
  · obtain rfl := List.mem_singleton.mp hlink
    exact Bool.false_ne_true

/-- An effect is applied when the whole chain was run, and not before. -/
theorem Progress.of_effect {ex : Executor} {past : List Moment} {first : Action} {o : Outline}
    {done : List Event} (h : Progress ex past first o done) {e : Event} (he : e ∈ done)
    (heffect : e.isEffect) :
    ∃ c : Chain, c.Ran ex past first ∧ done = c.doings ex ∧
      ∃ result, o.phase = .leaving result := by
  cases h with
  | entering | confirming => exact absurd heffect (not_isEffect_of_doings he)
  | handling =>
    obtain he | he := List.mem_append.mp he
    · exact absurd heffect (not_isEffect_of_doings he)
    · obtain rfl := List.mem_singleton.mp he
      cases heffect
  | leaving hran _ => exact ⟨_, hran, rfl, _, rfl⟩

/-! ## Alone -/

namespace System

/-- An act moves some task, or nothing is done. -/
theorem events_cases (ex : Executor) (y : System) (a : Act) :
    (∃ j u move, y.tasks[j]? = some u ∧ a.move? ex y.state u j = some move) ∨
      ∀ e ∈ (y.step ex a).events, e.isQuiet := by
  have hfollow : ∀ (j : Nat) (move? : Task → Option Move),
      (∀ u, a.move? ex y.state u j = move? u) →
      (y.step ex a).events = (y.follow j ((y.tasks[j]?).bind move?)).2 →
      (∃ j u move, y.tasks[j]? = some u ∧ a.move? ex y.state u j = some move) ∨
        ∀ e ∈ (y.step ex a).events, e.isQuiet := by
    intro j move? hmove? hevents
    rw [hevents]
    cases hbind : (y.tasks[j]?).bind move? with
    | none => exact .inr (List.forall_mem_nil _)
    | some move =>
      obtain ⟨u, hu, hmove⟩ := Option.bind_eq_some_iff.mp hbind
      exact .inl ⟨j, u, move, hu, (hmove? u).trans hmove⟩
  cases a with
  | start | elapse | change => exact .inr (List.forall_mem_nil _)
  | answer target accepted =>
    right
    rw [← List.append_nil (y.step ex _).events]
    exact y.state.quiet_answer target accepted (List.forall_mem_nil _)
  | move j => exact hfollow j _ (fun _ => if_pos rfl) rfl
  | release j program => exact hfollow j _ (fun _ => if_pos rfl) rfl
  | interrupt j frames program => exact hfollow j _ (fun _ => if_pos rfl) rfl
  | drop j =>
    right
    simp only [step, perform]
    cases hj : y.tasks[j]? with
    | none => exact List.forall_mem_nil _
    | some u => exact Task.quiet_abandon y.state u

/-- Where all others have ended, nothing is done but by the task that is left. -/
theorem filter_isDoing_step (ex : Executor) {y : System} {i : Nat} {t : Task}
    (hi : y.tasks[i]? = some t)
    (hothers : ∀ j u, j ≠ i → y.tasks[j]? = some u → u.result?.isSome) {a : Act}
    (hmove : a.move? ex y.state t i = none) :
    (y.step ex a).events.filter Event.isDoing = [] := by
  obtain ⟨j, u, move, hj, hmoved⟩ | hquiet := events_cases ex y a
  · by_cases hji : j = i
    · subst hji
      obtain rfl := Option.some.inj (hi.symm.trans hj)
      cases hmove.symm.trans hmoved
    · cases hmoved.symm.trans (Act.move?_of_result? (hothers j u hji hj) j a)
  · exact filter_isDoing_of_quiet hquiet

end System

namespace Execution

variable {ex : Executor} {action : Action} (e : Execution ex action)

/-- No other invocation is in flight: all other tasks have ended, and no handler along the
chain runs an action. -/
structure Alone : Prop where
  others : ∀ n i t, i ≠ e.place n → (e.system n).tasks[i]? = some t → t.result?.isSome
  outside : ∀ n, (e.task n).inside = false

/-- What is seen to be done was done along the chain. -/
theorem Alone.filter_story {e : Execution ex action} (h : e.Alone) (n : ℕ) :
    (e.story n).filter Event.isDoing = e.doings n := by
  induction n with
  | zero => rfl
  | succ n ih =>
    rw [story_succ, doings_succ, List.filter_append, ih]
    congr 1
    cases hmoment : e.moment? n with
    | none =>
      exact System.filter_isDoing_step ex (e.getElem?_place n) (h.others n)
        (Option.map_eq_none_iff.mp hmoment)
    | some m =>
      obtain ⟨move, hmove, rfl⟩ := Option.map_eq_some_iff.mp hmoment
      rw [System.events_of_move? ex (e.getElem?_place n) hmove, Option.elim_some, Moment.doings,
        Moment.inside, h.outside n, Bool.false_and, if_neg Bool.false_ne_true]

theorem doings_of_leaving {n k : ℕ} (h : n ≤ k)
    (hphase : ∃ result, (e.outline n).phase = .leaving result) : e.doings k = e.doings n := by
  suffices hall : e.doings k = e.doings n ∧ ∃ result, (e.outline k).phase = .leaving result from
    hall.1
  induction k, h using Nat.le_induction with
  | base => exact ⟨rfl, hphase⟩
  | succ k _ ih =>
    obtain ⟨hdoings, hleaving⟩ := ih
    obtain ⟨houtline, hsame⟩ | ⟨m, -, more, hturn, hmore⟩ := e.step_cases k
    · rw [houtline, hsame]
      exact ⟨hdoings, hleaving⟩
    · obtain ⟨rfl, hafter⟩ := hturn.of_leaving hleaving
      rw [hmore, List.append_nil]
      exact ⟨hdoings, hafter⟩

/-- With nothing else in flight, an execution is the handler calls of a chain one after
another and then its effect, which comes when the last handler has settled. An error that has
ended the chain comes out as it is, and otherwise the first action decides. Of the entries of
an effect only the first counts. -/
theorem meaning (halone : e.Alone) :
    (∀ n, ∀ event ∈ e.story n, event.isEffect → ∃ c : Chain, c.Ran ex (e.past n) action ∧
      ∀ k ≥ n, (e.story k).filter Event.isDoing = c.doings ex) ∧
    (∀ n result, (e.task n).result? = some result → ∃ c : Chain, c.Ran ex (e.past n) action ∧
      (e.story n).filter Event.isDoing = c.links.flatMap Link.doings ++ c.effects ex ∧
      (c.effects ex = [] ∨ (∃ url, c.effects ex = [.navigated url]) ∨
        ∃ writes : Fields Value, c.effects ex =
          writes.map fun write => .wrote write.1 write.2) ∧
      (∀ link ∈ c.links.head?, link.Ran ex (e.past n) action 0) ∧ c.Results result) ∧
    ∀ fields, Effect.ofValue (.obj fields) =
      Effect.ofValue (.obj (Effect.leading? fields).toList) := by
  refine ⟨?_, ?_, Effect.ofValue_eq_leading?⟩
  · intro n event hevent heffect
    have hdone : event ∈ e.doings n := by
      rw [← halone.filter_story n]
      exact List.mem_filter.mpr ⟨hevent, Event.isDoing_of_isEffect heffect⟩
    obtain ⟨c, hran, hdoings, hphase⟩ := (e.progress n).of_effect hdone heffect
    refine ⟨c, hran, fun k hk => ?_⟩
    rw [halone.filter_story k, e.doings_of_leaving hk hphase, hdoings]
  · intro n result hresult
    obtain ⟨c, hran, hdoings, rfl⟩ := e.exists_chain hresult
    refine ⟨c, hran, ?_, c.effects_cases ex, hran.head, c.results_result⟩
    rw [halone.filter_story n, hdoings]
    rfl

theorem alone_solo (model : Value) {n : ℕ}
    (hresult : ((solo ex action model).task n).result?.isSome)
    (h : ∀ k ≤ n, ((solo ex action model).task k).inside = false) :
    (solo ex action model).Alone where
  others n i t hi ht := by
    rw [tasks_solo] at ht
    rw [place_solo] at hi
    cases i with
    | zero => exact absurd rfl hi
    | succ i => cases ht
  outside k := by
    obtain hkn | hnk := le_total k n
    · exact h k hkn
    · rw [((solo ex action model).eq_of_result? hnk hresult).1]
      exact h n le_rfl

end Execution

/-! ## A chain that fails -/

namespace Notice

/-- An action that succeeds and chains to one that fails. -/
def action : Action := { Action.bare "save" with onSuccess := some (.chain "notify") }

def executor : Executor where
  registry :=
    { handlers := [("notify", fun _ => .fail "offline"), ("save", fun _ => .finish)]
      definitions := [("notify", { Action.bare "notify" with
        onError := some (.set [("/problem", .str "$error.message")]) })] }
  config := .initial

def execution : Execution executor action := .solo executor action .null

theorem alone_execution : execution.Alone :=
  Execution.alone_solo .null (n := 5) rfl fun k hk => by interval_cases k <;> rfl

end Notice

theorem Execution.meaning_of_notice :
    Notice.execution.Alone ∧
      ∃ c : Chain, c.Ran Notice.executor (Notice.execution.past 5) Notice.action ∧
        c.links.flatMap Link.doings ++ c.effects Notice.executor =
          [.called 0 "save" [], .settled 0 (.ok ()), .called 1 "notify" [],
            .settled 1 (.error "offline"), .wrote "/problem" (.str "offline")] ∧
        c.Results (.ok .succeeded) := by
  obtain ⟨-, hends, -⟩ := meaning Notice.execution Notice.alone_execution
  obtain ⟨c, hran, hstory, -, -, hresults⟩ := hends 5 (.ok .succeeded) rfl
  exact ⟨Notice.alone_execution, c, hran, hstory.symm.trans rfl, hresults⟩

end ScreenLogic
