import ScreenLogic.Proofs.Executor.System

/-!
# The chain of an action

An action leads to a chain of links. Each link is an invocation whose handler was called
and has settled; its effect names the action of the next link, or closes the chain. Seen
from outside of its handlers, a task goes from phase to phase along its chain, and then
back through the links to the first one.

## Main definitions

* `Outline`: what the chain of a task is at, and the links before.
* `Turn`: one step along the chain.
* `Chain`: the links of a chain and how it ended; what it has done and what it results in.
* `Progress`: how far a chain has come, and what it has done so far.

## Main statements

* `Progress.turn`: each step along a chain is progress.
-/

namespace ScreenLogic

/-! ## Outlines -/

/-- What a chain is at. Whatever goes on inside of a handler, the chain is at that handler. -/
inductive Phase where
  | entering (action : Action) (depth : Nat)
  | confirming (inv : Invocation)
  | handling (inv : Invocation)
  | leaving (result : ActionResult)

/-- What a chain is at, and the links that wait for it to end, the last one first. -/
structure Outline where
  phase : Phase
  waiting : List (Invocation × Outcome)

def Focus.phase : Focus → Phase
  | .entering action depth => .entering action depth
  | .confirming inv => .confirming inv
  | .handling inv _ _ => .handling inv
  | .leaving result => .leaving result

/-- An outline in a frame around it. An action that a handler runs has a chain of its own. -/
def Outline.around (o : Outline) : Frame → Outline
  | .chained inv outcome => ⟨o.phase, o.waiting ++ [(inv, outcome)]⟩
  | .nested inv _ _ => ⟨.handling inv, []⟩

/-- The outline of the chain of the action that a task runs. -/
def Task.outline (t : Task) : Outline := t.stack.foldl Outline.around ⟨t.focus.phase, []⟩

/-! ## Moments -/

/-- A move of a task, and what it moved from. -/
structure Moment where
  state : State
  task : Task
  move : Move

namespace Moment

/-- The ways in which a task may move while others leave it alone. -/
inductive Possible (ex : Executor) (m : Moment) : Prop where
  | step : m.task.step ex m.state = some m.move → Possible ex m
  | unpark (program : Program) : m.task.unpark? m.state program = some m.move → Possible ex m
  | interrupt (frames : Nat) (program : Program) :
      m.task.interrupt? m.state frames program = some m.move → Possible ex m

/-- A new invocation of an action, at some depth of a chain. -/
structure Begins (ex : Executor) (m : Moment) (action : Action) (depth : Nat)
    (inv : Invocation) : Prop where
  id_eq : inv.id = m.state.nextId
  action_eq : inv.action = action.resolve m.state.model
  depth_eq : inv.depth = depth
  depth_le : depth ≤ ex.config.maxChainDepth
  handler : ex.registry.handler? action.name = some inv.handler

/-- The handler of an invocation begins its work on the parameters. -/
def Calls (m : Moment) (inv : Invocation) : Prop :=
  ∃ deadline, m.move.task.focus =
    .handling inv deadline (.running (inv.handler inv.action.params))

end Moment

/-- An action that is not run, for a cause. -/
inductive Executor.Refuses (ex : Executor) (action : Action) (depth : Nat) :
    ActionError → Prop where
  | tooDeep : ex.config.maxChainDepth < depth →
      Refuses ex action depth (.chainTooDeep action.name ex.config.maxChainDepth)
  | unknown : depth ≤ ex.config.maxChainDepth → ex.registry.handler? action.name = none →
      Refuses ex action depth (.unknownAction action.name)

/-! ## Links -/

/-- An invocation whose handler has settled. -/
structure Link where
  inv : Invocation
  result : Except String Unit

namespace Link

def outcome (link : Link) : Outcome :=
  match link.result with
  | .ok () => .succeeded
  | .error message => .failed message

/-- The effect for the side on which the handler has settled. -/
def effect (link : Link) : Option Effect :=
  match link.result with
  | .ok () => link.inv.action.onSuccess
  | .error _ => link.inv.action.onError

/-- The text that stands for the sentinel. -/
def message (link : Link) : Option String :=
  match link.result with
  | .ok () => none
  | .error message => if message = "" then none else some message

/-- The action that the effect chains to. -/
def next? (link : Link) : Option String :=
  match link.effect with
  | some (.chain name) => some name
  | _ => none

def doings (link : Link) : List Event :=
  [.called link.inv.id link.inv.action.name link.inv.action.params,
   .settled link.inv.id link.result]

/-- What an effect does that does not chain: open one page, write the values of a `set`, or
nothing. -/
def closing (ex : Executor) (model : Value) (link : Link) : List Event :=
  match link.effect with
  | some (.navigate target) => (Task.destination? model target).toList.map .navigated
  | some (.set entries) =>
    (Fields.mapValues (Task.substitute ex.config.errorMessageSentinel link.message) entries).map
      fun write => .wrote write.1 write.2
  | some (.chain _) | none => []

end Link

/-- A handler has a deadline that it is held to. -/
def Task.Holds (t : Task) (inv : Invocation) (deadline : Timer) : Prop :=
  (∃ activity, t.focus = .handling inv (some deadline) activity) ∨
    ∃ next, .nested inv (some deadline) next ∈ t.stack

/-- A handler settles: it has finished, has failed, or is out of time. -/
inductive Task.Settles (ex : Executor) (s : State) (t : Task) : Link → Prop where
  | finished (inv : Invocation) (deadline : Option Timer) :
      t.focus = .handling inv deadline (.running .finish) → Settles ex s t ⟨inv, .ok ()⟩
  | failed (inv : Invocation) (deadline : Option Timer) (message : String) :
      t.focus = .handling inv deadline (.running (.fail message)) →
      Settles ex s t ⟨inv, .error message⟩
  | expired (inv : Invocation) (deadline : Timer) :
      t.Holds inv deadline → deadline.due ≤ s.clock →
      Settles ex s t ⟨inv, .error (timeoutMessage ex inv)⟩

/-! ## Steps along a chain -/

/-- A step along a chain in a moment, in which certain things are done. -/
inductive Turn (ex : Executor) (m : Moment) : List Event → Outline → Outline → Prop where
  | refuse {action : Action} {depth : Nat} {error : ActionError}
      (waiting : List (Invocation × Outcome)) : ex.Refuses action depth error →
      Turn ex m [] ⟨.entering action depth, waiting⟩ ⟨.leaving (.error error), waiting⟩
  | ask {action : Action} {depth : Nat} {inv : Invocation}
      (waiting : List (Invocation × Outcome)) : m.Begins ex action depth inv →
      action.confirm.isSome →
      Turn ex m [] ⟨.entering action depth, waiting⟩ ⟨.confirming inv, waiting⟩
  | call {action : Action} {depth : Nat} {inv : Invocation}
      (waiting : List (Invocation × Outcome)) : m.Begins ex action depth inv →
      action.confirm = none → m.Calls inv →
      Turn ex m [.called inv.id inv.action.name inv.action.params]
        ⟨.entering action depth, waiting⟩ ⟨.handling inv, waiting⟩
  | pass {inv : Invocation} (waiting : List (Invocation × Outcome)) :
      m.state.reply? inv.id = some .accepted → m.Calls inv →
      Turn ex m [.called inv.id inv.action.name inv.action.params]
        ⟨.confirming inv, waiting⟩ ⟨.handling inv, waiting⟩
  | decline {inv : Invocation} {reply : Reply} (waiting : List (Invocation × Outcome)) :
      m.state.reply? inv.id = some reply → reply ≠ .accepted →
      Turn ex m [] ⟨.confirming inv, waiting⟩ ⟨.leaving (.ok .cancelled), waiting⟩
  | close {link : Link} (waiting : List (Invocation × Outcome)) :
      m.task.Settles ex m.state link → link.next? = none →
      Turn ex m (.settled link.inv.id link.result :: link.closing ex m.state.model)
        ⟨.handling link.inv, waiting⟩ ⟨.leaving (.ok link.outcome), waiting⟩
  | chain {link : Link} {name : String} (waiting : List (Invocation × Outcome)) :
      m.task.Settles ex m.state link → link.next? = some name →
      Turn ex m [.settled link.inv.id link.result] ⟨.handling link.inv, waiting⟩
        ⟨.entering (ex.registry.definition name) (link.inv.depth + 1),
          (link.inv, link.outcome) :: waiting⟩
  | resume {result : ActionResult} {inv : Invocation} {outcome : Outcome}
      (waiting : List (Invocation × Outcome)) :
      Turn ex m [] ⟨.leaving result, (inv, outcome) :: waiting⟩
        ⟨.leaving (result.map fun _ => outcome), waiting⟩

/-! ## Chains -/

section Past

variable (ex : Executor) (past : List Moment)

/-- An invocation whose handler was called, if need be after it was confirmed. -/
structure Invocation.Ran (action : Action) (depth : Nat) (inv : Invocation) : Prop where
  begun : ∃ m ∈ past, m.Begins ex action depth inv
  passed : action.confirm.isSome → ∃ m ∈ past, m.state.reply? inv.id = some .accepted
  called : ∃ m ∈ past, m.Calls inv

/-- A link that was run for an action. -/
structure Link.Ran (action : Action) (depth : Nat) (link : Link) : Prop
    extends link.inv.Ran ex past action depth where
  settled : ∃ m ∈ past, m.task.Settles ex m.state link

/-- Links lead from the first action of a chain to one that some link has chained to. -/
inductive Leads (first : Action) : List Link → Action → Nat → Prop where
  | first : Leads first [] first 0
  | next {links : List Link} {action : Action} {depth : Nat} {link : Link} {name : String} :
      Leads first links action depth → link.Ran ex past action depth → link.next? = some name →
      Leads first (links ++ [link]) (ex.registry.definition name) (depth + 1)

end Past

/-- How a chain ends: its last action is refused or not confirmed, or the effect of its last
link does not chain and is applied to a model. -/
inductive Chain.Ending where
  | refused (error : ActionError)
  | declined
  | closed (link : Link) (model : Value)

/-- How a chain has ended at an action. -/
inductive Chain.Ending.Reached (ex : Executor) (past : List Moment) (action : Action)
    (depth : Nat) : Chain.Ending → Prop where
  | refused {error : ActionError} : ex.Refuses action depth error →
      Reached ex past action depth (.refused error)
  | declined {inv : Invocation} {reply : Reply} : action.confirm.isSome →
      (∃ m ∈ past, m.Begins ex action depth inv) →
      (∃ m ∈ past, m.state.reply? inv.id = some reply) → reply ≠ .accepted →
      Reached ex past action depth .declined
  | closed {link : Link} {model : Value} : link.Ran ex past action depth → link.next? = none →
      (∃ m ∈ past, m.task.Settles ex m.state link ∧ m.state.model = model) →
      Reached ex past action depth (.closed link model)

/-- The links that have chained to another, and the end. -/
structure Chain where
  passed : List Link
  ending : Chain.Ending

namespace Chain

/-- All links, in order. -/
def links (c : Chain) : List Link :=
  match c.ending with
  | .closed link _ => c.passed ++ [link]
  | .refused _ | .declined => c.passed

/-- What the last link has done to the model and to the page. -/
def effects (ex : Executor) (c : Chain) : List Event :=
  match c.ending with
  | .closed link model => link.closing ex model
  | .refused _ | .declined => []

/-- The calls of the handlers one after another, and then the effects of the last link. -/
def doings (ex : Executor) (c : Chain) : List Event :=
  c.links.flatMap Link.doings ++ c.effects ex

/-- The error that has ended the chain, or else how its first action has ended. -/
def result (c : Chain) : ActionResult :=
  match c.ending with
  | .refused error => .error error
  | .closed _ _ | .declined =>
    match c.links.head? with
    | some link => .ok link.outcome
    | none => .ok .cancelled

theorem result_eq_error {c : Chain} {error : ActionError} :
    c.result = .error error ↔ c.ending = .refused error := by
  obtain ⟨passed, ending⟩ := c
  cases ending with
  | refused other => simp only [result, Except.error.injEq, Ending.refused.injEq]
  | declined | closed =>
    simp only [result]
    split <;> simp

/-- A chain that was run for an action. -/
def Ran (ex : Executor) (past : List Moment) (first : Action) (c : Chain) : Prop :=
  ∃ action depth, Leads ex past first c.passed action depth ∧
    c.ending.Reached ex past action depth

end Chain

/-! ## Progress -/

/-- Links that wait for the last one of them to end. -/
def Link.waiting (links : List Link) : List (Invocation × Outcome) :=
  (links.map fun link => (link.inv, link.outcome)).reverse

/-- What a result becomes on its way out to the first link. -/
def unwind : List (Invocation × Outcome) → ActionResult → ActionResult
  | [], result => result
  | (_, outcome) :: waiting, result => unwind waiting (result.map fun _ => outcome)

/-- How far the chain of an action has come, and what it has done so far. -/
inductive Progress (ex : Executor) (past : List Moment) (first : Action) :
    Outline → List Event → Prop where
  | entering {links : List Link} {action : Action} {depth : Nat} :
      Leads ex past first links action depth →
      Progress ex past first ⟨.entering action depth, Link.waiting links⟩
        (links.flatMap Link.doings)
  | confirming {links : List Link} {action : Action} {depth : Nat} {inv : Invocation} :
      Leads ex past first links action depth → action.confirm.isSome →
      (∃ m ∈ past, m.Begins ex action depth inv) →
      Progress ex past first ⟨.confirming inv, Link.waiting links⟩ (links.flatMap Link.doings)
  | handling {links : List Link} {action : Action} {depth : Nat} {inv : Invocation} :
      Leads ex past first links action depth → inv.Ran ex past action depth →
      Progress ex past first ⟨.handling inv, Link.waiting links⟩
        (links.flatMap Link.doings ++ [.called inv.id inv.action.name inv.action.params])
  | leaving {c : Chain} {result : ActionResult} {waiting : List (Invocation × Outcome)} :
      c.Ran ex past first → unwind waiting result = c.result →
      Progress ex past first ⟨.leaving result, waiting⟩ (c.doings ex)

section Unwind

theorem unwind_error (waiting : List (Invocation × Outcome)) (error : ActionError) :
    unwind waiting (.error error) = .error error := by
  induction waiting with
  | nil => rfl
  | cons _ waiting ih => exact ih

theorem unwind_append (waiting more : List (Invocation × Outcome)) (result : ActionResult) :
    unwind (waiting ++ more) result = unwind more (unwind waiting result) := by
  induction waiting generalizing result with
  | nil => rfl
  | cons _ waiting ih => exact ih _

/-- On the way out each link puts its own outcome in place, so that of the first one is left. -/
theorem unwind_ok (links : List Link) (outcome : Outcome) :
    unwind (Link.waiting links) (.ok outcome) =
      .ok ((links.head?.map Link.outcome).getD outcome) := by
  cases links with
  | nil => rfl
  | cons link links =>
    have hinner : ∃ inner, unwind (Link.waiting links) (.ok outcome) = .ok inner := by
      induction links using List.reverseRecOn generalizing outcome with
      | nil => exact ⟨outcome, rfl⟩
      | append_singleton links last ih =>
        obtain ⟨inner, hinner⟩ := ih last.outcome
        refine ⟨inner, ?_⟩
        rw [← hinner]
        simp [Link.waiting, unwind, Except.map]
    obtain ⟨inner, hinner⟩ := hinner
    have hsplit : Link.waiting (link :: links) =
        Link.waiting links ++ [(link.inv, link.outcome)] := by
      simp [Link.waiting]
    rw [hsplit, unwind_append, hinner]
    rfl

end Unwind

/-! ## What was true of the past stays so -/

section Mono

variable {ex : Executor} {past more : List Moment} (h : past ⊆ more)
include h

theorem Invocation.Ran.mono {action : Action} {depth : Nat} {inv : Invocation}
    (hran : inv.Ran ex past action depth) : inv.Ran ex more action depth := by
  obtain ⟨⟨m, hm, hbegins⟩, hpassed, n, hn, hcalls⟩ := hran
  refine ⟨⟨m, h hm, hbegins⟩, fun hconfirm => ?_, n, h hn, hcalls⟩
  obtain ⟨k, hk, hreply⟩ := hpassed hconfirm
  exact ⟨k, h hk, hreply⟩

theorem Link.Ran.mono {action : Action} {depth : Nat} {link : Link}
    (hran : link.Ran ex past action depth) : link.Ran ex more action depth := by
  obtain ⟨hinv, m, hm, hsettles⟩ := hran
  exact ⟨hinv.mono h, m, h hm, hsettles⟩

theorem Leads.mono {first action : Action} {links : List Link} {depth : Nat}
    (hleads : Leads ex past first links action depth) :
    Leads ex more first links action depth := by
  induction hleads with
  | first => exact .first
  | next _ hran hnext ih => exact .next ih (hran.mono h) hnext

theorem Chain.Ending.Reached.mono {action : Action} {depth : Nat} {ending : Chain.Ending}
    (hreached : ending.Reached ex past action depth) : ending.Reached ex more action depth := by
  cases hreached with
  | refused hrefuses => exact .refused hrefuses
  | declined hconfirm hbegun hreply hne =>
    obtain ⟨m, hm, hbegins⟩ := hbegun
    obtain ⟨n, hn, hreply⟩ := hreply
    exact .declined hconfirm ⟨m, h hm, hbegins⟩ ⟨n, h hn, hreply⟩ hne
  | closed hlink hnext hmodel =>
    obtain ⟨m, hm, hmodel⟩ := hmodel
    exact .closed (hlink.mono h) hnext ⟨m, h hm, hmodel⟩

theorem Chain.Ran.mono {first : Action} {c : Chain} (hran : c.Ran ex past first) :
    c.Ran ex more first := by
  obtain ⟨action, depth, hleads, hreached⟩ := hran
  exact ⟨action, depth, hleads.mono h, hreached.mono h⟩

theorem Progress.mono {first : Action} {o : Outline} {done : List Event}
    (hprogress : Progress ex past first o done) : Progress ex more first o done := by
  cases hprogress with
  | entering hleads => exact .entering (hleads.mono h)
  | confirming hleads hconfirm hbegun =>
    obtain ⟨m, hm, hbegins⟩ := hbegun
    exact .confirming (hleads.mono h) hconfirm ⟨m, h hm, hbegins⟩
  | handling hleads hran => exact .handling (hleads.mono h) (hran.mono h)
  | leaving hran hunwind => exact .leaving (hran.mono h) hunwind

end Mono

/-! ## Steps are progress -/

section Turn

variable {ex : Executor} {past : List Moment} {first : Action} {m : Moment}

/-- A chain has ended, and its end makes its way out to the first link. -/
theorem Progress.of_ending {links : List Link} {action : Action} {depth : Nat}
    {ending : Chain.Ending} {result : ActionResult}
    (hleads : Leads ex past first links action depth)
    (hreached : ending.Reached ex past action depth)
    (hresult : unwind (Link.waiting links) result = (⟨links, ending⟩ : Chain).result) :
    Progress ex past first ⟨.leaving result, Link.waiting links⟩
      ((⟨links, ending⟩ : Chain).doings ex) :=
  .leaving ⟨action, depth, hleads, hreached⟩ hresult

/-- Each step along a chain is progress. -/
theorem Progress.turn {o o' : Outline} {done more : List Event} (hm : m ∈ past)
    (h : Progress ex past first o done) (hturn : Turn ex m more o o') :
    Progress ex past first o' (done ++ more) := by
  cases hturn with
  | refuse waiting hrefuses =>
    cases h with
    | entering hleads =>
      exact .of_ending hleads (.refused hrefuses) (unwind_error _ _)
  | ask waiting hbegins hconfirm =>
    cases h with
    | entering hleads =>
      rw [List.append_nil]
      exact .confirming hleads hconfirm ⟨m, hm, hbegins⟩
  | call waiting hbegins hconfirm hcalls =>
    cases h with
    | entering hleads =>
      exact .handling hleads ⟨⟨m, hm, hbegins⟩, by simp [hconfirm], m, hm, hcalls⟩
  | pass waiting hreply hcalls =>
    cases h with
    | confirming hleads hconfirm hbegun =>
      exact .handling hleads ⟨hbegun, fun _ => ⟨m, hm, hreply⟩, m, hm, hcalls⟩
  | decline waiting hreply hne =>
    cases h with
    | confirming hleads hconfirm hbegun =>
      refine .of_ending hleads (.declined hconfirm hbegun ⟨m, hm, hreply⟩ hne) ?_
      rw [unwind_ok]
      simp only [Chain.result, Chain.links]
      cases List.head? _ <;> rfl
  | @close link waiting hsettles hnext =>
    cases h with
    | @handling links _ _ _ hleads hran =>
      have hlink : link.Ran ex past _ _ := ⟨hran, m, hm, hsettles⟩
      have hend : Progress ex past first ⟨.leaving (.ok link.outcome), Link.waiting links⟩
          ((⟨links, .closed link m.state.model⟩ : Chain).doings ex) := by
        refine .of_ending hleads (.closed hlink hnext ⟨m, hm, hsettles, rfl⟩) ?_
        rw [unwind_ok]
        cases links <;> rfl
      simpa [Chain.doings, Chain.links, Chain.effects, Link.doings] using hend
  | @chain link name waiting hsettles hnext =>
    cases h with
    | @handling links _ _ _ hleads hran =>
      have hlink : link.Ran ex past _ _ := ⟨hran, m, hm, hsettles⟩
      have hnew := Progress.entering (hleads.next hlink hnext)
      obtain ⟨⟨_, -, hbegins⟩, -, -⟩ := hran
      rw [hbegins.depth_eq]
      simpa [Link.waiting, Link.doings] using hnew
  | resume waiting =>
    cases h with
    | leaving hran hunwind =>
      rw [List.append_nil]
      exact .leaving hran hunwind

end Turn

end ScreenLogic
