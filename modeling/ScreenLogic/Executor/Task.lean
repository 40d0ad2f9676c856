import ScreenLogic.Executor.State

/-!
# Tasks

A task runs one action with all that follows from it. What it is at is its focus; around
that stand the invocations that wait for the focus to come to an end, the innermost
first. A task moves in small steps, and between any two of them other tasks may move.

## Main definitions

* `Task.step`: the next step of a task, unless it has to wait or has ended.
* `Task.abandon`: a task is dropped where it stands.
-/

namespace ScreenLogic

/-- An action under way: resolved when it began, and with its handler at hand. -/
structure Invocation where
  id : InvocationId
  action : ResolvedAction
  depth : Nat
  handler : Handler

inductive Activity where
  | running (program : Program)
  | asleep (timer : Timer) (next : Program)
  | parked (next : Program)

inductive Focus where
  /-- An action is about to begin, at some depth of a chain. -/
  | entering (action : Action) (depth : Nat)
  | confirming (inv : Invocation)
  | handling (inv : Invocation) (deadline : Option Timer) (activity : Activity)
  | leaving (result : ActionResult)

/-- An invocation that waits for an action of its own to end: for the action that its
effect chained to, with its own outcome settled, or for one that its handler runs. -/
inductive Frame where
  | chained (inv : Invocation) (outcome : Outcome)
  | nested (inv : Invocation) (deadline : Option Timer) (next : ActionResult → Program)

structure Task where
  focus : Focus
  stack : List Frame

/-- What a step leads to. -/
structure Move where
  state : State
  task : Task
  events : List Event

namespace Frame

def inv : Frame → Invocation
  | .chained inv _ => inv
  | .nested inv _ _ => inv

end Frame

namespace Task

def ofAction (action : Action) : Task := ⟨.entering action 0, []⟩

/-- The result of a task that has ended. -/
def result? (t : Task) : Option ActionResult :=
  match t.focus, t.stack with
  | .leaving result, [] => some result
  | _, _ => none

/-- The invocation that a task waits to have confirmed. -/
def confirming? (t : Task) : Option InvocationId :=
  match t.focus with
  | .confirming inv => some inv.id
  | _ => none

/-- The invocation whose handler waits to be released. -/
def parked? (t : Task) : Option InvocationId :=
  match t.focus with
  | .handling inv _ (.parked _) => some inv.id
  | _ => none

/-- From now on a handler is held to its deadline, if handlers have one. -/
def setDeadline (ex : Executor) (s : State) : Option Timer × State :=
  match ex.config.handlerTimeout with
  | some ms => let (timer, s) := s.setTimer ms; (some timer, s)
  | none => (none, s)

/-- Call the handler of an invocation that is confirmed or needs no confirmation. -/
def call (ex : Executor) (s : State) (inv : Invocation) (stack : List Frame) : Move :=
  let (deadline, s) := setDeadline ex s
  { state := s.beginLoading inv.action.name
    task := ⟨.handling inv deadline (.running (inv.handler inv.action.params)), stack⟩
    events := [.called inv.id inv.action.name inv.action.params] }

/-- A new invocation asks for confirmation if it wants any. -/
def begin (ex : Executor) (s : State) (inv : Invocation) (stack : List Frame) : Move :=
  match inv.action.confirm with
  | some confirm =>
    let (s, events) := s.ask ⟨inv.id, inv.action.name, confirm⟩
    ⟨s, ⟨.confirming inv, stack⟩, events⟩
  | none => call ex s inv stack

/-- Begin an action: look up its handler and resolve it. -/
def enter (ex : Executor) (s : State) (action : Action) (depth : Nat) (stack : List Frame) : Move :=
  if ex.config.maxChainDepth < depth then
    ⟨s, ⟨.leaving (.error (.chainTooDeep action.name ex.config.maxChainDepth)), stack⟩, []⟩
  else
    match ex.registry.handler? action.name with
    | none => ⟨s, ⟨.leaving (.error (.unknownAction action.name)), stack⟩, []⟩
    | some handler =>
      let inv : Invocation := ⟨s.nextId, action.resolve s.model, depth, handler⟩
      let move := begin ex { s with nextId := s.nextId + 1 } inv stack
      { move with events := .started s.nextId action s.model :: move.events }

/-- An entry of a `set` effect after an error: the sentinel stands for its message. -/
def substitute (sentinel : String) (message : Option String) (value : Value) : Value :=
  match message with
  | some message => if value = .str sentinel then .str message else value
  | none => value

/-- Where a `navigate` effect leads now, if anywhere. -/
def destination? (model : Value) (target : Binding) : Option String :=
  match target.resolve model with
  | none | some .null => none
  | some v => some (Value.display (some v))

/-- Apply the effect of an invocation whose handler has settled, and end it with its outcome
unless the effect chains to another action. -/
def apply (ex : Executor) (s : State) (inv : Invocation) (effect : Option Effect)
    (message : Option String) (outcome : Outcome) (stack : List Frame) : Move :=
  let leave (s : State) (events : List Event) : Move :=
    ⟨s.endLoading inv.action.name, ⟨.leaving (.ok outcome), stack⟩, events⟩
  match effect with
  | none => leave s []
  | some (.navigate target) =>
    match destination? s.model target with
    | some url => leave s [.navigated url]
    | none => leave s []
  | some (.set entries) =>
    let writes := Fields.mapValues (substitute ex.config.errorMessageSentinel message) entries
    leave { s with model := Model.setAll s.model writes } (writes.map fun w => .wrote w.1 w.2)
  | some (.chain name) =>
    let next := ex.registry.definition name
    ⟨s, ⟨.entering next (inv.depth + 1), .chained inv outcome :: stack⟩, []⟩

/-- The handler of an invocation has succeeded or failed. An empty message is not substituted. -/
def settle (ex : Executor) (s : State) (inv : Invocation) (result : Except String Unit)
    (stack : List Frame) : Move :=
  let move :=
    match result with
    | .ok () => apply ex s inv inv.action.onSuccess none .succeeded stack
    | .error message =>
      apply ex s inv inv.action.onError (if message = "" then none else some message)
        (.failed message) stack
  { move with events := .settled inv.id result :: move.events }

/-- One step of a handler's program. -/
def work (ex : Executor) (s : State) (inv : Invocation) (deadline : Option Timer)
    (program : Program) (stack : List Frame) : Move :=
  let go (s : State) (activity : Activity) (events : List Event) : Move :=
    ⟨s, ⟨.handling inv deadline activity, stack⟩, events⟩
  match program with
  | .finish => settle ex s inv (.ok ()) stack
  | .fail message => settle ex s inv (.error message) stack
  | .write path value next => go { s with model := Model.set s.model path value } (.running next) []
  | .observe next => go s (.running (next s.observation)) [.observed inv.id s.observation]
  | .answer id accepted next =>
    let (delivered, s, events) := s.answer id accepted
    go s (.running (next delivered)) (events ++ [.answered inv.id accepted delivered])
  | .execute name next =>
    ⟨s, ⟨.entering (ex.registry.definition name) 0, .nested inv deadline next :: stack⟩, []⟩
  | .sleep ms next => let (timer, s) := s.setTimer ms; go s (.asleep timer next) []
  | .park next => go s (.parked next) []

/-- Give back what a focus holds that is dropped. -/
def abandonFocus (s : State) : Focus → State × List Event
  | .confirming inv => s.leaveWait inv.id
  | .handling inv _ _ => (s.endLoading inv.action.name, [])
  | .entering _ _ | .leaving _ => (s, [])

/-- Give back what frames hold that are dropped. -/
def abandonFrames (s : State) (frames : List Frame) : State :=
  frames.foldl (fun s frame => s.endLoading frame.inv.action.name) s

/-- Drop a task where it stands. -/
def abandon (s : State) (t : Task) : State × List Event :=
  let (s, events) := abandonFocus s t.focus
  (abandonFrames s t.stack, events)

def isOver (s : State) : Option Timer → Bool
  | some timer => timer.due ≤ s.clock
  | none => false

def timeoutMessage (ex : Executor) (inv : Invocation) : String :=
  "Action '" ++ inv.action.name ++ "' timed out after " ++
    toString (ex.config.handlerTimeout.getD 0) ++ "ms"

/-- The innermost frame whose handler is out of time, and the frames inside it in reverse. -/
def overdueFrame? (s : State) :
    List Frame → List Frame → Option (List Frame × Invocation × List Frame)
  | _, [] => none
  | inside, .nested inv deadline next :: rest =>
    if isOver s deadline then some (inside, inv, rest)
    else overdueFrame? s (.nested inv deadline next :: inside) rest
  | inside, .chained inv outcome :: rest => overdueFrame? s (.chained inv outcome :: inside) rest

/-- The innermost handler around the focus that is out of time fails, and all that goes on
inside it is dropped. -/
def expireAround? (ex : Executor) (s : State) (t : Task) : Option Move :=
  match overdueFrame? s [] t.stack with
  | some (inside, inv, rest) =>
    let (s, events) := abandon s ⟨t.focus, inside.reverse⟩
    let move := settle ex s inv (.error (timeoutMessage ex inv)) rest
    some { move with events := events ++ move.events }
  | none => none

/-- A task that waits is still held to its deadlines, the innermost first. -/
def expire? (ex : Executor) (s : State) (t : Task) : Option Move :=
  match t.focus with
  | .handling inv deadline _ =>
    if isOver s deadline then some (settle ex s inv (.error (timeoutMessage ex inv)) t.stack)
    else expireAround? ex s t
  | _ => expireAround? ex s t

/-- The invocation outside takes up the result of the action that it waited for. -/
def resume (s : State) (result : ActionResult) : Frame → List Frame → Move
  | .chained inv outcome, stack =>
    ⟨s.endLoading inv.action.name, ⟨.leaving (result.map fun _ => outcome), stack⟩, []⟩
  | .nested inv deadline next, stack =>
    ⟨s, ⟨.handling inv deadline (.running (next result)), stack⟩, [.returned inv.id result]⟩

def step (ex : Executor) (s : State) (t : Task) : Option Move :=
  match t.focus with
  | .entering action depth => some (enter ex s action depth t.stack)
  | .confirming inv =>
    match s.reply? inv.id with
    | some reply =>
      let (s, events) := s.leaveWait inv.id
      let move :=
        match reply with
        | .accepted => call ex s inv t.stack
        | .declined | .closed => ⟨s, ⟨.leaving (.ok .cancelled), t.stack⟩, []⟩
      some { move with events := events ++ move.events }
    | none => expire? ex s t
  | .handling inv deadline (.running program) => some (work ex s inv deadline program t.stack)
  | .handling inv deadline (.asleep timer next) =>
    if timer.due ≤ s.clock then some ⟨s, ⟨.handling inv deadline (.running next), t.stack⟩, []⟩
    else expire? ex s t
  | .handling _ _ (.parked _) => expire? ex s t
  | .leaving result =>
    match t.stack with
    | frame :: stack => some (resume s result frame stack)
    | [] => none

/-- Release a parked handler; with an error it fails instead of going on. -/
def release? (t : Task) (id : InvocationId) (error : Option String) : Option Task :=
  match t.focus with
  | .handling inv deadline (.parked next) =>
    if inv.id = id then
      let program := match error with
        | some message => Program.fail message
        | none => next
      some { t with focus := .handling inv deadline (.running program) }
    else none
  | _ => none

def deadlineOf : Frame → Option Timer
  | .nested _ deadline _ => deadline
  | .chained _ _ => none

/-- All timers that may wake a task. -/
def timers (t : Task) : List Timer :=
  let focus := match t.focus with
    | .handling _ deadline (.asleep timer _) => timer :: deadline.toList
    | .handling _ deadline _ => deadline.toList
    | _ => []
  focus ++ t.stack.filterMap deadlineOf

end Task

end ScreenLogic
