import ScreenLogic.Executor.Task

/-!
# Sessions

A session drives an executor from outside, one command after another, on a clock of its
own. Tasks take turns: the one that was woken first runs until it has to wait. After each
command all tasks run until none can, and then the session reports what has happened.

## Main definitions

* `Session.perform`: one command, its answer and the report after it.
* `Session.settle`: let tasks run until none can.
-/

namespace ScreenLogic

structure Session where
  executor : Executor
  state : State
  /-- The tasks that have not ended, by their keys. -/
  tasks : List (String × Task)
  /-- The keys of the tasks that were woken, the first to run first. -/
  ready : List String
  /-- The invocations whose handlers were called, in order. -/
  calls : List InvocationId
  /-- The invocations whose requests were seen pending, in order. -/
  requests : List InvocationId

inductive Command where
  | start (key : String) (action : Action)
  | startNamed (key name : String)
  | answer (accepted : Bool)
  /-- Answer a certain request, by its number; an unknown one is nobody's. -/
  | respond (request : Option Nat) (accepted : Bool)
  | release (call : Nat) (error : Option String)
  | abort (key : String)
  | advance (ms : Nat)
  | set (path : String) (value : Value)
  | get (path : String)
  | isLoading (name : String)
  /-- Nothing is done; tasks may run. -/
  | pass

inductive Answer where
  | none
  | flag (value : Bool)
  | found (value : Option Value)
  deriving DecidableEq

/-- How a task has ended. -/
inductive Ending where
  | result (result : ActionResult)
  | aborted

/-- What has happened since the report before. -/
structure Report where
  events : List Event
  endings : List (String × Ending)

namespace Report

def empty : Report := ⟨[], []⟩

def append (a b : Report) : Report := ⟨a.events ++ b.events, a.endings ++ b.endings⟩

/-- Whether the shown request was set or cleared. -/
def notified (r : Report) : Bool :=
  r.events.any fun
    | .shown _ => true
    | _ => false

end Report

namespace Session

def init (executor : Executor) (model : Value) : Session := ⟨executor, .init model, [], [], [], []⟩

/-- The most steps that tasks take between two waits before they are left alone. -/
def patience : Nat := 1000000

def wake (s : Session) (key : String) : Session :=
  if s.ready.contains key then s else { s with ready := s.ready ++ [key] }

/-- Wake the task that waits for the confirmation of an invocation. -/
def wakeConfirming (s : Session) (id : InvocationId) : Session :=
  match s.tasks.find? fun entry => entry.2.confirming? == some id with
  | some entry => s.wake entry.1
  | none => s

/-- Keep up with an event: number calls, and wake those who got a reply. -/
def observe (s : Session) : Event → Session
  | .called id _ _ => { s with calls := s.calls ++ [id] }
  | .replied id _ => s.wakeConfirming id
  | _ => s

def observeAll (s : Session) (events : List Event) : Session := events.foldl observe s

def replaceTask (s : Session) (key : String) (task : Task) : Session :=
  { s with tasks := s.tasks.map fun entry => if entry.1 = key then (key, task) else entry }

def dropTask (s : Session) (key : String) : Session :=
  { s with
    tasks := s.tasks.filter (·.1 != key)
    ready := s.ready.filter (· != key) }

/-- Let tasks run in turn until none can, for at most so many steps. -/
def settle : Nat → Session → Session × Report
  | 0, s => (s, .empty)
  | fuel + 1, s =>
    match s.ready with
    | [] => (s, .empty)
    | key :: rest =>
      match s.tasks.lookup key with
      | none => settle fuel { s with ready := rest }
      | some task =>
        match task.step s.executor s.state with
        | some move =>
          let s := ({ s with state := move.state }.replaceTask key move.task).observeAll move.events
          let (s, report) := settle fuel s
          (s, { report with events := move.events ++ report.events })
        | none =>
          match task.result? with
          | some result =>
            let (s, report) := settle fuel (s.dropTask key)
            (s, { report with endings := (key, .result result) :: report.endings })
          | none => settle fuel { s with ready := rest }

def start (s : Session) (key : String) (action : Action) : Session :=
  { s with tasks := s.tasks ++ [(key, Task.ofAction action)] }.wake key

def answer (s : Session) (id : Option InvocationId) (accepted : Bool) : Bool × Session × Report :=
  let (delivered, state, events) := s.state.answer id accepted
  (delivered, { s with state := state }.observeAll events, ⟨events, []⟩)

def release (s : Session) (id : InvocationId) (error : Option String) : Bool × Session :=
  match s.tasks.find? fun entry => entry.2.parked? == some id with
  | some (key, task) =>
    match task.release? id error with
    | some task => (true, (s.replaceTask key task).wake key)
    | none => (false, s)
  | none => (false, s)

def abort (s : Session) (key : String) : Bool × Session × Report :=
  match s.tasks.lookup key with
  | some task =>
    let (state, events) := task.abandon s.state
    (true, { s.dropTask key with state := state }, ⟨events, [(key, .aborted)]⟩)
  | none => (false, s, .empty)

/-- The tasks with a timer that is due now, in the order in which the timers were set. -/
def dueKeys (s : Session) : List String :=
  let due := s.tasks.flatMap fun (key, task) =>
    (task.timers.filter (·.due == s.state.clock)).map fun timer => (timer.order, key)
  (due.mergeSort fun a b => a.1 ≤ b.1).map (·.2)

/-- One millisecond passes. -/
def tick (s : Session) : Session × Report :=
  let s := { s with state := { s.state with clock := s.state.clock + 1 } }
  (s.dueKeys.foldl wake s).settle patience

def advance : Nat → Session → Session × Report
  | 0, s => s.settle patience
  | ms + 1, s =>
    let (s, first) := s.tick
    let (s, rest) := advance ms s
    (s, first.append rest)

/-- Number the pending request, if it has not been seen before. -/
def noteRequest (s : Session) : Session :=
  match s.state.shown with
  | some request =>
    if s.requests.contains request.id then s else { s with requests := s.requests ++ [request.id] }
  | none => s

/-- The number of the pending request. -/
def requestNumber? (s : Session) : Option Nat :=
  s.state.shown.bind fun request => s.requests.idxOf? request.id

def callNumber (s : Session) (id : InvocationId) : Nat := s.calls.idxOf id

/-- Do what a command says, without letting tasks run. -/
def dispatch (s : Session) : Command → Answer × Session × Report
  | .start key action => (.none, s.start key action, .empty)
  | .startNamed key name => (.none, s.start key (s.executor.registry.definition name), .empty)
  | .answer accepted =>
    let (delivered, s, report) := s.answer none accepted
    (.flag delivered, s, report)
  | .respond request accepted =>
    match request.bind (s.requests[·]?) with
    | some id =>
      let (delivered, s, report) := s.answer (some id) accepted
      (.flag delivered, s, report)
    | none => (.flag false, s, .empty)
  | .release call error =>
    match s.calls[call]? with
    | some id =>
      let (released, s) := s.release id error
      (.flag released, s, .empty)
    | none => (.flag false, s, .empty)
  | .abort key =>
    let (aborted, s, report) := s.abort key
    (.flag aborted, s, report)
  | .advance ms =>
    let (s, report) := s.advance ms
    (.none, s, report)
  | .set path value =>
    let model := Model.set s.state.model path value
    (.none, { s with state := { s.state with model := model } }, .empty)
  | .get path => (.found (Model.get s.state.model path), s, .empty)
  | .isLoading name => (.flag (s.state.isLoading name), s, .empty)
  | .pass => (.none, s, .empty)

/-- A command is answered before the tasks run that it has woken. -/
def perform (s : Session) (command : Command) : Answer × Session × Report :=
  let (answer, s, before) := s.dispatch command
  let (s, after) := s.settle patience
  (answer, s.noteRequest, before.append after)

end Session

end ScreenLogic
