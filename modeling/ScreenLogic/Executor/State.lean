import ScreenLogic.Executor.Program

/-!
# State of an executor

What all invocations share: the model, the count of running invocations of each action,
and the one confirmation that may be pending. The request that is shown and the
invocation that is pending are kept apart, as are the channels on which those who wait
for a confirmation get their reply.

## Main definitions

* `State.ask`, `State.answer`, `State.leaveWait`: a confirmation is requested, answered and
  no longer waited for.
* `State.send`: a reply on its way to one who waits.
* `State.beginLoading`, `State.endLoading`: the loading counts.
* `Event`: the trace of what happens.
-/

namespace ScreenLogic

/-- A confirmation as it is shown. -/
structure Request where
  id : InvocationId
  action : String
  confirm : ConfirmSpec
  deriving DecidableEq

/-- How a wait for confirmation ends. It is closed when a newer request takes its place. -/
inductive Reply where
  | accepted
  | declined
  | closed
  deriving DecidableEq

/-- What an answer tells the one who waits. -/
def Reply.ofAnswer (accepted : Bool) : Reply := if accepted then .accepted else .declined

inductive Event where
  /-- An invocation began; its action is resolved against this model. -/
  | started (id : InvocationId) (action : Action) (model : Value)
  /-- The request that is shown was set or cleared. -/
  | shown (request : Option Request)
  | replied (id : InvocationId) (reply : Reply)
  | called (id : InvocationId) (handler : String) (params : Fields Value)
  | observed (id : InvocationId) (view : Observation)
  /-- A handler answered a confirmation; `delivered` tells whether one was pending. -/
  | answered (id : InvocationId) (accepted delivered : Bool)
  /-- An action that a handler ran has ended. -/
  | returned (id : InvocationId) (result : ActionResult)
  /-- A handler has succeeded, or failed with a message. -/
  | settled (id : InvocationId) (result : Except String Unit)
  | wrote (path : String) (value : Value)
  | navigated (url : String)

structure State where
  /-- In milliseconds. -/
  clock : Nat
  model : Value
  loading : Fields Nat
  pending : Option InvocationId
  shown : Option Request
  /-- Those who wait for a confirmation, each with its reply once that was sent. -/
  channels : List (InvocationId × Option Reply)
  nextId : InvocationId
  /-- How many timers were set so far. -/
  timers : Nat
  deriving DecidableEq

/-- A point in time, and which of the timers was set for it. -/
structure Timer where
  due : Nat
  order : Nat
  deriving DecidableEq

namespace State

def init (model : Value) : State := ⟨0, model, [], none, none, [], 0, 0⟩

def observation (s : State) : Observation :=
  ⟨Fields.keys s.loading, s.shown.map (·.action), s.model⟩

def isLoading (s : State) (name : String) : Bool := Fields.has s.loading name

/-- The channel of one who waits: nothing yet, or the reply. -/
def channel? (s : State) (id : InvocationId) : Option (Option Reply) := s.channels.lookup id

/-- The reply that was sent to one who waits. -/
def reply? (s : State) (id : InvocationId) : Option Reply := (s.channel? id).join

/-- Send a reply to one who waits and has none yet. It is lost on anyone else. -/
def send (s : State) (id : InvocationId) (r : Reply) : Bool × State :=
  if s.channel? id = some none then
    (true, { s with channels := s.channels.map fun c => if c.1 = id then (id, some r) else c })
  else (false, s)

/-- Whoever was pending gets no answer any more. -/
def supersede (s : State) : State × List Event :=
  match s.pending with
  | some old =>
    let (sent, s) := s.send old .closed
    (s, if sent then [.replied old .closed] else [])
  | none => (s, [])

/-- Show a request and make it the pending one, and wait for the reply. -/
def ask (s : State) (request : Request) : State × List Event :=
  let (s, events) := s.supersede
  ({ s with
      channels := s.channels ++ [(request.id, none)]
      pending := some request.id
      shown := some request },
    events ++ [.shown (some request)])

/-- Answer the pending confirmation, provided that it is the one meant. The answer counts as
given if somebody waits for it. -/
def answer (s : State) (id : Option InvocationId) (accepted : Bool) : Bool × State × List Event :=
  match s.pending with
  | some pending =>
    if id.all (· == pending) then
      let r := Reply.ofAnswer accepted
      let (sent, s) := { s with pending := none, shown := none }.send pending r
      (sent, s, .shown none :: if sent then [.replied pending r] else [])
    else (false, s, [])
  | none => (false, s, [])

/-- If an invocation is the pending one, nothing is pending any more. -/
def withdraw (s : State) (id : InvocationId) : State × List Event :=
  if s.pending = some id then ({ s with pending := none, shown := none }, [.shown none])
  else (s, [])

/-- An invocation no longer waits for its confirmation. -/
def leaveWait (s : State) (id : InvocationId) : State × List Event :=
  { s with channels := s.channels.filter (·.1 != id) }.withdraw id

def beginLoading (s : State) (name : String) : State :=
  { s with loading := Fields.put s.loading name ((Fields.get? s.loading name).getD 0 + 1) }

def endLoading (s : State) (name : String) : State :=
  match Fields.get? s.loading name with
  | some n =>
    if n - 1 = 0 then { s with loading := Fields.erase s.loading name }
    else { s with loading := Fields.put s.loading name (n - 1) }
  | none => s

/-- A timer that is due after so many milliseconds. -/
def setTimer (s : State) (ms : Nat) : Timer × State :=
  (⟨s.clock + ms, s.timers⟩, { s with timers := s.timers + 1 })

end State

end ScreenLogic
