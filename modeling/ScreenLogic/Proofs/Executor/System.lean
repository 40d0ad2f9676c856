import Mathlib.Data.List.Induction
import ScreenLogic.Executor.Task

/-!
# All that may happen on an executor

A system is the state that invocations share together with the tasks on it. Any task may
move at any time, be dropped wherever it stands, or have its handler go on in a way that
nobody foresaw; anybody may answer the pending confirmation; time passes and the model
changes. A run is a list of such acts, in any order. Actions that a handler runs side by
side are tasks of their own.

## Main definitions

* `System.perform`: what one act does.
* `System.steps`, `System.run`: the steps of a run and the system after it.
* `System.run_induction`: what each step of a run preserves holds after it.
-/

namespace ScreenLogic

/-- The shared state, and the tasks that were started and not dropped since. -/
structure System where
  state : State
  tasks : List Task

/-- Tasks are named by their places; an act on a task that cannot take part does nothing. -/
inductive Act where
  | start (action : Action)
  /-- The pending confirmation is answered from outside, or only that of an invocation. -/
  | answer (id : Option InvocationId) (accepted : Bool)
  | move (task : Nat)
  /-- What a parked handler waited for has happened, and it goes on. -/
  | release (task : Nat) (program : Program)
  /-- A handler gives up an action that it runs, with all inside, and goes on. -/
  | interrupt (task frames : Nat) (program : Program)
  | drop (task : Nat)
  | elapse (ms : Nat)
  /-- The model is changed from outside. -/
  | change (model : Value)

namespace Task

/-- The answer that a handler is about to give. -/
def answer? (t : Task) : Option (Option InvocationId × Bool) :=
  match t.focus with
  | .handling _ _ (.running (.answer id accepted _)) => some (id, accepted)
  | _ => none

/-- A parked handler goes on. -/
def unpark? (s : State) (t : Task) (program : Program) : Option Move :=
  match t.focus with
  | .handling inv deadline (.parked _) =>
    some ⟨s, ⟨.handling inv deadline (.running program), t.stack⟩, []⟩
  | _ => none

/-- The handler of a frame goes on, and what is inside of the frame is dropped. -/
def interrupt? (s : State) (t : Task) (frames : Nat) (program : Program) : Option Move :=
  match t.stack.drop frames with
  | .nested inv deadline _ :: rest =>
    let (s, events) := abandon s ⟨t.focus, t.stack.take frames⟩
    some ⟨s, ⟨.handling inv deadline (.running program), rest⟩, events⟩
  | _ => none

end Task

namespace System

def init (model : Value) : System := ⟨.init model, []⟩

/-- A task gives way to where it has moved, if it could. -/
def follow (y : System) (task : Nat) : Option Move → System × List Event
  | some move => (⟨move.state, y.tasks.set task move.task⟩, move.events)
  | none => (y, [])

def perform (ex : Executor) (y : System) : Act → System × List Event
  | .start action => ({ y with tasks := y.tasks ++ [Task.ofAction action] }, [])
  | .answer id accepted =>
    let (_, s, events) := y.state.answer id accepted
    ({ y with state := s }, events)
  | .move i => y.follow i ((y.tasks[i]?).bind (Task.step ex y.state))
  | .release i program => y.follow i ((y.tasks[i]?).bind (Task.unpark? y.state · program))
  | .interrupt i frames program =>
    y.follow i ((y.tasks[i]?).bind (Task.interrupt? y.state · frames program))
  | .drop i =>
    match y.tasks[i]? with
    | some t =>
      let (s, events) := t.abandon y.state
      (⟨s, y.tasks.eraseIdx i⟩, events)
    | none => (y, [])
  | .elapse ms => ({ y with state := { y.state with clock := y.state.clock + ms } }, [])
  | .change model => ({ y with state := { y.state with model := model } }, [])

end System

/-- One step of a run: what was done, what it led to and what could be seen of it. -/
structure Step where
  before : System
  act : Act
  after : System
  events : List Event

/-- What is answered in a step, be it from outside or by a handler: whose confirmation, if not
that of anyone, and how. -/
def Step.answer? (st : Step) : Option (Option InvocationId × Bool) :=
  match st.act with
  | .answer id accepted => some (id, accepted)
  | .move i => (st.before.tasks[i]?).bind Task.answer?
  | _ => none

namespace System

variable (ex : Executor)

def step (y : System) (a : Act) : Step := ⟨y, a, (y.perform ex a).1, (y.perform ex a).2⟩

/-- The steps of a run, in order. -/
def steps (y : System) : List Act → List Step
  | [] => []
  | a :: rest => y.step ex a :: steps (y.step ex a).after rest

/-- The system after a run. -/
def run (y : System) (acts : List Act) : System := acts.foldl (fun y a => (y.step ex a).after) y

theorem run_append (y : System) (acts more : List Act) :
    y.run ex (acts ++ more) = (y.run ex acts).run ex more := List.foldl_append

theorem steps_append (y : System) (acts more : List Act) :
    y.steps ex (acts ++ more) = y.steps ex acts ++ (y.run ex acts).steps ex more := by
  induction acts generalizing y with
  | nil => rfl
  | cons a rest ih =>
    simp only [List.cons_append, steps, ih]
    rfl

/-- What holds at first and is preserved by each step holds after every run. -/
theorem run_induction {motive : List Step → System → Prop} {y : System} (init : motive [] y)
    (step : ∀ steps y a, motive steps y → motive (steps ++ [y.step ex a]) (y.step ex a).after)
    (acts : List Act) : motive (y.steps ex acts) (y.run ex acts) := by
  induction acts using List.reverseRecOn with
  | nil => exact init
  | append_singleton acts a ih =>
    rw [steps_append, run_append]
    exact step _ _ a ih

/-- What leads up to a step is a run itself. -/
theorem exists_run_of_steps_eq_append {y : System} {acts : List Act} {former : List Step}
    {st : Step} {later : List Step} (h : y.steps ex acts = former ++ st :: later) :
    ∃ before a after, acts = before ++ a :: after ∧ former = y.steps ex before ∧
      st = (y.run ex before).step ex a ∧ later = st.after.steps ex after := by
  induction former generalizing y acts with
  | nil =>
    cases acts with
    | nil => simp [steps] at h
    | cons a rest =>
      obtain ⟨rfl, rfl⟩ := List.cons.inj h
      exact ⟨[], a, rest, rfl, rfl, rfl, rfl⟩
  | cons first former ih =>
    cases acts with
    | nil => simp [steps] at h
    | cons a rest =>
      obtain ⟨rfl, hrest⟩ := List.cons.inj h
      obtain ⟨before, b, after, rfl, rfl, hst, hlater⟩ := ih hrest
      exact ⟨a :: before, b, after, rfl, rfl, hst, hlater⟩

theorem exists_run_of_mem_steps {y : System} {acts : List Act} {st : Step}
    (h : st ∈ y.steps ex acts) :
    ∃ before a after, st = (y.run ex before).step ex a ∧
      y.steps ex acts = y.steps ex before ++ st :: st.after.steps ex after := by
  obtain ⟨former, later, hsteps⟩ := List.append_of_mem h
  obtain ⟨before, a, after, -, rfl, hst, rfl⟩ := exists_run_of_steps_eq_append ex hsteps
  exact ⟨before, a, after, hst, hsteps⟩

end System

end ScreenLogic
