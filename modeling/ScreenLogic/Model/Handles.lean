import ScreenLogic.Model.Access

/-!
# Shared models

A handle gives access to a model that it may share with other handles: a clone shares
its model, a new handle has one of its own. A host is a narrower view of a handle, for
those who only read, write and take snapshots.
-/

namespace ScreenLogic

/-- The models in existence and, for each handle, which of them it stands for. -/
structure Handles where
  models : List Value
  owners : List Nat
  deriving DecidableEq

namespace Handles

/-- One handle to a model of its own. -/
def init (model : Value) : Handles := ⟨[model], [0]⟩

def model? (h : Handles) (handle : Nat) : Option Value := do h.models[← h.owners[handle]?]?

/-- Change the model behind a handle. -/
def update (h : Handles) (handle : Nat) (f : Value → Value) : Handles :=
  match h.owners[handle]? with
  | some i => { h with models := h.models.modify i f }
  | none => h

/-- A further handle, numbered next. -/
def clone? (h : Handles) (handle : Nat) : Option (Nat × Handles) := do
  let i ← h.owners[handle]?
  return (h.owners.length, { h with owners := h.owners ++ [i] })

def new (h : Handles) (model : Value) : Nat × Handles :=
  (h.owners.length, { models := h.models ++ [model], owners := h.owners ++ [h.models.length] })

/-- The view of a model that a host has. -/
structure Host where
  snapshot : Handles → Option Value
  read : Handles → String → Option Value
  write : Handles → String → Value → Handles

def host (handle : Nat) : Host where
  snapshot h := h.model? handle
  read h path := (h.model? handle).bind (Model.get · path)
  write h path value := h.update handle (Model.set · path value)

inductive Step where
  | clone (handle : Nat)
  | new (model : Value)
  | get (handle : Nat) (path : String)
  | set (handle : Nat) (path : String) (value : Value)
  | replace (handle : Nat) (model : Value)
  | snapshot (handle : Nat)
  | hostGet (handle : Nat) (path : String)
  | hostSet (handle : Nat) (path : String) (value : Value)
  | hostSnapshot (handle : Nat)
  deriving DecidableEq

inductive Answer where
  | handle (handle : Nat)
  | found (value : Option Value)
  | model (model : Value)
  deriving DecidableEq

/-- One step. A write answers with the model after it; a step on a handle that was
never given out has no answer and no effect. -/
def step (h : Handles) : Step → Option Answer × Handles
  | .clone handle =>
    match h.clone? handle with
    | some (n, h) => (some (.handle n), h)
    | none => (none, h)
  | .new model => let (n, h) := h.new model; (some (.handle n), h)
  | .get handle path => ((h.model? handle).map fun m => .found (Model.get m path), h)
  | .set handle path value =>
    let h := h.update handle (Model.set · path value)
    ((h.model? handle).map .model, h)
  | .replace handle model =>
    let h := h.update handle fun _ => model
    ((h.model? handle).map .model, h)
  | .snapshot handle => ((h.model? handle).map .model, h)
  | .hostGet handle path =>
    ((h.model? handle).map fun _ => .found ((host handle).read h path), h)
  | .hostSet handle path value =>
    let h := (host handle).write h path value
    (((host handle).snapshot h).map .model, h)
  | .hostSnapshot handle => (((host handle).snapshot h).map .model, h)

/-- The answers of a run, in order. -/
def run (h : Handles) : List Step → List (Option Answer)
  | [] => []
  | s :: rest => (h.step s).1 :: run (h.step s).2 rest

end Handles

end ScreenLogic
