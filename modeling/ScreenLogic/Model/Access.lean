import ScreenLogic.Path
import ScreenLogic.Value.Basic

/-!
# Reading and writing by path

Reading never fails: what a path does not reach is absent. Writing creates the
containers that are missing on the way, as objects, and replaces a scalar that
stands in the way. A list is addressed by index and padded with nulls up to the
index, but only so far; a write that does not address a slot of a list is dropped.

## Main definitions

* `Model.get` and `Model.set`: by path, where the root is read but never written.
* `Model.read` and `Model.write`: the same by segments.
-/

namespace ScreenLogic.Model

/-- The most nulls that one write appends to a list. -/
def maxPadding : Nat := 1024

def child? : Value → String → Option Value
  | .obj fields, segment => Fields.get? fields segment
  | .arr items, segment => (Path.index? segment).bind (items[·]?)
  | _, _ => none

def read : Value → List String → Option Value
  | v, [] => some v
  | v, segment :: rest => (child? v segment).bind (read · rest)

def get (model : Value) (path : String) : Option Value := read model (Path.segments path)

/-- An object or list as it is, anything else as an empty object. -/
def ensureContainer : Value → Value
  | .obj fields => .obj fields
  | .arr items => .arr items
  | _ => .obj []

/-- Change the slot at an index, after padding the list with nulls up to it. An index
too far past the end leaves the list as it is. -/
def updateSlot (items : List Value) (i : Nat) (f : Value → Value) : List Value :=
  if i < items.length then items.modify i f
  else if i - items.length < maxPadding then
    items ++ List.replicate (i - items.length) .null ++ [f .null]
  else items

/-- Change the child under a segment; a child that is missing is null before the change. -/
def updateChild (v : Value) (segment : String) (f : Value → Value) : Value :=
  match ensureContainer v with
  | .obj fields => .obj (Fields.put fields segment (f ((Fields.get? fields segment).getD .null)))
  | .arr items =>
    match Path.index? segment with
    | some i => .arr (updateSlot items i f)
    | none => .arr items
  | v => v

/-- Write at the end of a list of segments. -/
def write (value : Value) : List String → Value → Value
  | [], _ => value
  | segment :: rest, v => updateChild v segment (write value rest)

def set (model : Value) (path : String) (value : Value) : Value :=
  match Path.segments path with
  | [] => model
  | segments => write value segments model

/-- Writes in order. -/
def setAll (model : Value) (writes : List (String × Value)) : Value :=
  writes.foldl (fun model w => set model w.1 w.2) model

end ScreenLogic.Model
