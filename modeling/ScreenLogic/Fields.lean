/-!
# Named entries

Entries under distinct names, in increasing order of their names. A name is found
at its first entry, and writing keeps the order.
-/

namespace ScreenLogic

universe u v

abbrev Fields (α : Type u) := List (String × α)

namespace Fields

variable {α : Type u} {β : Type v}

def get? : Fields α → String → Option α
  | [], _ => none
  | (k, v) :: rest, key => if k = key then some v else get? rest key

def has (fields : Fields α) (key : String) : Bool := (get? fields key).isSome

/-- Overwrite the entry of a name that is there. -/
def replace : Fields α → String → α → Fields α
  | [], _, _ => []
  | (k, v) :: rest, key, value =>
    if k = key then (key, value) :: rest else (k, v) :: replace rest key value

/-- Add an entry before the first larger name. -/
def insert : Fields α → String → α → Fields α
  | [], key, value => [(key, value)]
  | (k, v) :: rest, key, value =>
    if key < k then (key, value) :: (k, v) :: rest else (k, v) :: insert rest key value

def put (fields : Fields α) (key : String) (value : α) : Fields α :=
  if has fields key then replace fields key value else insert fields key value

def erase (fields : Fields α) (key : String) : Fields α := fields.filter (·.1 != key)

def keys (fields : Fields α) : List String := fields.map (·.1)

/-- Later entries win. -/
def ofList (entries : List (String × α)) : Fields α :=
  entries.foldl (fun fields entry => put fields entry.1 entry.2) []

def mapValues (f : α → β) (fields : Fields α) : Fields β :=
  fields.map fun entry => (entry.1, f entry.2)

/-- Keep the entries for which `f` has a value. -/
def filterMapValues (f : α → Option β) (fields : Fields α) : Fields β :=
  fields.filterMap fun entry => (f entry.2).map (entry.1, ·)

def WellFormed (fields : Fields α) : Prop := fields.Pairwise (·.1 < ·.1)

end Fields

end ScreenLogic
