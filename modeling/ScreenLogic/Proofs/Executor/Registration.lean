import Mathlib.Data.List.Induction
import ScreenLogic.Executor.Program
import ScreenLogic.Proofs.Fields

/-!
# Registries

A registry is what a number of registrations have made of the empty one. Of each name the
last handler and the last definition count, and a definition is found under its own name.

## Main statements

* `Registry.handler?_ofRegistrations`, `Registry.definition_ofRegistrations`: what is found
  in a registry is what was registered last.
-/

namespace ScreenLogic

/-- A handler is registered under a name, or an action is defined under its own. -/
inductive Registration where
  | register (name : String) (handler : Handler)
  | define (action : Action)

namespace Registry

def add (r : Registry) : Registration → Registry
  | .register name handler => r.register name handler
  | .define action => r.define action

def ofRegistrations (registrations : List Registration) : Registry := registrations.foldl add empty

end Registry

namespace Registration

def handler? (name : String) : Registration → Option Handler
  | .register other handler => if other = name then some handler else none
  | .define _ => none

def action? (name : String) : Registration → Option Action
  | .register _ _ => none
  | .define action => if action.name = name then some action else none

/-- The handler that was registered last under a name. -/
def lastHandler? (registrations : List Registration) (name : String) : Option Handler :=
  registrations.reverse.findSome? (handler? name)

/-- The action that was defined last under a name, or a bare one of that name. -/
def lastAction (registrations : List Registration) (name : String) : Action :=
  (registrations.reverse.findSome? (action? name)).getD (.bare name)

theorem lastAction_name (registrations : List Registration) (name : String) :
    (lastAction registrations name).name = name := by
  unfold lastAction
  cases h : registrations.reverse.findSome? (action? name) with
  | none => rfl
  | some action =>
    obtain ⟨registration, -, hfound⟩ := List.exists_of_findSome?_eq_some h
    cases registration with
    | register => cases hfound
    | define action' =>
      simp only [action?] at hfound
      split at hfound
      · rename_i hname
        obtain rfl := Option.some.inj hfound
        exact hname
      · cases hfound

end Registration

namespace Registry

open Registration

theorem ofRegistrations_concat (registrations : List Registration) (last : Registration) :
    ofRegistrations (registrations ++ [last]) = (ofRegistrations registrations).add last :=
  List.foldl_append

theorem handler?_ofRegistrations (registrations : List Registration) (name : String) :
    (ofRegistrations registrations).handler? name = lastHandler? registrations name := by
  induction registrations using List.reverseRecOn with
  | nil => rfl
  | append_singleton registrations last ih =>
    rw [ofRegistrations_concat, lastHandler?, List.reverse_append, List.reverse_singleton,
      List.singleton_append, List.findSome?_cons]
    cases last with
    | register other handler =>
      simp only [add, register, Registry.handler?, Registration.handler?, Fields.get?_put]
      split
      · rfl
      · exact ih
    | define action => exact ih

theorem definitions_ofRegistrations (registrations : List Registration) (name : String) :
    Fields.get? (ofRegistrations registrations).definitions name =
      registrations.reverse.findSome? (action? name) := by
  induction registrations using List.reverseRecOn with
  | nil => rfl
  | append_singleton registrations last ih =>
    rw [ofRegistrations_concat, List.reverse_append, List.reverse_singleton,
      List.singleton_append, List.findSome?_cons]
    cases last with
    | register => exact ih
    | define action =>
      simp only [add, define, action?, Fields.get?_put]
      split
      · rfl
      · exact ih

theorem definition_ofRegistrations (registrations : List Registration) (name : String) :
    (ofRegistrations registrations).definition name = lastAction registrations name := by
  rw [definition, definitions_ofRegistrations]
  rfl

end Registry

end ScreenLogic
