import ScreenLogic.Binding
import ScreenLogic.Template

/-!
# Actions

An action names work to be done, with parameters, a confirmation to ask for and what to
do when the work has succeeded or failed. Resolving it against a model fixes the
parameters and the confirmation; the effects stay as they are.
-/

namespace ScreenLogic

/-- How strongly a confirmation is presented. -/
inductive Emphasis where
  | default
  | danger
  deriving DecidableEq

/-- A question to be confirmed. Title and message are templates. -/
structure ConfirmSpec where
  title : String
  message : String
  confirmLabel : Option String
  cancelLabel : Option String
  variant : Option Emphasis
  deriving DecidableEq

/-- What to do after the work: open a page, write into the model, or run another action. -/
inductive Effect where
  | navigate (target : Binding)
  | set (entries : Fields Value)
  | chain (action : String)
  deriving DecidableEq

structure Action where
  name : String
  params : Fields Binding
  confirm : Option ConfirmSpec
  onSuccess : Option Effect
  onError : Option Effect
  deriving DecidableEq

structure ResolvedAction where
  name : String
  params : Fields Value
  confirm : Option ConfirmSpec
  onSuccess : Option Effect
  onError : Option Effect
  deriving DecidableEq

namespace ConfirmSpec

def ofTexts (title message : String) : ConfirmSpec := ⟨title, message, none, none, none⟩

def danger (spec : ConfirmSpec) : ConfirmSpec := { spec with variant := some .danger }

def withLabels (spec : ConfirmSpec) (confirm cancel : String) : ConfirmSpec :=
  { spec with confirmLabel := some confirm, cancelLabel := some cancel }

def fill (model : Value) (spec : ConfirmSpec) : ConfirmSpec :=
  { spec with title := Template.fill model spec.title, message := Template.fill model spec.message }

end ConfirmSpec

namespace Action

/-- An action with nothing but a name. -/
def bare (name : String) : Action := ⟨name, [], none, none, none⟩

def withParam (a : Action) (name : String) (value : Binding) : Action :=
  { a with params := Fields.put a.params name value }

def resolve (model : Value) (a : Action) : ResolvedAction where
  name := a.name
  params := Binding.resolveAll model a.params
  confirm := a.confirm.map (ConfirmSpec.fill model)
  onSuccess := a.onSuccess
  onError := a.onError

end Action

end ScreenLogic
