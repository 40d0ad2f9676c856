import ScreenLogic.Model.Access

/-!
# Bindings

A binding stands for a value: a literal for itself, a reference for what the model
holds at its path. On the wire a reference is an object with the one entry `path`.
-/

namespace ScreenLogic

inductive Binding where
  | literal (value : Value)
  | reference (path : String)
  deriving DecidableEq

namespace Binding

instance : Inhabited Binding := ⟨.literal .null⟩

def ofValue : Value → Binding
  | .obj [("path", .str path)] => .reference path
  | v => .literal v

def toValue : Binding → Value
  | .literal v => v
  | .reference path => .obj [("path", .str path)]

def resolve (model : Value) : Binding → Option Value
  | .literal v => some v
  | .reference path => Model.get model path

/-- Resolve named bindings; those that refer to nothing are left out. -/
def resolveAll (model : Value) (bindings : Fields Binding) : Fields Value :=
  Fields.filterMapValues (resolve model) bindings

end Binding

end ScreenLogic
