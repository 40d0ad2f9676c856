import ScreenLogic.Model.Access
import ScreenLogic.Text.Blank
import ScreenLogic.Value.Judgement

/-!
# Templates

A template is text with holes. A hole is opened by a dollar sign and a brace, is closed
by the first closing brace after that, and has a name of at least one character. Holes
are found from left to right, and what fills them is not searched again.
-/

namespace ScreenLogic.Template

inductive Piece where
  | char (c : Char)
  | hole (name : List Char)
  deriving DecidableEq

/-- The name of a hole that begins here, and what follows it. -/
def hole? : List Char → Option (List Char × List Char)
  | '$' :: '\x7b' :: cs =>
    match cs.takeWhile (· != '\x7d'), cs.dropWhile (· != '\x7d') with
    | c :: name, _ :: rest => some (c :: name, rest)
    | _, _ => none
  | _ => none

theorem length_dropWhile_le (p : Char → Bool) (cs : List Char) :
    (cs.dropWhile p).length ≤ cs.length :=
  (List.dropWhile_sublist p).length_le

theorem length_lt_of_hole? {cs name rest : List Char} (h : hole? cs = some (name, rest)) :
    rest.length < cs.length := by
  unfold hole? at h
  split at h
  · rename_i cs
    split at h
    · rename_i c name' x rest' _ hd
      have := length_dropWhile_le (· != '\x7d') cs
      simp only [Option.some.injEq, Prod.mk.injEq] at h
      rw [hd, h.2] at this
      simp only [List.length_cons] at this ⊢
      omega
    · simp at h
  · simp at h

def pieces (cs : List Char) : List Piece :=
  match _h : hole? cs with
  | some (name, rest) => .hole name :: pieces rest
  | none =>
    match cs with
    | [] => []
    | c :: cs => .char c :: pieces cs
termination_by cs.length
decreasing_by
  · exact length_lt_of_hole? _h
  · simp

/-- The path that a hole is filled from. -/
def holePath (name : List Char) : String := String.ofList (Text.trim name)

def Piece.render (model : Value) : Piece → List Char
  | .char c => [c]
  | .hole name => (Value.display (Model.get model (holePath name))).toList

/-- Fill every hole with the display of what the model holds at its path. -/
def fill (model : Value) (template : String) : String :=
  String.ofList ((pieces template.toList).flatMap (Piece.render model))

end ScreenLogic.Template
