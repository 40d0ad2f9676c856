import ScreenLogic.Proofs.Model.Write

/-!
# Composed paths

Two paths with a slash between them are one path, which leads along the segments of the first and
then along those of the second. To read along it is to read twice. To write along it is to write
along the second path in what the first one leads to, as long as there is something: the way there
is not changed by the write, whether or not it goes through.

## Main statements

* `Path.segments_append_slash`: the segments of a composed path.
* `Model.read_append`, `Model.read_write_append`: reading and writing along segments in two parts.
* `Model.get_set_of_composed`: the same for paths.
-/

namespace ScreenLogic

namespace Path

theorem pieces_eq_splitOn (cs : List Char) : pieces cs = cs.splitOn '/' := by
  induction cs with
  | nil => rfl
  | cons c cs ih =>
    have hne : cs.splitOn '/' ≠ [] := by simp
    obtain ⟨piece, rest, hpieces⟩ := List.exists_cons_of_ne_nil hne
    simp [pieces, ih, List.splitOn_cons_eq_if_modifyHead, hpieces]

theorem segments_append_slash (p q : String) :
    segments (p ++ "/" ++ q) = segments p ++ segments q := by
  have hslash : (p ++ "/" ++ q).toList = p.toList ++ '/' :: q.toList := by simp
  simp only [segments, pieces_eq_splitOn, hslash, List.splitOn_append_cons_self,
    List.filter_append, List.map_append]

end Path

namespace Model

theorem read_append (v : Value) (p q : List String) :
    read v (p ++ q) = (read v p).bind (read · q) := by
  induction p generalizing v with
  | nil => rfl
  | cons segment p ih =>
    rw [List.cons_append, read, read, Option.bind_assoc]
    simp only [ih]

/-- A write that passes through a value that is there is a write in that value. -/
theorem read_write_append {v c : Value} {p : List String} (value : Value) (q : List String)
    (h : read v p = some c) : read (write value (p ++ q) v) p = some (write value q c) := by
  induction p generalizing v with
  | nil =>
    obtain rfl := Option.some.inj h
    rfl
  | cons segment p ih =>
    obtain ⟨child, hchild, hread⟩ := Option.bind_eq_some_iff.mp h
    rw [List.cons_append, write, read, child?_updateChild_of_child? _ hchild]
    exact ih hread

/-- To read and to write along a composed path is to do so along its parts, one after the other.
Of a path only its segments count. -/
theorem get_set_of_composed (model value : Value) (p q : String) :
    Path.segments (p ++ "/" ++ q) = Path.segments p ++ Path.segments q ∧
    get model (p ++ "/" ++ q) = (get model p).bind (get · q) ∧
    (∀ c, get model p = some c → Path.isRoot q = false →
      get (set model (p ++ "/" ++ q) value) p = some (set c q value)) ∧
    ∀ p', Path.segments p' = Path.segments p →
      get model p' = get model p ∧ set model p' value = set model p value := by
  have hsegments := Path.segments_append_slash p q
  refine ⟨hsegments, ?_, fun c hc hq => ?_, fun p' hp' => ?_⟩
  · simp only [get, hsegments, read_append]
  · have hroot : Path.isRoot (p ++ "/" ++ q) = false := by
      simp_all [Path.isRoot]
    rw [set_eq_write _ _ hroot, set_eq_write _ _ hq, hsegments]
    exact read_write_append value _ hc
  · simp only [get, set, hp', and_self]

/-- Writes below a list, one that fills it up and one that is dropped, and one below a text. -/
theorem get_set_of_composed_of_list :
    let model : Value := .obj [("list", .arr [.int 0]), ("name", .str "Ada")]
    get model "list/" = some (.arr [.int 0]) ∧
      get (set model "list///2" (.bool true)) "list/" =
        some (.arr [.int 0, .null, .bool true]) ∧
      get (set model "list//x/y" (.bool true)) "list/" = some (.arr [.int 0]) ∧
      get (set model "/name/first" (.bool true)) "/name" =
        some (.obj [("first", .bool true)]) := by
  intro model
  have hread : get model "list/" = some (.arr [.int 0]) := by decide
  have hname : get model "/name" = some (.str "Ada") := by decide
  refine ⟨hread, ?_, ?_, ?_⟩
  · exact (get_set_of_composed model (.bool true) "list/" "/2").2.2.1 _ hread (by decide)
  · exact (get_set_of_composed model (.bool true) "list/" "x/y").2.2.1 _ hread (by decide)
  · exact (get_set_of_composed model (.bool true) "/name" "first").2.2.1 _ hname (by decide)

end Model

end ScreenLogic
