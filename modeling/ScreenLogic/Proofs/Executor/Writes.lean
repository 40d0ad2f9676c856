import ScreenLogic.Proofs.Executor.Chain
import ScreenLogic.Proofs.Executor.Channels
import ScreenLogic.Proofs.Model.Independence

/-!
# Effects that write

An invocation that settles changes the model by the writes of its `set` effect and in no other
way. If the writes of several invocations are compatible with each other, it does not matter in
which order the invocations settle, nor how their writes come in between each other.

## Main definitions

* `Link.writes`: what the effect of an invocation writes.
* `Interleaving`: several lists taken in turns.

## Main statements

* `Task.model_settleAll`: invocations that settle one after the other write one after the other.
* `Model.independent_writes_commute`: compatible writes have one result in any order.
-/

namespace ScreenLogic

/-- What the effect of an invocation that has settled writes, in order. -/
def Link.writes (ex : Executor) (link : Link) : Fields Value :=
  match link.effect with
  | some (.set entries) =>
    Fields.mapValues (Task.substitute ex.config.errorMessageSentinel link.message) entries
  | some (.navigate _) | some (.chain _) | none => []

namespace Task

theorem model_apply (ex : Executor) (s : State) (link : Link) (stack : List Frame) :
    (apply ex s link.inv link.effect link.message link.outcome stack).state.model =
      Model.setAll s.model (link.writes ex) := by
  unfold Link.writes
  cases link.effect with
  | none =>
    dsimp only [apply]
    rw [State.endLoading_eq]
    rfl
  | some effect =>
    cases effect with
    | navigate target =>
      dsimp only [apply]
      split <;> rw [State.endLoading_eq] <;> rfl
    | set entries =>
      dsimp only [apply]
      rw [State.endLoading_eq]
    | chain name => rfl

/-- An invocation that settles changes the model by the writes of its effect. -/
theorem model_settle (ex : Executor) (s : State) (link : Link) (stack : List Frame) :
    (settle ex s link.inv link.result stack).state.model =
      Model.setAll s.model (link.writes ex) := by
  rw [← model_apply ex s link stack]
  obtain ⟨inv, result⟩ := link
  cases result <;> rfl

/-- The state after several invocations have settled, one after the other. Each stands in the
frames that wait for it. -/
def settleAll (ex : Executor) (s : State) (links : List (Link × List Frame)) : State :=
  links.foldl (fun s l => (settle ex s l.1.inv l.1.result l.2).state) s

theorem model_settleAll (ex : Executor) (s : State) (links : List (Link × List Frame)) :
    (settleAll ex s links).model =
      Model.setAll s.model (links.flatMap fun l => l.1.writes ex) := by
  induction links generalizing s with
  | nil => rfl
  | cons l links ih =>
    have hfirst := model_settle ex s l.1 l.2
    rw [settleAll, List.foldl_cons, ← settleAll, ih, hfirst, List.flatMap_cons]
    simp only [Model.setAll, List.foldl_append]

end Task

/-- A list that is made up of several lists, taken in turns of any kind. Each of them keeps its
order. -/
inductive Interleaving {α : Type} : List (List α) → List α → Prop where
  | done {lists : List (List α)} : (∀ l ∈ lists, l = []) → Interleaving lists []
  | next {former later : List (List α)} {a : α} {l rest : List α} :
      Interleaving (former ++ l :: later) rest →
      Interleaving (former ++ (a :: l) :: later) (a :: rest)

theorem Interleaving.perm {α : Type} {lists : List (List α)} {order : List α}
    (h : Interleaving lists order) : order.Perm lists.flatten := by
  induction h with
  | done hempty => rw [List.flatten_eq_nil_iff.mpr hempty]
  | @next former later a l rest _ ih =>
    rw [List.flatten_append, List.flatten_cons] at ih ⊢
    exact (ih.cons a).trans List.perm_middle.symm

/-- Writes that can each be made, at places that are independent of each other, have one result
in any order, and each place then holds its own value. So it does not matter in which order the
invocations settle that make these writes, nor how their writes come in between each other. -/
theorem Model.independent_writes_commute {model : Value} {writes : List (String × Value)}
    (h : Compatible model writes) :
    (∀ order : List (String × Value), order.Perm writes →
      setAll model order = setAll model writes) ∧
    (∀ w ∈ writes, get (setAll model writes) w.1 = some w.2) ∧
    (∀ (ex : Executor) (s : State) (links : List (Link × List Frame)), s.model = model →
      (links.flatMap fun l => l.1.writes ex).Perm writes →
      (Task.settleAll ex s links).model = setAll model writes) ∧
    (∀ (ex : Executor) (links : List Link) (order : List (String × Value)),
      (links.flatMap (Link.writes ex)).Perm writes →
      Interleaving (links.map (Link.writes ex)) order →
      setAll model order = setAll model writes) := by
  refine ⟨fun order hperm => h.setAll_perm hperm, fun w hw => h.get_setAll hw, ?_, ?_⟩
  · rintro ex s links rfl hperm
    rw [Task.model_settleAll, h.setAll_perm hperm]
  · intro ex links order hperm hinterleaving
    have hflat := hinterleaving.perm
    rw [← List.flatMap_def] at hflat
    exact h.setAll_perm (hflat.trans hperm)

/-- Two writes past the end of one list, of which one also creates an object, and two below a
text that they both replace, made by the effect of an invocation or in the reverse order. -/
theorem Model.independent_writes_commute_of_reverse :
    let model : Value := .obj [("list", .arr [.int 0]), ("name", .str "none")]
    let writes : List (String × Value) :=
      [("/list/2/a", .str "x"), ("/list/4", .bool true), ("/name/0", .int 1), ("/name/00", .int 2)]
    let action : Action := { Action.bare "save" with onSuccess := some (.set writes) }
    let link : Link := ⟨⟨0, action.resolve model, 0, fun _ => .finish⟩, .ok ()⟩
    Compatible model writes ∧ setAll model writes.reverse = setAll model writes ∧
      get (setAll model writes) "/list/2/a" = some (.str "x") ∧
      (Task.settleAll ⟨.empty, .initial⟩ (.init model) [(link, [])]).model =
        setAll model writes.reverse := by
  intro model writes action link
  have h : Compatible model writes := by decide
  obtain ⟨horder, hread, hsettle, -⟩ := independent_writes_commute h
  have hreverse := horder writes.reverse (List.reverse_perm writes)
  refine ⟨h, hreverse, hread ("/list/2/a", .str "x") (List.mem_cons_self ..), ?_⟩
  rw [hreverse]
  exact hsettle ⟨.empty, .initial⟩ (.init model) [(link, [])] rfl (.refl writes)

end ScreenLogic
