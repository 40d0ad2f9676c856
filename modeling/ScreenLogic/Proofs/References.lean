import Mathlib.Data.List.Basic
import ScreenLogic.Action.Basic
import ScreenLogic.Validation.Engine
import ScreenLogic.Visibility.Condition

/-!
# What evaluation reads

Expressions, conditions, rules and actions name the paths that they read. Two models that hold
the same at these paths cannot be told apart by evaluating them, whatever else they hold: not by
a result, nor by the calls of registered functions that a rule leads to, nor by the texts of a
confirmation.

## Main definitions

* `Model.AgreeAt`: models that hold the same at some paths.
* `Expr.references`, `Condition.references`, `Rule.references`, `Action.references`: the paths
  that are named.

## Main statements

* `Model.agree_of_references`: nothing else is read.
-/

namespace ScreenLogic

/-- Two models hold the same at each of some paths. -/
def Model.AgreeAt (paths : List String) (model other : Value) : Prop :=
  ∀ path ∈ paths, get model path = get other path

namespace Model.AgreeAt

variable {model other : Value} {paths more : List String}

theorem append_iff :
    AgreeAt (paths ++ more) model other ↔ AgreeAt paths model other ∧ AgreeAt more model other :=
  List.forall_mem_append

theorem of_flatMap {α : Type} {l : List α} {f : α → List String} {a : α}
    (h : AgreeAt (l.flatMap f) model other) (ha : a ∈ l) : AgreeAt (f a) model other :=
  fun path hpath => h path (List.mem_flatMap.mpr ⟨a, ha, hpath⟩)

instance : Decidable (AgreeAt paths model other) :=
  inferInstanceAs (Decidable (∀ path ∈ paths, _))

end Model.AgreeAt

/-! ## Bindings -/

namespace Binding

/-- The path of a reference. -/
def path? : Binding → Option String
  | .literal _ => none
  | .reference path => some path

/-- The paths of the references among some bindings. -/
def references (bindings : List Binding) : List String := bindings.filterMap path?

variable {model other : Value}

theorem resolve_congr {bindings : List Binding}
    (h : Model.AgreeAt (references bindings) model other) :
    ∀ b ∈ bindings, b.resolve model = b.resolve other := by
  intro b hb
  cases b with
  | literal v => rfl
  | reference path => exact h path (List.mem_filterMap.mpr ⟨_, hb, rfl⟩)

theorem resolveAll_congr {bindings : Fields Binding}
    (h : Model.AgreeAt (references (bindings.map (·.2))) model other) :
    resolveAll model bindings = resolveAll other bindings := by
  apply List.filterMap_congr
  intro entry hentry
  rw [resolve_congr h entry.2 (List.mem_map_of_mem hentry)]

end Binding

/-! ## Expressions and conditions -/

namespace Expr

/-- The paths that an expression names. -/
def references (e : Expr) : List String := Binding.references e.leaves

variable {model other : Value}

mutual

theorem eval_congr : {e : Expr} → (∀ b ∈ leaves e, b.resolve model = b.resolve other) →
    eval model e = eval other e
  | .all _, h => evalAll_congr h
  | .any _, h => evalAny_congr h
  | .not e, h => congrArg (!·) (@eval_congr e h)
  | .compare op l r, h => by
    obtain ⟨hl, hr⟩ := List.forall_mem_append.mp h
    rw [eval, eval, evalOperand_congr hl, evalOperand_congr hr]
  | .test b, h => congrArg Value.isTruthy (h b (List.mem_singleton_self b))

theorem evalAll_congr : {es : List Expr} →
    (∀ b ∈ itemLeaves es, b.resolve model = b.resolve other) → evalAll model es = evalAll other es
  | [], _ => rfl
  | e :: es, h => by
    obtain ⟨he, hes⟩ := List.forall_mem_append.mp h
    rw [evalAll, evalAll, eval_congr he, evalAll_congr hes]

theorem evalAny_congr : {es : List Expr} →
    (∀ b ∈ itemLeaves es, b.resolve model = b.resolve other) → evalAny model es = evalAny other es
  | [], _ => rfl
  | e :: es, h => by
    obtain ⟨he, hes⟩ := List.forall_mem_append.mp h
    rw [evalAny, evalAny, eval_congr he, evalAny_congr hes]

theorem evalOperand_congr : {o : Operand} →
    (∀ b ∈ operandLeaves o, b.resolve model = b.resolve other) →
    evalOperand model o = evalOperand other o
  | .value b, h => h b (List.mem_singleton_self b)
  | .expr e, h => congrArg (fun b => some (Value.bool b)) (@eval_congr e h)

end

theorem eval_congr_of_agreeAt {e : Expr} (h : Model.AgreeAt e.references model other) :
    e.eval model = e.eval other :=
  eval_congr (Binding.resolve_congr h)

end Expr

/-- The paths that an entry names. What the entry asks of the user is not in the model. -/
def ConditionEntry.references : ConditionEntry → List String
  | .auth _ => []
  | .expr e => e.references

/-- The paths that a condition names. -/
def Condition.references (c : Condition) : List String :=
  c.entries.flatMap ConditionEntry.references

section Conditions

variable {model other : Value} (auth : Option AuthContext)

theorem ConditionEntry.eval_congr {entry : ConditionEntry}
    (h : Model.AgreeAt entry.references model other) :
    entry.eval model auth = entry.eval other auth := by
  cases entry with
  | auth condition => rfl
  | expr e => exact Expr.eval_congr_of_agreeAt h

theorem Condition.eval_congr {c : Condition} (h : Model.AgreeAt c.references model other) :
    c.eval model auth = c.eval other auth := by
  have hentry : ∀ entry ∈ c.entries, entry.eval model auth = entry.eval other auth :=
    fun _ hentry => ConditionEntry.eval_congr auth (h.of_flatMap hentry)
  have hall := congrArg (List.all · id) (List.map_congr_left hentry)
  have hany := congrArg (List.any · id) (List.map_congr_left hentry)
  simp only [List.all_map, List.any_map, Function.id_comp] at hall hany
  unfold Condition.eval
  cases c.logic with
  | all => exact hall
  | any => exact hany

end Conditions

/-! ## Rules -/

/-- The paths that the arguments of a check name. -/
def Check.references (check : Check) : List String :=
  Binding.references (check.args.map (·.2))

/-- The paths that a rule names, where it asks whether it is enabled and in its checks. -/
def Rule.references (rule : Rule) : List String :=
  rule.enabled.toList.flatMap Expr.references ++ rule.checks.flatMap Check.references

namespace Engine

variable {engine : Engine} {value : Option Value} {model other : Value}

/-- A check sees the model through its arguments. -/
theorem runCheck_congr {check : Check} (h : Model.AgreeAt check.references model other) :
    engine.runCheck check value model = engine.runCheck check value other := by
  unfold runCheck verdict
  rw [Binding.resolveAll_congr h]

theorem runChecks_congr {checks : List Check}
    (h : Model.AgreeAt (checks.flatMap Check.references) model other) :
    engine.runChecks value model checks = engine.runChecks value other checks := by
  induction checks with
  | nil => rfl
  | cons check rest ih =>
    obtain ⟨hcheck, hrest⟩ := Model.AgreeAt.append_iff.mp h
    rw [runChecks, runChecks, runCheck_congr hcheck, ih hrest]

theorem run_congr {rule : Rule} (h : Model.AgreeAt rule.references model other) :
    engine.run rule value model = engine.run rule value other := by
  obtain ⟨henabled, hchecks⟩ := Model.AgreeAt.append_iff.mp h
  have hgate : rule.enabled.all (Expr.eval model) = rule.enabled.all (Expr.eval other) := by
    cases he : rule.enabled with
    | none => rfl
    | some e =>
      rw [he] at henabled
      exact Expr.eval_congr_of_agreeAt (henabled.of_flatMap (Option.mem_toList.mpr rfl))
  rw [run, run, hgate, runChecks_congr hchecks]

end Engine

/-! ## Actions -/

namespace Template

/-- The path of a hole. -/
def Piece.path? : Piece → Option String
  | .char _ => none
  | .hole name => some (holePath name)

/-- The paths that the holes of a template name, without the blanks around them. -/
def references (template : String) : List String :=
  (pieces template.toList).filterMap Piece.path?

variable {model other : Value}

theorem fill_congr {template : String} (h : Model.AgreeAt (references template) model other) :
    fill model template = fill other template := by
  refine congrArg String.ofList (List.flatMap_congr fun piece hpiece => ?_)
  cases piece with
  | char c => rfl
  | hole name =>
    have hname := h (holePath name) (List.mem_filterMap.mpr ⟨_, hpiece, rfl⟩)
    rw [Piece.render, Piece.render, hname]

end Template

/-- The paths that the texts of a question name. -/
def ConfirmSpec.references (spec : ConfirmSpec) : List String :=
  Template.references spec.title ++ Template.references spec.message

/-- The paths that an action names, for its parameters and for its confirmation. -/
def Action.references (a : Action) : List String :=
  Binding.references (a.params.map (·.2)) ++ a.confirm.toList.flatMap ConfirmSpec.references

section Actions

variable {model other : Value}

theorem ConfirmSpec.fill_congr {spec : ConfirmSpec}
    (h : Model.AgreeAt spec.references model other) : spec.fill model = spec.fill other := by
  obtain ⟨htitle, hmessage⟩ := Model.AgreeAt.append_iff.mp h
  rw [ConfirmSpec.fill, ConfirmSpec.fill, Template.fill_congr htitle, Template.fill_congr hmessage]

theorem Action.resolve_congr {a : Action} (h : Model.AgreeAt a.references model other) :
    a.resolve model = a.resolve other := by
  obtain ⟨hparams, hconfirm⟩ := Model.AgreeAt.append_iff.mp h
  have hquestion :
      a.confirm.map (ConfirmSpec.fill model) = a.confirm.map (ConfirmSpec.fill other) := by
    refine Option.map_congr fun spec hspec => ConfirmSpec.fill_congr ?_
    exact hconfirm.of_flatMap (Option.mem_toList.mpr hspec)
  rw [Action.resolve, Action.resolve, Binding.resolveAll_congr hparams, hquestion]

end Actions

/-! ## All that is read -/

/-- Models that hold the same at the named paths give the same truth of an expression, whoever
the user is, the same visibility to the same user, the same verdict, errors and calls of
registered functions to a rule, and the same resolved action. -/
theorem Model.agree_of_references (model other : Value) :
    (∀ e : Expr, AgreeAt e.references model other →
      e.eval model = e.eval other ∧
      ∀ auth auth', (ConditionEntry.expr e).eval model auth =
        (ConditionEntry.expr e).eval other auth') ∧
    (∀ c : Condition, AgreeAt c.references model other →
      ∀ auth, isVisible model auth (some c) = isVisible other auth (some c)) ∧
    (∀ rule : Rule, AgreeAt rule.references model other →
      ∀ (engine : Engine) (value : Option Value),
        engine.run rule value model = engine.run rule value other) ∧
    (∀ a : Action, AgreeAt a.references model other → a.resolve model = a.resolve other) := by
  refine ⟨fun e h => ?_, fun c h auth => ?_, fun rule h engine value => ?_, fun a h => ?_⟩
  · have heval := Expr.eval_congr_of_agreeAt h
    exact ⟨heval, fun _ _ => heval⟩
  · exact Condition.eval_congr auth h
  · exact Engine.run_congr h
  · exact Action.resolve_congr h

/-- A purchase is confirmed, checked and shown alike whatever note the model keeps beside it. -/
theorem Model.agree_of_references_of_note :
    let model : Value := .obj [("note", .str "fragile"), ("sum", .num (.int 12))]
    let other : Value := .obj [("note", .null), ("sum", .num (.int 12))]
    let dear : Expr :=
      .compare .gt (.value (.reference "/sum")) (.value (.literal (.num (.int 10))))
    let rule : Rule := { Rule.ofChecks [Check.sameAs "/sum" "differs"] with enabled := some dear }
    let action : Action :=
      { Action.bare "pay" with
        params := [("sum", .reference "/sum")]
        confirm := some (.ofTexts "Pay $\x7b /sum \x7d?" "Really?") }
    get model "/note" ≠ get other "/note" ∧
      dear.eval model = dear.eval other ∧
      (∀ auth, isVisible model auth (some (.ofExpr dear)) =
        isVisible other auth (some (.ofExpr dear))) ∧
      (∀ (engine : Engine) (value : Option Value),
        engine.run rule value model = engine.run rule value other) ∧
      action.resolve model = action.resolve other := by
  intro model other dear rule action
  obtain ⟨hexpr, hcondition, hrule, haction⟩ := agree_of_references model other
  exact ⟨by decide, (hexpr dear (by decide)).1, hcondition (.ofExpr dear) (by decide),
    hrule rule (by decide), haction action (by decide +kernel)⟩

end ScreenLogic
