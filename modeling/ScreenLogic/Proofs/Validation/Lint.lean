import ScreenLogic.Proofs.Decode
import ScreenLogic.Validation.Wire

/-!
# What the lint promises

A function is known by its name if one is registered under it or a built-in check has it.
The lint accepts a rule if all its functions are known, and what is known by a name
decides the checks of that name. The one exception is a function that is not built in, but
has the name of a built-in check and is not registered: the lint knows the name, and yet
such a check accepts everything. No rule that was read from the wire has one.

## Main definitions

* `Engine.judge?`: what decides the checks of a name.
* `CheckFunction.Canonical`: functions that are told by their names.

## Main statements

* `Engine.judged_of_lint`: the lint is sound but for that exception, and names the first
  function that is not known.
-/

namespace ScreenLogic

namespace BuiltinCheck

@[simp] theorem ofName?_name (check : BuiltinCheck) : ofName? check.name = some check := by
  cases check <;> decide

theorem name_of_ofName? {name : String} {check : BuiltinCheck} (h : ofName? name = some check) :
    check.name = name := by
  have hname := List.find?_some h
  exact eq_of_beq hname

/-- What is absent passes no built-in check. -/
@[simp] theorem run_none (check : BuiltinCheck) (args : Fields Value) :
    check.run none args = false := by
  cases check with
  | «matches» =>
    simp only [run]
    cases Fields.get? args "other" <;> rfl
  | _ => rfl

end BuiltinCheck

namespace CheckFunction

/-- A function is the one that its name is read as. -/
def Canonical (f : CheckFunction) : Prop := ofName f.name = f

instance (f : CheckFunction) : Decidable f.Canonical := inferInstanceAs (Decidable (_ = _))

theorem name_ofName (name : String) : (ofName name).name = name := by
  unfold ofName
  split
  · rename_i check h
    exact BuiltinCheck.name_of_ofName? h
  · rfl

theorem canonical_ofName (name : String) : (ofName name).Canonical := by
  rw [Canonical, name_ofName]

theorem canonical_builtin (check : BuiltinCheck) : (builtin check).Canonical := by
  simp [Canonical, ofName, name]

theorem canonical_custom_iff (name : String) :
    (custom name).Canonical ↔ BuiltinCheck.ofName? name = none := by
  change ofName name = custom name ↔ _
  unfold ofName
  cases BuiltinCheck.ofName? name <;> simp

end CheckFunction

/-- All functions of a rule that was read from the wire are told by their names. -/
theorem Rule.canonical_of_decode {v : Value} {rule : Rule} (h : decode v = .ok rule) :
    ∀ check ∈ rule.checks, check.function.Canonical := by
  intro check hcheck
  obtain ⟨present, -, h⟩ := Decode.bind_eq_ok.mp h
  obtain ⟨checks, hchecks, h⟩ := Decode.bind_eq_ok.mp h
  obtain ⟨enabled, -, h⟩ := Decode.bind_eq_ok.mp h
  obtain ⟨validateOn, -, h⟩ := Decode.bind_eq_ok.mp h
  obtain rfl := Except.ok.inj h
  obtain ⟨list, -, hlist⟩ := Decode.need_eq_ok.mp hchecks
  obtain ⟨item, hitem⟩ := Decode.exists_decode_of_mem_list hlist hcheck
  obtain ⟨present, -, hitem⟩ := Decode.bind_eq_ok.mp hitem
  obtain ⟨function, hfunction, hitem⟩ := Decode.bind_eq_ok.mp hitem
  obtain ⟨args, -, hitem⟩ := Decode.bind_eq_ok.mp hitem
  obtain ⟨message, -, hitem⟩ := Decode.bind_eq_ok.mp hitem
  obtain rfl := Except.ok.inj hitem
  obtain ⟨wire, -, hwire⟩ := Decode.need_eq_ok.mp hfunction
  obtain ⟨name, -, rfl⟩ := Decode.map_eq_ok.mp hwire
  exact CheckFunction.canonical_ofName name

/-- What decides a check. -/
inductive Judge where
  | registered (f : CustomFunction)
  | builtin (check : BuiltinCheck)

/-- The verdict of a judge on a check, and the call that it makes if it was registered. -/
def Judge.verdict (judge : Judge) (check : Check) (value : Option Value) (model : Value) :
    Except ValidationError Bool × List CustomCall :=
  let name := check.function.name
  let args := Binding.resolveAll model check.args
  match judge with
  | .registered f => ((f value args).mapError (.customFunction name), [⟨name, value, args⟩])
  | .builtin kind => (.ok (kind.run value args), [])

/-- What is told of a check, by its verdict. -/
def Check.conclude (check : Check) (verdict : Except ValidationError Bool × List CustomCall) :
    Except ValidationError CheckResult × List CustomCall :=
  (verdict.1.map fun valid => ⟨check.function.name, valid, check.message⟩, verdict.2)

namespace Engine

variable (engine : Engine)

theorem runCheck_eq (check : Check) (value : Option Value) (model : Value) :
    engine.runCheck check value model = check.conclude (engine.verdict check value model) := rfl

/-- What decides the checks of a name: the function that is registered under it, or else
the built-in check that has it. -/
def judge? (name : String) : Option Judge :=
  match Fields.get? engine.custom name with
  | some f => some (.registered f)
  | none => (BuiltinCheck.ofName? name).map .builtin

theorem isSome_judge? (name : String) : (engine.judge? name).isSome = engine.knows name := by
  unfold judge? knows Fields.has
  cases Fields.get? engine.custom name <;> simp

/-- The function of a check is not built in and not registered, although its name is one of
a built-in check. -/
def Shadows (check : Check) : Prop :=
  ¬ check.function.Canonical ∧ Fields.get? engine.custom check.function.name = none

theorem shadows_iff (check : Check) : engine.Shadows check ↔
    ∃ name, check.function = .custom name ∧ (BuiltinCheck.ofName? name).isSome ∧
      Fields.get? engine.custom name = none := by
  unfold Shadows
  cases hf : check.function with
  | builtin kind => simp [CheckFunction.canonical_builtin]
  | custom name =>
    simp [CheckFunction.canonical_custom_iff, CheckFunction.name, Option.isSome_iff_ne_none]

/-- Such a check accepts everything. -/
theorem verdict_of_shadows {check : Check} (h : engine.Shadows check) (value : Option Value)
    (model : Value) : engine.verdict check value model = (.ok true, []) := by
  obtain ⟨name, hfunction, -, hnone⟩ := (engine.shadows_iff check).mp h
  simp only [verdict, hfunction, CheckFunction.name, hnone]

/-- What is known by the name of a function decides, if the function is told by its name. -/
theorem verdict_eq_of_judge? {check : Check} {judge : Judge}
    (hjudge : engine.judge? check.function.name = some judge) (h : ¬ engine.Shadows check)
    (value : Option Value) (model : Value) :
    engine.verdict check value model = judge.verdict check value model := by
  unfold judge? at hjudge
  cases hget : Fields.get? engine.custom check.function.name with
  | some f =>
    obtain rfl : Judge.registered f = judge := by simpa [hget] using hjudge
    simp only [verdict, hget, Judge.verdict]
  | none =>
    obtain ⟨kind, hkind, rfl⟩ := Option.map_eq_some_iff.mp (by simpa [hget] using hjudge)
    have hcanonical : check.function.Canonical :=
      Decidable.byContradiction fun hnot => h ⟨hnot, hget⟩
    have hfunction : check.function = .builtin kind := by
      rw [← hcanonical, CheckFunction.ofName, hkind]
    simp only [verdict, hget, Judge.verdict]
    rw [hfunction]

/-- What is known by the name of a function decides all checks with it, unless the function
shadows a built-in check. -/
theorem runCheck_eq_iff {check : Check} {judge : Judge}
    (hjudge : engine.judge? check.function.name = some judge) :
    (∀ value model,
      engine.runCheck check value model = check.conclude (judge.verdict check value model)) ↔
      ¬ engine.Shadows check := by
  constructor
  · intro h hshadows
    obtain ⟨name, hfunction, -, hnone⟩ := (engine.shadows_iff check).mp hshadows
    obtain ⟨kind, hkind, rfl⟩ : ∃ kind, BuiltinCheck.ofName? name = some kind ∧
        Judge.builtin kind = judge := by
      simpa [judge?, hfunction, CheckFunction.name, hnone] using hjudge
    have hsame := h none .null
    rw [runCheck_eq, engine.verdict_of_shadows hshadows] at hsame
    simp [Check.conclude, Judge.verdict, Except.map] at hsame
  · intro h value model
    rw [runCheck_eq, engine.verdict_eq_of_judge? hjudge h]

theorem lint_eq_ok_iff (rule : Rule) :
    engine.lint rule = .ok () ↔ ∀ check ∈ rule.checks, engine.knows check.function.name := by
  unfold lint
  split
  · rename_i check hfind
    have hunknown := List.find?_some hfind
    have hmem := List.mem_of_find?_eq_some hfind
    refine ⟨nofun, fun h => ?_⟩
    simp [h check hmem] at hunknown
  · rename_i hfind
    simpa using List.find?_eq_none.mp hfind

/-- The error of the lint is about the first function that is not known. -/
theorem lint_eq_error_iff (rule : Rule) (error : ValidationError) :
    engine.lint rule = .error error ↔
      ∃ former check later, rule.checks = former ++ check :: later ∧
        (∀ c ∈ former, engine.knows c.function.name) ∧
        engine.knows check.function.name = false ∧
        error = .unknownFunction check.function.name := by
  unfold lint
  constructor
  · intro h
    split at h
    · rename_i check hfind
      obtain ⟨hunknown, former, later, hchecks, hformer⟩ := List.find?_eq_some_iff_append.mp hfind
      refine ⟨former, check, later, hchecks, ?_, ?_, (Except.error.inj h).symm⟩
      · simpa using hformer
      · simpa using hunknown
    · cases h
  · rintro ⟨former, check, later, hchecks, hformer, hunknown, rfl⟩
    have hfind : rule.checks.find? (fun check => !engine.knows check.function.name) =
        some check := by
      refine List.find?_eq_some_iff_append.mpr ⟨by simpa using hunknown, former, later, hchecks, ?_⟩
      simpa using hformer
    rw [hfind]

/-- If the lint accepts a rule, then each check has a judge, which decides it for all values
and models if and only if its function does not shadow a built-in check; none that was read
from the wire does. If not, the error names the first check without a judge. -/
theorem judged_of_lint (rule : Rule) :
    (engine.lint rule = .ok () → ∀ check ∈ rule.checks,
      ∃ judge, engine.judge? check.function.name = some judge ∧
        ((∀ value model,
          engine.runCheck check value model = check.conclude (judge.verdict check value model)) ↔
          ¬ engine.Shadows check)) ∧
    (∀ error, engine.lint rule = .error error →
      ∃ former check later, rule.checks = former ++ check :: later ∧
        (∀ c ∈ former, (engine.judge? c.function.name).isSome) ∧
        engine.judge? check.function.name = none ∧
        error = .unknownFunction check.function.name) ∧
    (∀ wire, Rule.decode wire = .ok rule → ∀ check ∈ rule.checks, ¬ engine.Shadows check) := by
  refine ⟨?_, ?_, ?_⟩
  · intro hlint check hcheck
    have hknown := (engine.lint_eq_ok_iff rule).mp hlint check hcheck
    rw [← isSome_judge?] at hknown
    obtain ⟨judge, hjudge⟩ := Option.isSome_iff_exists.mp hknown
    exact ⟨judge, hjudge, engine.runCheck_eq_iff hjudge⟩
  · intro error hlint
    obtain ⟨former, check, later, hchecks, hformer, hunknown, herror⟩ :=
      (engine.lint_eq_error_iff rule error).mp hlint
    simp only [← isSome_judge?] at hformer hunknown
    have hnone := Option.isNone_iff_eq_none.mp (Option.isSome_eq_false_iff.mp hunknown)
    exact ⟨former, check, later, hchecks, hformer, hnone, herror⟩
  · intro wire hwire check hcheck hshadows
    exact hshadows.1 (Rule.canonical_of_decode hwire check hcheck)

/-- A function that is not registered may pass the lint by the name of a built-in check, and
then accepts what the built-in check rejects. -/
theorem not_judged_of_shadows :
    ¬ ∀ (engine : Engine) (rule : Rule), engine.lint rule = .ok () → ∀ check ∈ rule.checks,
      ∃ judge, engine.judge? check.function.name = some judge ∧ ∀ value model,
        engine.runCheck check value model = check.conclude (judge.verdict check value model) := by
  intro h
  let check : Check := .custom "required" [] "Required"
  obtain ⟨judge, hjudge, hjudged⟩ :=
    h ⟨[]⟩ (.ofChecks [check]) rfl check (List.mem_singleton_self check)
  obtain rfl : Judge.builtin .required = judge := Option.some.inj hjudge
  -- The check accepts an absent value, which the built-in one rejects.
  have hsame := congrArg Prod.fst (hjudged none .null)
  change (Except.ok ⟨"required", true, "Required"⟩ : Except ValidationError CheckResult) =
    .ok ⟨"required", false, "Required"⟩ at hsame
  simp at hsame

end Engine

end ScreenLogic
