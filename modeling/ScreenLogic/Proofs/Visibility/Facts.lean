import ScreenLogic.Proofs.Visibility.NormalForm

/-!
# What a condition sees of the user

Of the user a condition sees no more than the truth of the auth leaves in its list, since
expressions see only the model, and it has no way to ask for the absence of a fact. So it holds of
a user if it holds of somebody who is known by fewer facts. Whether somebody is signed in cannot
be forged by a fact of that name: a condition that was read asks the context itself.

## Main statements

* `Condition.eval_mono`: a condition follows its auth leaves.
* `Condition.auth_facts`: what facts can change, and what they cannot.
-/

namespace ScreenLogic

/-! ## Facts -/

namespace AuthContext

@[simp] theorem mem_insertFact {facts : List String} {name fact : String} :
    name ∈ insertFact facts fact ↔ name = fact ∨ name ∈ facts := by
  induction facts with
  | nil => simp [insertFact]
  | cons first rest ih =>
    simp only [insertFact]
    split
    · rename_i hfact
      subst hfact
      simp
    · split
      · simp
      · simp only [List.mem_cons, ih]
        exact or_left_comm

@[simp] theorem mem_facts_withFact {auth : AuthContext} {name fact : String} :
    name ∈ (auth.withFact fact).facts ↔ name = fact ∨ name ∈ auth.facts := mem_insertFact

end AuthContext

namespace AuthCondition

/-- More facts do not make a leaf false. -/
theorem eval_mono {auth other : AuthContext} (hsigned : other.signedIn = auth.signedIn)
    (hfacts : auth.facts ⊆ other.facts) (condition : AuthCondition)
    (h : condition.eval (some auth)) : condition.eval (some other) := by
  change auth.holds condition = true at h
  change other.holds condition = true
  cases condition with
  | signedIn | signedOut => simpa [AuthContext.holds, hsigned] using h
  | fact name =>
    simp only [AuthContext.holds, List.contains_iff_mem] at h ⊢
    exact hfacts h

/-- Nobody in particular is somebody signed out of whom nothing is known. -/
theorem eval_none (condition : AuthCondition) :
    condition.eval none = condition.eval (some .signedOut) := by
  cases condition <;> rfl

/-- The facts of a context are not asked whether somebody is signed in. -/
theorem eval_withFact_ofName (auth : AuthContext) {fact : String}
    (hfact : fact ∈ ["signedIn", "signedOut"]) (name : String) :
    (ofName name).eval (some (auth.withFact fact)) = (ofName name).eval (some auth) := by
  unfold ofName
  split
  · rfl
  split
  · rfl
  · have hne : name ≠ fact := by
      rintro rfl
      simp_all
    simp [eval, AuthContext.holds, hne]

end AuthCondition

/-! ## Entries -/

namespace ConditionEntry

/-- Each auth leaf of a list that was read is told by its name. -/
theorem exists_ofName_of_ofValue {v : Value} {condition : AuthCondition}
    (h : ofValue v = .ok (.auth condition)) : ∃ name, condition = .ofName name := by
  have hexpr : ∀ w : Value, (Expr.ofValue w).map ConditionEntry.expr ≠ .ok (.auth condition) := by
    intro w hw
    obtain ⟨e, -, he⟩ := Decode.map_eq_ok.mp hw
    cases he
  unfold ofValue at h
  split at h
  · split at h
    · split at h
      · rename_i name
        cases h
        exact ⟨name, rfl⟩
      · cases h
    · exact absurd h (hexpr _)
  · exact absurd h (hexpr v)

theorem exists_ofName_of_ofItems {items : List Value} {entries : List ConditionEntry}
    (h : ofItems items = .ok entries) {condition : AuthCondition}
    (hmem : .auth condition ∈ entries) : ∃ name, condition = .ofName name := by
  induction items generalizing entries with
  | nil =>
    obtain rfl := Except.ok.inj h
    cases hmem
  | cons v items ih =>
    obtain ⟨entry, hentry, h⟩ := Decode.bind_eq_ok.mp h
    obtain ⟨rest, hrest, h⟩ := Decode.bind_eq_ok.mp h
    obtain rfl := Except.ok.inj h
    rcases List.mem_cons.mp hmem with rfl | hmem
    · exact exists_ofName_of_ofValue hentry
    · exact ih hrest hmem

end ConditionEntry

/-! ## Conditions -/

namespace Condition

variable {model : Value} {c : Condition} {auth other : Option AuthContext}

/-- A condition that holds of a user holds of anybody of whom its auth leaves hold that held of
the former. -/
theorem eval_mono
    (hleaf : ∀ condition, .auth condition ∈ c.entries →
      condition.eval auth → condition.eval other)
    (h : c.eval model auth) : c.eval model other := by
  have hentry : ∀ entry ∈ c.entries, entry.eval model auth → entry.eval model other := by
    intro entry hmem hentry
    cases entry with
    | auth condition => exact hleaf condition hmem hentry
    | expr e => exact hentry
  unfold eval at h ⊢
  cases hlogic : c.logic with
  | all =>
    simp only [hlogic, List.all_eq_true] at h ⊢
    exact fun entry hmem => hentry entry hmem (h entry hmem)
  | any =>
    simp only [hlogic, List.any_eq_true] at h ⊢
    obtain ⟨entry, hmem, htrue⟩ := h
    exact ⟨entry, hmem, hentry entry hmem htrue⟩

/-- Nothing but the truth of its auth leaves tells a condition one user from another. -/
theorem eval_eq_of_leaves
    (h : ∀ condition, .auth condition ∈ c.entries → condition.eval auth = condition.eval other) :
    c.eval model auth = c.eval model other := by
  rw [Bool.eq_iff_iff]
  exact ⟨eval_mono fun condition hmem htrue => h condition hmem ▸ htrue,
    eval_mono fun condition hmem htrue => (h condition hmem).symm ▸ htrue⟩

/-- The names of the two leaves that are not facts mean nothing among the facts. -/
theorem eval_withFact {v : Value} (hread : ofValue v = .ok c) (auth : AuthContext) {fact : String}
    (hfact : fact ∈ ["signedIn", "signedOut"]) :
    c.eval model (some (auth.withFact fact)) = c.eval model (some auth) := by
  obtain ⟨items, hitems⟩ := exists_items_of_ofValue hread
  refine eval_eq_of_leaves fun condition hmem => ?_
  obtain ⟨name, rfl⟩ := ConditionEntry.exists_ofName_of_ofItems hitems hmem
  exact AuthCondition.eval_withFact_ofName auth hfact name

theorem eval_foldl_withFact {v : Value} (hread : ofValue v = .ok c) {names : List String}
    (hnames : names ⊆ ["signedIn", "signedOut"]) (auth : AuthContext) :
    c.eval model (some (names.foldl AuthContext.withFact auth)) = c.eval model (some auth) := by
  induction names generalizing auth with
  | nil => rfl
  | cons fact names ih =>
    obtain ⟨hfact, hrest⟩ := List.cons_subset.mp hnames
    rw [List.foldl_cons, ih hrest, eval_withFact hread auth hfact]

/-- What is visible to a user is visible to one of whom more facts are known. Without a context it
is what is visible to somebody signed out. If the condition was read, no fact that is named like
one of the two states makes a difference. And there is no difference between users who agree on
the auth leaves of the list. -/
theorem auth_facts (model : Value) (c : Condition) :
    (∀ auth other : AuthContext, other.signedIn = auth.signedIn → auth.facts ⊆ other.facts →
      isVisible model (some auth) (some c) → isVisible model (some other) (some c)) ∧
    isVisible model none (some c) = isVisible model (some .signedOut) (some c) ∧
    (∀ v, ofValue v = .ok c → ∀ names ⊆ ["signedIn", "signedOut"], ∀ auth,
      isVisible model (some (names.foldl AuthContext.withFact auth)) (some c) =
        isVisible model (some auth) (some c)) ∧
    ∀ auth other : Option AuthContext,
      (∀ condition, .auth condition ∈ c.entries →
        condition.eval auth = condition.eval other) →
      isVisible model auth (some c) = isVisible model other (some c) := by
  refine ⟨fun auth other hsigned hfacts h => ?_, ?_, fun v hread names hnames auth => ?_,
    fun auth other h => ?_⟩
  · exact eval_mono (fun condition _ => condition.eval_mono hsigned hfacts) h
  · exact eval_eq_of_leaves fun condition _ => condition.eval_none
  · exact eval_foldl_withFact hread hnames auth
  · exact eval_eq_of_leaves h

/-- A condition that was not read may ask for a fact of such a name. -/
example :
    let c : Condition := ⟨[.auth (.fact "signedIn")], .all⟩
    isVisible .null (some .signedOut) (some c) = false ∧
      isVisible .null (some (AuthContext.signedOut.withFact "signedIn")) (some c) := by
  decide

end Condition

end ScreenLogic
