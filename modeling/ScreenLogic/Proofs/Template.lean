import Mathlib.Data.List.TakeWhile
import ScreenLogic.Proofs.Pattern.Language
import ScreenLogic.Template

/-!
# One pass over a template

The holes of a template are the stretches that a pattern describes. At one place one hole begins at
most, but some begin inside others. Those that are filled are found from left to right: the first
hole is the one before which no other begins, and the search goes on behind it. What stands between
these holes is kept, and what fills them is not looked at.

## Main definitions

* `Template.Hole`, `Template.FirstHole`: the holes of a template, and the first of them.
* `Template.Found`: where holes end that are found one after another.

## Main statements

* `Template.matches_holePattern_iff`: the holes are the stretches that a pattern describes.
* `Template.fill_in_one_pass`: what comes of a template, hole after hole.
-/

namespace ScreenLogic.Template

/-! ## Holes -/

/-- A hole of a template, by its name and what stands before and after it. -/
structure Hole (template before name after : String) : Prop where
  eq_append : template = before ++ "$\x7b" ++ name ++ "\x7d" ++ after
  name_ne : name ≠ ""
  closing_notMem : '\x7d' ∉ name.toList

/-- A hole before which no other begins. -/
structure FirstHole (template before name after : String) : Prop
    extends Hole template before name after where
  length_le : ∀ {before' name' after' : String},
    Hole template before' name' after' → before.length ≤ before'.length

/-- One of the holes that are found one after another ends before the rest. -/
inductive Found : String → String → Prop where
  | first {template before name after : String} :
      FirstHole template before name after → Found template after
  | next {template before name after rest : String} :
      FirstHole template before name after → Found after rest → Found template rest

theorem hole?_eq_some_iff {cs name rest : List Char} :
    hole? cs = some (name, rest) ↔
      cs = '$' :: '\x7b' :: (name ++ '\x7d' :: rest) ∧ name ≠ [] ∧ '\x7d' ∉ name := by
  constructor
  · intro h
    unfold hole? at h
    split at h
    · rename_i cs
      have hcs := List.takeWhile_append_dropWhile (p := (· != '\x7d')) (l := cs)
      split at h
      · rename_i c name' x rest' htake hdrop
        obtain ⟨rfl, rfl⟩ : c :: name' = name ∧ rest' = rest := by simpa using h
        have hx : x = '\x7d' := by
          have := List.head_dropWhile_not (p := (· != '\x7d')) (l := cs) (by simp [hdrop])
          simpa [hdrop] using this
        have hnotMem : '\x7d' ∉ c :: name' := by
          rw [← htake]
          intro hmem
          simpa using List.mem_takeWhile_imp hmem
        rw [htake, hdrop, hx] at hcs
        exact ⟨by rw [← hcs], by simp, hnotMem⟩
      · cases h
    · cases h
  · rintro ⟨rfl, hname, hclosing⟩
    have hall : ∀ c ∈ name, (c != '\x7d') = true := by grind
    obtain ⟨c, name, rfl⟩ := List.exists_cons_of_ne_nil hname
    unfold hole?
    simp only [List.takeWhile_append_of_pos hall, List.dropWhile_append_of_pos hall]
    simp

theorem hole_iff {template before name after : String} :
    Hole template before name after ↔
      ∃ cs, template.toList = before.toList ++ cs ∧
        hole? cs = some (name.toList, after.toList) := by
  constructor
  · rintro ⟨rfl, hname, hclosing⟩
    refine ⟨_, ?_, hole?_eq_some_iff.mpr ⟨rfl, by simpa using hname, hclosing⟩⟩
    simp
  · rintro ⟨cs, htemplate, hhole⟩
    obtain ⟨rfl, hname, hclosing⟩ := hole?_eq_some_iff.mp hhole
    refine ⟨?_, by simpa using hname, hclosing⟩
    rw [← String.toList_inj, htemplate]
    simp

theorem exists_hole_of_hole? {template : String} {front cs : List Char}
    (htemplate : template.toList = front ++ cs) (h : hole? cs ≠ none) :
    ∃ name after, Hole template (String.ofList front) name after := by
  obtain ⟨⟨name, rest⟩, hhole⟩ := Option.ne_none_iff_exists'.mp h
  refine ⟨String.ofList name, String.ofList rest, hole_iff.mpr ⟨cs, ?_, ?_⟩⟩
  · simpa using htemplate
  · simpa using hhole

theorem FirstHole.unique {template before name after before' name' after' : String}
    (h : FirstHole template before name after) (h' : FirstHole template before' name' after') :
    before = before' ∧ name = name' ∧ after = after' := by
  have hlength : before.toList.length = before'.toList.length := by
    rw [String.length_toList, String.length_toList]
    exact Nat.le_antisymm (h.length_le h'.toHole) (h'.length_le h.toHole)
  obtain ⟨cs, htemplate, hhole⟩ := hole_iff.mp h.toHole
  obtain ⟨cs', htemplate', hhole'⟩ := hole_iff.mp h'.toHole
  obtain ⟨hbefore, rfl⟩ := List.append_inj (htemplate.symm.trans htemplate') hlength
  have hsame := Option.some.inj (hhole.symm.trans hhole')
  rw [Prod.mk.injEq] at hsame
  exact ⟨String.toList_inj.mp hbefore, String.toList_inj.mp hsame.1, String.toList_inj.mp hsame.2⟩

/-- A template that has a hole has a first one. -/
theorem exists_firstHole {template : String}
    (h : ∃ before name after, Hole template before name after) :
    ∃ before name after, FirstHole template before name after := by
  classical
  have hlengths : ∃ n before name after, Hole template before name after ∧ before.length = n := by
    obtain ⟨before, name, after, hhole⟩ := h
    exact ⟨before.length, before, name, after, hhole, rfl⟩
  obtain ⟨before, name, after, hhole, hlength⟩ := Nat.find_spec hlengths
  refine ⟨before, name, after, hhole, fun {before' name' after'} hhole' => ?_⟩
  rw [hlength]
  exact Nat.find_min' hlengths ⟨before', name', after', hhole', rfl⟩

/-- More text after a template takes none of its holes away. -/
theorem Hole.append {template before name after : String} (h : Hole template before name after)
    (more : String) : Hole (template ++ more) before name (after ++ more) :=
  ⟨by rw [h.eq_append]; simp only [String.append_assoc], h.name_ne, h.closing_notMem⟩

theorem FirstHole.of_append {front before name after more : String}
    (h : FirstHole (front ++ more) before name (after ++ more)) :
    FirstHole front before name after where
  eq_append := by
    have happend := h.eq_append
    rw [← String.append_assoc] at happend
    exact String.append_left_inj _ |>.mp happend
  name_ne := h.name_ne
  closing_notMem := h.closing_notMem
  length_le hhole := h.length_le (hhole.append more)

theorem Found.exists_append {template rest : String} (h : Found template rest) :
    ∃ front, template = front ++ rest := by
  induction h with
  | first hfirst => exact ⟨_, hfirst.eq_append⟩
  | @next template before name after rest hfirst _ ih =>
    obtain ⟨front, rfl⟩ := ih
    refine ⟨before ++ "$\x7b" ++ name ++ "\x7d" ++ front, ?_⟩
    rw [hfirst.eq_append, ← String.append_assoc]

/-! ## The pattern of a hole -/

/-- A dollar sign, an opening brace, other characters than a closing brace, and a closing brace. -/
def holePattern : Pattern :=
  .seq (.literal '$') (.seq (.literal '\x7b')
    (.seq (.plus (.char (Text.CharSet.single '\x7d').complement)) (.literal '\x7d')))

theorem contains_complement_closing_iff {c : Char} :
    (Text.CharSet.single '\x7d').complement.contains c ↔ c ≠ '\x7d' := by
  have hranges : (Text.CharSet.single '\x7d').complement.ranges =
      [(0, 0x7c), (0x7e, Text.lastCode)] := by decide
  have hcodes : (Text.CharSet.single '\x7d').complement.contains c ↔
      c.toNat ≤ 0x7c ∨ 0x7e ≤ c.toNat ∧ c.toNat ≤ Text.lastCode := by
    simp [Text.CharSet.contains, Text.CharSet.containsCode, hranges]
  have hlast : c.toNat ≤ Text.lastCode := by
    have hvalid := c.valid
    simp only [UInt32.isValidChar, Nat.isValidChar] at hvalid
    simp only [Char.toNat, Text.lastCode]
    omega
  rw [hcodes, ne_eq, ← Char.toNat_inj]
  have hclosing : '\x7d'.toNat = 0x7d := rfl
  omega

theorem mem_language_holePattern_iff {cs : List Char} :
    cs ∈ holePattern.language ↔
      ∃ name, cs = '$' :: '\x7b' :: (name ++ ['\x7d']) ∧ name ≠ [] ∧ '\x7d' ∉ name := by
  have hname (name : List Char) :
      name ∈ (Pattern.plus (.char (Text.CharSet.single '\x7d').complement)).language ↔
        name ≠ [] ∧ '\x7d' ∉ name := by
    rw [Pattern.mem_language_plus_char_iff]
    simp only [contains_complement_closing_iff]
    grind
  constructor
  · intro hmem
    obtain ⟨_, hdollar, _, hbraced, rfl⟩ := Language.mem_mul.mp hmem
    obtain ⟨_, hopening, _, hclosed, rfl⟩ := Language.mem_mul.mp hbraced
    obtain ⟨name, hnamed, _, hclosing, rfl⟩ := Language.mem_mul.mp hclosed
    obtain rfl := Pattern.mem_language_literal_iff.mp hdollar
    obtain rfl := Pattern.mem_language_literal_iff.mp hopening
    obtain rfl := Pattern.mem_language_literal_iff.mp hclosing
    exact ⟨name, rfl, (hname name).mp hnamed⟩
  · rintro ⟨name, rfl, hnamed⟩
    refine Language.append_mem_mul (a := ['$']) (Pattern.mem_language_literal_iff.mpr rfl) ?_
    refine Language.append_mem_mul (a := ['\x7b']) (Pattern.mem_language_literal_iff.mpr rfl) ?_
    exact Language.append_mem_mul ((hname name).mpr hnamed)
      (Pattern.mem_language_literal_iff.mpr rfl)

/-- The holes of a template are the stretches that the pattern describes. -/
theorem matches_holePattern_iff {template : String} {i j : Nat} :
    Pattern.Matches template.toList holePattern i j ↔
      ∃ before name after, Hole template before name after ∧
        before.length = i ∧ j = i + name.length + 3 := by
  have hfree : holePattern.LookFree := ⟨trivial, trivial, trivial, trivial⟩
  rw [Pattern.matches_iff_mem_language hfree]
  constructor
  · rintro ⟨_, hmem, hstretch⟩
    obtain ⟨name, rfl, hname, hclosing⟩ := mem_language_holePattern_iff.mp hmem
    obtain ⟨front, back, htemplate, rfl, rfl⟩ :=
      (Pattern.stretch_iff_of_ne_nil (List.cons_ne_nil _ _)).mp hstretch
    refine ⟨String.ofList front, String.ofList name, String.ofList back, ⟨?_, ?_, ?_⟩, ?_, ?_⟩
    · rw [← String.toList_inj, htemplate]
      simp
    · simpa using hname
    · simpa using hclosing
    · exact String.length_ofList
    · simp only [List.length_cons, List.length_append, List.length_nil, String.length_ofList]
      omega
  · rintro ⟨before, name, after, ⟨rfl, hname, hclosing⟩, rfl, rfl⟩
    refine ⟨'$' :: '\x7b' :: (name.toList ++ ['\x7d']), mem_language_holePattern_iff.mpr
      ⟨name.toList, rfl, by simpa using hname, hclosing⟩, ?_⟩
    rw [Pattern.stretch_iff_of_ne_nil (List.cons_ne_nil _ _)]
    refine ⟨before.toList, after.toList, by simp, String.length_toList, ?_⟩
    simp only [List.length_cons, List.length_append, List.length_nil, String.length_toList]
    omega

/-! ## Pieces -/

theorem pieces_of_hole? {cs name rest : List Char} (h : hole? cs = some (name, rest)) :
    pieces cs = .hole name :: pieces rest := by
  rw [pieces]
  split <;> simp_all

theorem pieces_cons {c : Char} {cs : List Char} (h : hole? (c :: cs) = none) :
    pieces (c :: cs) = .char c :: pieces cs := by
  rw [pieces]
  split <;> simp_all

theorem pieces_nil : pieces [] = [] := by
  rw [pieces]
  rfl

/-- Characters at which no hole begins are kept. -/
theorem pieces_append {front cs : List Char}
    (h : ∀ kept passed, front = kept ++ passed → passed ≠ [] → hole? (passed ++ cs) = none) :
    pieces (front ++ cs) = front.map .char ++ pieces cs := by
  induction front with
  | nil => rfl
  | cons c front ih =>
    have hhere : hole? (c :: (front ++ cs)) = none :=
      h [] (c :: front) rfl (List.cons_ne_nil c front)
    have hlater := ih fun kept passed hfront => h (c :: kept) passed (by rw [hfront]; rfl)
    rw [List.cons_append, pieces_cons hhere, hlater]
    rfl

/-! ## Filling -/

variable {model : Value}

theorem flatMap_render_map_char (cs : List Char) :
    (cs.map Piece.char).flatMap (Piece.render model) = cs := by
  induction cs with
  | nil => rfl
  | cons c cs ih => simpa [Piece.render] using ih

/-- A template without holes is kept. -/
theorem fill_of_no_hole {template : String}
    (h : ∀ before name after, ¬ Hole template before name after) :
    fill model template = template := by
  have hpieces : pieces (template.toList ++ []) = template.toList.map .char ++ pieces [] := by
    refine pieces_append fun kept passed htemplate _ => ?_
    by_contra hhole
    rw [List.append_nil] at hhole
    obtain ⟨name, after, hhole⟩ := exists_hole_of_hole? htemplate hhole
    exact h _ name after hhole
  rw [List.append_nil, pieces_nil, List.append_nil] at hpieces
  rw [fill, hpieces, flatMap_render_map_char, String.ofList_toList]

/-- What stands before the first hole is kept, and what stands after it is a template of its own. -/
theorem FirstHole.fill_eq {template before name after : String}
    (h : FirstHole template before name after) :
    fill model template =
      before ++ Value.display (Model.get model (holePath name.toList)) ++ fill model after := by
  obtain ⟨cs, htemplate, hhole⟩ := hole_iff.mp h.toHole
  have hpieces : pieces (before.toList ++ cs) = before.toList.map .char ++ pieces cs := by
    refine pieces_append fun kept passed hbefore hpassed => ?_
    -- A hole that begins among the kept characters would come before the first.
    by_contra hearlier
    have hkept : template.toList = kept ++ (passed ++ cs) := by
      rw [htemplate, hbefore, List.append_assoc]
    obtain ⟨name', after', hearlier⟩ := exists_hole_of_hole? hkept hearlier
    have hle := h.length_le hearlier
    have hlt := List.length_pos_iff.mpr hpassed
    rw [← String.length_toList, hbefore, List.length_append, String.length_ofList] at hle
    omega
  rw [fill, htemplate, hpieces, pieces_of_hole? hhole, ← String.toList_inj]
  simp [flatMap_render_map_char, Piece.render, fill]

@[simp] theorem fill_empty : fill model "" = "" :=
  fill_of_no_hole fun before name after h => by simpa using h.eq_append

/-- Behind a hole that is found, a template may be cut in two, and each part filled alone. -/
theorem Found.fill_append {template rest : String} (h : Found template rest) {front : String}
    (hfront : template = front ++ rest) :
    fill model template = fill model front ++ fill model rest := by
  induction h generalizing front with
  | @first template before name rest hfirst =>
    subst hfront
    have hwhole : FirstHole (front ++ rest) before name ("" ++ rest) := by
      rwa [String.empty_append]
    have hcut : FirstHole front before name "" := .of_append hwhole
    rw [hfirst.fill_eq, hcut.fill_eq, fill_empty, String.append_empty]
  | @next template before name after rest hfirst hfound ih =>
    -- The cut is behind the first hole, so that the front has the same first hole.
    subst hfront
    obtain ⟨middle, rfl⟩ := hfound.exists_append
    have hcut : FirstHole front before name middle := .of_append hfirst
    rw [hfirst.fill_eq, hcut.fill_eq, ih rfl]
    simp only [String.append_assoc]

/-- A template is filled in one pass. Without a hole it is kept; otherwise there is a first hole,
what stands before it is kept, and what stands after it is filled in the same way, so that what is
put in is not looked at. Behind each hole that is found, the template may be cut in two. -/
theorem fill_in_one_pass (model : Value) (template : String) :
    ((∀ before name after, ¬ Hole template before name after) → fill model template = template) ∧
    ((∃ before name after, Hole template before name after) →
      ∃! hole : String × String × String, FirstHole template hole.1 hole.2.1 hole.2.2) ∧
    (∀ before name after, FirstHole template before name after →
      fill model template =
        before ++ Value.display (Model.get model (holePath name.toList)) ++ fill model after) ∧
    ∀ front rest, template = front ++ rest → Found template rest →
      fill model template = fill model front ++ fill model rest := by
  refine ⟨fill_of_no_hole, fun hhole => ?_, fun _ _ _ h => h.fill_eq,
    fun _ _ hfront h => h.fill_append hfront⟩
  obtain ⟨before, name, after, hfirst⟩ := exists_firstHole hhole
  refine ⟨(before, name, after), hfirst, fun ⟨before', name', after'⟩ hother => ?_⟩
  obtain ⟨rfl, rfl, rfl⟩ := FirstHole.unique hother hfirst
  rfl

/-- A text that is put in and looks like the hole it was put into. -/
theorem fill_in_one_pass_of_text_with_hole :
    FirstHole "$\x7b /x \x7d>" "" " /x " ">" ∧
      (∀ before name after, ¬ Hole ">" before name after) ∧
      fill (.obj [("x", .str "$\x7b/x\x7d")]) "$\x7b /x \x7d>" = "$\x7b/x\x7d>" ∧
      fill (.obj [("x", .str "$\x7b/x\x7d")]) "$\x7b /x \x7d" ++
        fill (.obj [("x", .str "$\x7b/x\x7d")]) ">" = "$\x7b/x\x7d>" := by
  have hfirst : FirstHole "$\x7b /x \x7d>" "" " /x " ">" :=
    ⟨⟨by decide, by decide, by decide⟩, fun _ => Nat.zero_le _⟩
  have hnone : ∀ before name after, ¬ Hole ">" before name after := by
    rintro before name after ⟨happend, -, -⟩
    have hdollar : '$' ∈ ">".toList := by
      rw [happend]
      simp
    exact absurd hdollar (by decide)
  obtain ⟨hkeep, -⟩ := fill_in_one_pass (.obj [("x", .str "$\x7b/x\x7d")]) ">"
  obtain ⟨-, -, hfill, hcut⟩ :=
    fill_in_one_pass (.obj [("x", .str "$\x7b/x\x7d")]) "$\x7b /x \x7d>"
  have hfilled : fill (.obj [("x", .str "$\x7b/x\x7d")]) "$\x7b /x \x7d>" = "$\x7b/x\x7d>" := by
    rw [hfill _ _ _ hfirst, hkeep hnone]
    decide
  refine ⟨hfirst, hnone, hfilled, ?_⟩
  rw [← hcut "$\x7b /x \x7d" ">" (by decide) (.first hfirst), hfilled]

end ScreenLogic.Template
