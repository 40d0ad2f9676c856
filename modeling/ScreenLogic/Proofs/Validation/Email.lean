import ScreenLogic.Proofs.Pattern.Language
import ScreenLogic.Proofs.Pattern.Search
import ScreenLogic.Proofs.Pattern.Size
import ScreenLogic.Validation.Builtin

/-!
# Addresses

The pattern of the check of addresses has three parts that may be of any length, and a point may
stand inside of them as well as between the last two. What it accepts can be said without it: one
at sign, no blanks, and a point inside of what follows the at sign.

## Main definitions

* `BuiltinCheck.IsAddress`: what makes a text an address.
* `BuiltinCheck.emailSource`: the pattern of addresses as it is written.

## Main statements

* `BuiltinCheck.email_iff`: the check accepts the addresses and nothing else.
* `BuiltinCheck.run_email_eq_run_pattern`: it is the check of a pattern.
-/

namespace ScreenLogic.BuiltinCheck

/-- A text with one at sign and without blanks. There is something before the at sign, and a point
in what follows it that is neither first nor last there. -/
structure IsAddress (s : String) : Prop where
  count_at : s.toList.count '@' = 1
  not_isBlank : ∀ c ∈ s.toList, ¬ Text.isBlank c
  exists_parts : ∃ name domain, s = name ++ "@" ++ domain ∧ name ≠ "" ∧
    ∃ front back, domain = front ++ "." ++ back ∧ front ≠ "" ∧ back ≠ ""

/-- One character or more that may stand beside the at sign. -/
def IsAddressPart (cs : List Char) : Prop := cs ≠ [] ∧ ∀ c ∈ cs, ¬ Text.isBlank c ∧ c ≠ '@'

/-- The three parts of an address, in order. -/
def HasParts (cs name front back : List Char) : Prop :=
  cs = name ++ '@' :: (front ++ '.' :: back) ∧
    IsAddressPart name ∧ IsAddressPart front ∧ IsAddressPart back

/-! ## The pattern -/

theorem mem_language_addressPart_iff {cs : List Char} :
    cs ∈ addressPart.language ↔ IsAddressPart cs := by
  rw [addressPart, Pattern.mem_language_plus_char_iff, IsAddressPart]
  simp [contains_addressChars]

/-- The pattern of addresses, but for its looks at the ends. -/
def addressBody : Pattern :=
  .seq (.seq (.seq (.seq addressPart (.literal '@')) addressPart) (.literal '.')) addressPart

theorem occurs_emailPattern_iff {text : List Char} :
    emailPattern.Occurs text ↔ text ∈ addressBody.language := by
  have hbody : addressBody.LookFree := by
    simp [addressBody, addressPart, Pattern.plus, Pattern.literal, Pattern.LookFree]
  have hassoc {i j : Nat} : Pattern.Matches text emailPattern i j ↔
      Pattern.Matches text
        (.seq (.look .startOfText) (.seq addressBody (.look .endOfText))) i j := by
    rw [emailPattern, addressBody, Pattern.matches_seq_iff, Pattern.matches_seq_iff]
    simp only [Pattern.matches_seq_assoc]
  simp only [← Pattern.occurs_between_ends_iff hbody, Pattern.Occurs, hassoc]

theorem mem_language_addressBody_iff {cs : List Char} :
    cs ∈ addressBody.language ↔ ∃ name front back, HasParts cs name front back := by
  simp only [addressBody, Pattern.language, Language.mem_mul, mem_language_addressPart_iff,
    Pattern.mem_language_literal_iff]
  constructor
  · rintro ⟨_, ⟨_, ⟨_, ⟨name, hname, _, rfl, rfl⟩, front, hfront, rfl⟩, _, rfl, rfl⟩, back,
      hback, rfl⟩
    exact ⟨name, front, back, by simp, hname, hfront, hback⟩
  · rintro ⟨name, front, back, rfl, hname, hfront, hback⟩
    exact ⟨_, ⟨_, ⟨_, ⟨name, hname, _, rfl, rfl⟩, front, hfront, rfl⟩, _, rfl, rfl⟩, back,
      hback, by simp⟩

theorem ordered_emailPattern : emailPattern.Ordered := by
  simp [emailPattern, addressPart, Pattern.plus, Pattern.literal, Pattern.Ordered]

theorem isEmail_iff_exists_parts (s : String) :
    isEmail s ↔ ∃ name front back, HasParts s.toList name front back := by
  rw [isEmail, Pattern.occurs_iff ordered_emailPattern, occurs_emailPattern_iff,
    mem_language_addressBody_iff]

/-! ## What makes an address -/

theorem isAddressPart_of_mem {cs part : List Char} (hne : part ≠ []) (hmem : ∀ c ∈ part, c ∈ cs)
    (hblank : ∀ c ∈ cs, ¬ Text.isBlank c) (hat : part.count '@' = 0) : IsAddressPart part := by
  refine ⟨hne, fun c hc => ⟨hblank c (hmem c hc), ?_⟩⟩
  rintro rfl
  exact List.count_eq_zero.mp hat hc

theorem isAddress_iff_exists_parts (s : String) :
    IsAddress s ↔ ∃ name front back, HasParts s.toList name front back := by
  constructor
  · rintro ⟨hcount, hblank, name, _, hs, hname, front, back, rfl, hfront, hback⟩
    have htext : s.toList = name.toList ++ '@' :: (front.toList ++ '.' :: back.toList) := by
      simp [hs]
    -- The one at sign is that between the parts.
    have hat : name.toList.count '@' = 0 ∧ front.toList.count '@' = 0 ∧
        back.toList.count '@' = 0 := by
      simp only [htext, List.count_append, List.count_cons, beq_self_eq_true, if_true] at hcount
      omega
    refine ⟨name.toList, front.toList, back.toList, htext, ?_, ?_, ?_⟩
    · exact isAddressPart_of_mem (by simpa using hname) (by simp +contextual [htext]) hblank hat.1
    · exact isAddressPart_of_mem (by simpa using hfront) (by simp +contextual [htext]) hblank
        hat.2.1
    · exact isAddressPart_of_mem (by simpa using hback) (by simp +contextual [htext]) hblank
        hat.2.2
  · rintro ⟨name, front, back, htext, ⟨hname, hnameChars⟩, ⟨hfront, hfrontChars⟩, hback, hbackChars⟩
    have hat {part : List Char} (h : ∀ c ∈ part, ¬ Text.isBlank c ∧ c ≠ '@') :
        part.count '@' = 0 :=
      List.count_eq_zero.mpr fun hmem => (h '@' hmem).2 rfl
    refine ⟨?_, ?_, String.ofList name, String.ofList (front ++ '.' :: back), ?_, ?_,
      String.ofList front, String.ofList back, ?_, ?_, ?_⟩
    · simp [htext, hat hnameChars, hat hfrontChars, hat hbackChars]
    · intro c hc
      simp only [htext, List.mem_append, List.mem_cons] at hc
      obtain hc | rfl | hc | rfl | hc := hc
      · exact (hnameChars c hc).1
      · decide
      · exact (hfrontChars c hc).1
      · decide
      · exact (hbackChars c hc).1
    · simp [← String.toList_inj, htext]
    · simpa using hname
    · simp [← String.toList_inj]
    · simpa using hfront
    · simpa using hback

theorem run_email_iff (value : Option Value) (args : Fields Value) :
    run .email value args ↔ ∃ s, value = some (.str s) ∧ isEmail s := by
  have htext (s : String) : value = some (.str s) ↔ value.bind Value.asStr? = some s := by
    simp [Option.bind_eq_some_iff, Value.asStr?_eq_some_iff]
  simp only [run, htext]
  cases value.bind Value.asStr? <;> simp

/-- The check of addresses accepts the texts that are addresses, and no other value. -/
theorem email_iff (value : Option Value) (args : Fields Value) :
    run .email value args ↔ ∃ s, value = some (.str s) ∧ IsAddress s := by
  simp only [run_email_iff, isEmail_iff_exists_parts, isAddress_iff_exists_parts]

/-- Points may stand side by side. -/
example : run .email (some (.str "a@b..c")) [] = true := by decide

/-! ## The check as that of a pattern -/

/-- The pattern of addresses as it is written. -/
def emailSource : String := "^[^\\s@]+@[^\\s@]+\\.[^\\s@]+$"

/-- The form in which the size of the pattern is counted. -/
def emailForm : Pattern.Form :=
  .seq [.look .startOfText, .times 1 none true (.set addressChars), .literal ['@'],
    .times 1 none true (.set addressChars), .literal ['.'],
    .times 1 none true (.set addressChars), .look .endOfText]

/-- The pattern of addresses as it is read. A letter on its own is read as a text of one letter,
and this has an end. -/
def emailPatternRead : Pattern :=
  .seq (.look .startOfText) <| .seq addressPart <| .seq (.seq (.literal '@') .empty) <|
    .seq addressPart <| .seq (.seq (.literal '.') .empty) <| .seq addressPart (.look .endOfText)

theorem complement_blanks_union_at :
    ((Text.CharSet.empty.union Text.blanks).union (.range 64 64)).complement = addressChars := by
  simp [Text.CharSet.union, Text.CharSet.empty, Text.CharSet.range, Text.blanks,
    Text.CharSet.joined, Text.CharSet.joinFrom, Text.CharSet.beginsBefore,
    Text.CharSet.complement, Text.CharSet.gapsOf, Text.CharSet.gaps, addressChars, Text.nextCode,
    Text.previousCode, Text.lastCode]

theorem readClass_addressChars (fuel : Nat) (rest : List Char) :
    Pattern.readClass .initial (fuel + 4) ('^' :: '\\' :: 's' :: '@' :: ']' :: rest) =
      some (⟨addressChars, 2⟩, rest) := by
  rw [← complement_blanks_union_at]
  rfl

/-- Parts of a pattern without groups that were read so far, the last one first. -/
def reading (parts : List Pattern.Part) : Pattern.Progress :=
  ⟨{ Pattern.Group.begin none .initial with parts := parts }, [], [], 0⟩

/-- How a part of an address is written. -/
def addressPartSource : List Char := ['[', '^', '\\', 's', '@', ']', '+']

/-- What is read of a part of an address. -/
def addressPartRead : Pattern.Part := ⟨.times 1 none true (.set addressChars), 3, false⟩

/-- The class and its repetition are one part, whatever comes before and behind. -/
theorem readParts_addressPart {c : Char} (hc : c ≠ '?') (fuel : Nat) (parts : List Pattern.Part)
    (rest : List Char) :
    Pattern.readParts (fuel + 2) (reading parts) (addressPartSource ++ c :: rest) =
      Pattern.readParts fuel (reading (addressPartRead :: parts)) (c :: rest) := by
  have hclass := readClass_addressChars (rest.length + 4) ('+' :: c :: rest)
  have hrepeat : ((reading parts).push (.ofClass ⟨addressChars, 2⟩)).repeatLast? 1 none
      (c :: rest) = some (reading (addressPartRead :: parts), c :: rest) := by
    -- Only a question mark would be read with the repetition.
    simp only [Pattern.Progress.repeatLast?, List.cons.injEq, hc, false_and, imp_self,
      implies_true]
    rfl
  calc Pattern.readParts (fuel + 2) (reading parts) (addressPartSource ++ c :: rest)
      = (Pattern.readClass .initial (rest.length + 4 + 4)
          ('^' :: '\\' :: 's' :: '@' :: ']' :: '+' :: c :: rest)).bind fun x =>
            Pattern.readParts (fuel + 1) ((reading parts).push (.ofClass x.1)) x.2 := rfl
    _ = (((reading parts).push (.ofClass ⟨addressChars, 2⟩)).repeatLast? 1 none
          (c :: rest)).bind fun x => Pattern.readParts fuel x.1 x.2 := by rw [hclass]; rfl
    _ = Pattern.readParts fuel (reading (addressPartRead :: parts)) (c :: rest) := by
      rw [hrepeat]; rfl

theorem toList_emailSource : emailSource.toList = '^' :: (addressPartSource ++ '@' ::
    (addressPartSource ++ '\\' :: '.' :: (addressPartSource ++ ['$']))) := by
  decide

theorem readParts_emailSource :
    Pattern.readParts 27 (reading []) emailSource.toList =
      some (reading [.ofForm (.look .endOfText), addressPartRead, .ofForm (.literal ['.']),
        addressPartRead, .ofForm (.literal ['@']), addressPartRead,
        .ofForm (.look .startOfText)]) := by
  let start := Pattern.Part.ofForm (.look .startOfText)
  let sign (c : Char) := Pattern.Part.ofForm (.literal [c])
  let last := addressPartSource ++ ['$']
  let domain := addressPartSource ++ '\\' :: '.' :: last
  let parts := [addressPartRead, sign '@', addressPartRead, start]
  rw [toList_emailSource]
  calc Pattern.readParts 27 (reading []) ('^' :: (addressPartSource ++ '@' :: domain))
      = Pattern.readParts 26 (reading [start]) (addressPartSource ++ '@' :: domain) := rfl
    _ = Pattern.readParts 24 (reading [addressPartRead, start]) ('@' :: domain) :=
      readParts_addressPart (by decide) 24 _ _
    _ = Pattern.readParts 23 (reading [sign '@', addressPartRead, start]) domain := rfl
    _ = Pattern.readParts 21 (reading parts) ('\\' :: '.' :: last) :=
      readParts_addressPart (by decide) 21 _ _
    _ = Pattern.readParts 20 (reading (sign '.' :: parts)) last := rfl
    _ = Pattern.readParts 18 (reading (addressPartRead :: sign '.' :: parts)) ['$'] :=
      readParts_addressPart (by decide) 18 _ _
    _ = some (reading (.ofForm (.look .endOfText) :: addressPartRead :: sign '.' :: parts)) := rfl

/-- None of the seven parts adds more than 3000 bytes. -/
theorem fits_emailForm : emailForm.fits := by
  refine Pattern.Form.fits_of_addsAtMost (n := 21060) (fun backward => ?_) (by decide)
  have hpart : (Pattern.Growth.ofForm backward
      (.times 1 none true (.set addressChars))).AddsAtMost 3000 :=
    (Pattern.Growth.addsAtMost_ofSet (by decide) backward).onceOrMore.mono (by decide +kernel)
  have hlook (l : Look) : (Pattern.Growth.ofForm backward (.look l)).AddsAtMost 3000 :=
    (Pattern.Growth.addsAtMost_states 1).mono (by decide)
  have hat : (Pattern.Growth.ofForm backward (.literal ['@'])).AddsAtMost 3000 :=
    (Pattern.Growth.addsAtMost_states _).mono (by decide)
  have hpoint : (Pattern.Growth.ofForm backward (.literal ['.'])).AddsAtMost 3000 :=
    (Pattern.Growth.addsAtMost_states _).mono (by decide)
  refine Pattern.Growth.addsAtMost_ofSequence (n := 3000) ?_
  simp [hpart, hlook, hat, hpoint]

theorem parse?_emailSource : Pattern.parse? emailSource = some emailPatternRead := by
  have hlength : emailSource.toList.length + 1 = 27 := by rw [toList_emailSource]; rfl
  have hread := readParts_emailSource
  rw [← hlength] at hread
  exact Pattern.parse?_of_readParts ⟨emailForm, 4, false⟩ hread rfl rfl (by decide)
    fits_emailForm

theorem occurs_emailPatternRead (text : List Char) :
    emailPatternRead.occurs text = emailPattern.occurs text := by
  have hread : emailPatternRead.Ordered := by
    simp [emailPatternRead, addressPart, Pattern.plus, Pattern.literal, Pattern.Ordered]
  have hmatches {i j : Nat} : Pattern.Matches text emailPatternRead i j ↔
      Pattern.Matches text emailPattern i j := by
    simp only [emailPatternRead, emailPattern, Pattern.matches_seq_iff, Pattern.matches_empty_iff,
      exists_eq_right]
  rw [Bool.eq_iff_iff, Pattern.occurs_iff hread, Pattern.occurs_iff ordered_emailPattern]
  simp only [Pattern.Occurs, hmatches]

/-- The check of addresses is the check of a pattern that is written as above. -/
theorem run_email_eq_run_pattern (value : Option Value) (args : Fields Value) :
    run .email value args = run .pattern value [("pattern", .str emailSource)] := by
  have hsource : textArg? [("pattern", .str emailSource)] "pattern" = some emailSource := by
    simp [textArg?, Fields.get?, Value.asStr?]
  simp only [run, hsource, Option.bind_some, parse?_emailSource]
  cases value.bind Value.asStr? with
  | none => rfl
  | some s => simp only [isEmail, occurs_emailPatternRead]

end ScreenLogic.BuiltinCheck
