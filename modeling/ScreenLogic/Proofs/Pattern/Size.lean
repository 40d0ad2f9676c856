import ScreenLogic.Pattern.Reader

/-!
# Bounds of sizes

How large the automaton of a set is depends on the states that a table remembers. What it can be at
most does not: a state that is remembered is one less to add. States that are still open are paid
for when they are opened, with their last edge, so that closing them costs nothing more.

## Main definitions

* `Growth.AddsAtMost`: how much a part of a pattern adds at most, in bytes.

## Main statements

* `Growth.addsAtMost_ofSet`, `Growth.addsAtMost_ofSequence`: bounds of sets and sequences.
* `Form.fits_of_addsAtMost`: a form that adds little enough is within the limit.
* `parse?_of_readParts`: what is read within the limits is a pattern.
-/

namespace ScreenLogic.Pattern

open Text

namespace Size

@[simp] theorem bytes_addStates (n : Nat) (s : Size) :
    (s.addStates n).bytes = s.bytes + 32 * n := by
  simp only [bytes, addStates]
  omega

@[simp] theorem bytes_addBranches (n : Nat) (s : Size) :
    (s.addBranches n).bytes = s.bytes + 4 * n := by
  simp only [bytes, addBranches]
  omega

@[simp] theorem bytes_addSwitch (edges : Nat) (s : Size) :
    (s.addSwitch edges).bytes = s.bytes + 32 + 8 * edges := by
  simp only [bytes, addSwitch]
  omega

theorem bytes_link_le (branches : Bool) (s : Size) : (s.link branches).bytes ≤ s.bytes + 4 := by
  cases branches <;> simp [link]

end Size

/-! ## Sets of characters -/

/-- What a state that is still open takes when it is closed. -/
def OpenState.cost (state : OpenState) : Nat := 32 + 8 * (state.close 0).length

def openCost : List OpenState → Nat
  | [] => 0
  | state :: states => state.cost + openCost states

theorem OpenState.cost_eq (state : OpenState) (target : Nat) :
    state.cost = 32 + 8 * (state.close target).length := by
  cases state with | mk edges last => cases last <;> rfl

/-- A state that has just been opened has one edge to come. -/
theorem openCost_map (ranges : List ByteRange) :
    openCost (ranges.map fun r => ⟨[], some r⟩) = 40 * ranges.length := by
  induction ranges with
  | nil => rfl
  | cons range ranges ih =>
    simp only [List.map_cons, openCost, ih, OpenState.cost, OpenState.close, List.length_cons,
      List.length_nil]
    omega

namespace Build

theorem bytes_stateOf_le (b : Build (List Edge)) (edges : List Edge) :
    (b.stateOf edges).2.size.bytes ≤ b.size.bytes + (32 + 8 * edges.length) := by
  unfold stateOf
  dsimp only
  split
  · exact Nat.le_add_right _ _
  · simp only [Size.bytes_addSwitch]
    omega

theorem bytes_closeAll_le (final : Nat) (states : List OpenState) (b : Build (List Edge)) :
    (closeAll final states b).2.size.bytes ≤ b.size.bytes + openCost states := by
  induction states with
  | nil => exact Nat.le_add_right _ _
  | cons state rest ih =>
    have hstate := bytes_stateOf_le (closeAll final rest b).2
      (state.close (closeAll final rest b).1)
    rw [← state.cost_eq] at hstate
    rw [openCost]
    exact Nat.le_trans hstate (by omega)

/-- Each byte costs at most one state with one edge, now or when the state is closed. -/
theorem bytes_addForward_le (final : Nat) (states : List OpenState) (ranges : List ByteRange)
    (b : Build (List Edge)) :
    (addForward final states ranges b).2.size.bytes +
        openCost (addForward final states ranges b).1 ≤
      b.size.bytes + openCost states + 40 * ranges.length := by
  induction states generalizing ranges with
  | nil => simp [addForward]
  | cons state rest ih =>
    cases ranges with
    | nil => simp [addForward]
    | cons range ranges =>
      rw [addForward]
      split
      · have hrest := ih ranges
        simp only [openCost, List.length_cons]
        omega
      · have hclosed := bytes_closeAll_le final rest b
        have hstate := state.cost_eq (closeAll final rest b).1
        simp only [openCost, openCost_map, List.length_cons]
        simp only [OpenState.cost, OpenState.close, List.length_cons] at hstate ⊢
        omega

theorem bytes_foldl_addForward_le (final : Nat) (ranges : List (List ByteRange))
    (start : List OpenState × Build (List Edge)) :
    let last := ranges.foldl (fun x rs => addForward final x.1 rs x.2) start
    last.2.size.bytes + openCost last.1 ≤
      start.2.size.bytes + openCost start.1 + 40 * ranges.flatten.length := by
  induction ranges generalizing start with
  | nil => simp
  | cons rs ranges ih =>
    have hfirst := bytes_addForward_le final start.1 rs start.2
    have hrest := ih (addForward final start.1 rs start.2)
    simp only [List.foldl_cons, List.flatten_cons, List.length_append] at hrest ⊢
    omega

theorem bytes_stepBack_le (range : ByteRange) (target : Nat) (b : Build Edge) :
    (b.stepBack range target).2.size.bytes ≤ b.size.bytes + 32 := by
  unfold stepBack
  dsimp only
  split
  · exact Nat.le_add_right _ _
  · simp

theorem bytes_foldl_stepBack_le (ranges : List ByteRange) (start : Nat × Build Edge) :
    (ranges.foldl (fun x range => x.2.stepBack range x.1) start).2.size.bytes ≤
      start.2.size.bytes + 32 * ranges.length := by
  induction ranges generalizing start with
  | nil => exact Nat.le_refl _
  | cons range ranges ih =>
    have hfirst := bytes_stepBack_le range start.1 start.2
    have hrest := ih (start.2.stepBack range start.1)
    simp only [List.foldl_cons, List.length_cons]
    omega

theorem bytes_addBackward_le (final : Nat) (ranges : List ByteRange) (b : Build Edge) :
    (b.addBackward final ranges).size.bytes ≤ b.size.bytes + 32 * ranges.length + 4 := by
  simp only [addBackward, Size.bytes_addBranches]
  exact Nat.add_le_add_right (bytes_foldl_stepBack_le ranges (final, b)) 4

theorem bytes_foldl_addBackward_le (final : Nat) (ranges : List (List ByteRange))
    (b : Build Edge) :
    (ranges.foldl (fun b rs => b.addBackward final rs) b).size.bytes ≤
      b.size.bytes + 32 * ranges.flatten.length + 4 * ranges.length := by
  induction ranges generalizing b with
  | nil => exact Nat.le_refl _
  | cons rs ranges ih =>
    have hfirst := bytes_addBackward_le final rs b
    have hrest := ih (b.addBackward final rs)
    simp only [List.foldl_cons, List.flatten_cons, List.length_append, List.length_cons]
    omega

end Build

namespace Size

/-- What the characters of some ranges take, read in either direction. -/
def rangesCost (ranges : List (List ByteRange)) : Nat :=
  64 + 40 * ranges.flatten.length + 4 * ranges.length

theorem bytes_addForward_le (ranges : List (List ByteRange)) (s : Size) :
    (s.addForward ranges).bytes ≤ s.bytes + rangesCost ranges := by
  have hadded := Build.bytes_foldl_addForward_le s.states ranges
    ([⟨[], none⟩], ⟨s.addStates 1, .ofRoom 10000⟩)
  have hopen : openCost [⟨[], none⟩] = 32 := rfl
  refine Nat.le_trans (Build.bytes_closeAll_le _ _ _) (Nat.le_trans hadded ?_)
  simp only [hopen, bytes_addStates, rangesCost]
  omega

theorem bytes_addBackward_le (ranges : List (List ByteRange)) (s : Size) :
    (s.addBackward ranges).bytes ≤ s.bytes + rangesCost ranges := by
  refine Nat.le_trans (Build.bytes_foldl_addBackward_le _ _ _) ?_
  simp only [bytes_addStates, rangesCost]
  omega

end Size

/-! ## Forms -/

namespace Growth

/-- A part of a pattern adds at most so many bytes to any automaton. -/
def AddsAtMost (g : Growth) (n : Nat) : Prop := ∀ s, (g.add s).bytes ≤ s.bytes + n

variable {g h : Growth} {m n : Nat}

theorem AddsAtMost.mono (hg : g.AddsAtMost m) (hmn : m ≤ n) : g.AddsAtMost n :=
  fun s => Nat.le_trans (hg s) (Nat.add_le_add_left hmn _)

theorem addsAtMost_states (n : Nat) : (states n).AddsAtMost (32 * n) :=
  fun s => Nat.le_of_eq (Size.bytes_addStates n s)

theorem AddsAtMost.andThen (hg : g.AddsAtMost m) (hh : h.AddsAtMost n) :
    (g.andThen h).AddsAtMost (m + n + 4) := by
  intro s
  have hfirst := hg s
  have hsecond := hh (g.add s)
  have hlink := Size.bytes_link_le g.branches (h.add (g.add s))
  simp only [Growth.andThen]
  omega

theorem AddsAtMost.onceOrMore (hg : g.AddsAtMost n) : g.onceOrMore.AddsAtMost (n + 40) := by
  intro s
  have hbody := hg s
  have hlink := Size.bytes_link_le g.branches (((g.add s).addStates 1).addBranches 1)
  simp only [Size.bytes_addBranches, Size.bytes_addStates] at hlink
  simp only [Growth.onceOrMore]
  omega

theorem AddsAtMost.recorded (hg : g.AddsAtMost n) : g.recorded.AddsAtMost (n + 72) :=
  (((addsAtMost_states 1).andThen hg).andThen (addsAtMost_states 1)).mono (by omega)

/-- A set that is not in ASCII adds no more than its characters take byte by byte. -/
theorem addsAtMost_ofSet {set : CharSet} (hset : (set.ranges.all fun r => r.2 < 128) = false)
    (backward : Bool) : (ofSet backward set).AddsAtMost (Size.rangesCost set.byteRanges) := by
  intro s
  rw [ofSet, if_neg (by simp [hset])]
  cases backward with
  | false => exact Size.bytes_addForward_le _ s
  | true => exact Size.bytes_addBackward_le _ s

theorem addsAtMost_ofSequence {backward : Bool} {fs : List Form}
    (hfs : ∀ f ∈ fs, (ofForm backward f).AddsAtMost n) :
    (ofSequence backward fs).AddsAtMost ((n + 4) * fs.length + 32) := by
  induction fs with
  | nil => exact (addsAtMost_states 1).mono (by omega)
  | cons f fs ih =>
    have hfirst := hfs f List.mem_cons_self
    have hrest := ih fun f' hf' => hfs f' (List.mem_cons_of_mem _ hf')
    cases fs with
    | nil => exact hfirst.mono (by simp only [List.length_cons, List.length_nil]; omega)
    | cons f' fs =>
      simp only [ofSequence]
      rw [List.length_cons, Nat.mul_succ]
      split
      · exact (hrest.andThen hfirst).mono (by omega)
      · exact (hfirst.andThen hrest).mono (by omega)

end Growth

/-- The states around the form take 220 bytes at most. -/
theorem Form.fits_of_addsAtMost {f : Form} {n : Nat}
    (hf : ∀ backward, (Growth.ofForm backward f).AddsAtMost n) (hn : n + 220 ≤ maxSize) :
    f.fits := by
  have hautomaton (backward : Bool) : (f.automaton backward).bytes ≤ n + 220 := by
    have hgroup : (Growth.ofForm backward (.group 0 f)).AddsAtMost (n + 72) := by
      cases backward with
      | false => exact (hf false).recorded
      | true => exact (hf true).mono (Nat.le_add_right _ _)
    have hall (s : Size) := (hgroup.andThen (Growth.addsAtMost_states 1)) s
    unfold Form.automaton
    refine Nat.le_trans (hall _) ?_
    generalize (if backward then f.endsWith .endOfText else f.beginsWith .startOfText) = bound
    cases bound <;> simp [Size.bytes, Size.addSwitch, Size.addBranches] <;> omega
  have hexceeded (backward : Bool) : (f.automaton backward).isExceeded = false :=
    decide_eq_false (Nat.not_lt.mpr (Nat.le_trans (hautomaton backward) hn))
  simp [fits, hexceeded]

/-- What is read to its end is a pattern if it is within the limits. -/
theorem parse?_of_readParts {source : String} {s : Progress} (part : Part)
    (hread : readParts (source.toList.length + 1) ⟨.begin none .initial, [], [], 0⟩ source.toList =
      some s)
    (houter : s.outer = []) (hfinish : s.current.finish = part) (hdepth : part.depth ≤ maxDepth)
    (hfits : part.form.fits) : parse? source = some part.form.pattern := by
  subst hfinish
  have hclosed : (guard s.outer.isEmpty : Option Unit) = some () := if_pos (by simp [houter])
  have hlimits : (guard (s.current.finish.depth ≤ maxDepth ∧ s.current.finish.form.fits) :
      Option Unit) = some () := if_pos ⟨hdepth, hfits⟩
  unfold parse?
  dsimp only
  rw [hread, Option.bind_eq_bind, Option.bind_some, hclosed, hlimits]
  rfl

end ScreenLogic.Pattern
