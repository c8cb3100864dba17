import ScopeScanner.Pattern.Basic
import ScopeScanner.Proofs.Text.Boundary

/-!
# Where matches lie

A match does not lie before the search that finds it (`Pattern.Forward`) if the pattern is run by
automata that are framed (`Automaton.isFramed`): such an automaton notes the start of the whole match
first, its end last, and neither of them in between. This is how expressions are compiled once they have
been given a group for the whole match; it can be checked by looking at the steps.

* **`Automaton.search_forward`**: a framed automaton matches at or after the start of a search.
* **`Pattern.forward_of_isFramed`**: so do patterns, in bytes of a line.
-/

namespace ScopeScanner

namespace Regex

/-- Whether a step may stand inside the frame of so many steps: it goes on inside, and notes neither end
of the whole match. -/
def Step.isInner (size : Nat) : Step → Bool
  | .consume _ | .require _ => true
  | .mark slot => 1 < slot
  | .fork preferred other => 0 < preferred && preferred < size && (0 < other && other < size)
  | .jump target => 0 < target && target < size

/-- A span that does not start before some position, nor end before it starts. -/
structure SpanFrom (start : Nat) (span : Span) : Prop where
  start_le : start ≤ span.start
  start_le_stop : span.start ≤ span.stop

/-- What is known of a walk from `start` through a frame of so many steps. -/
structure Walk.Inside (size start : Nat) (walk : Walk) : Prop where
  start_le : start ≤ walk.pos
  started : 0 < walk.step → ∃ first, walk.marks.lookup 0 = some first ∧ start ≤ first ∧ first ≤ walk.pos
  stopped : size ≤ walk.step → ∃ span, walk.group? 0 = some span ∧ SpanFrom start span

namespace Walk.Inside

variable {size start : Nat} {walk : Walk}

/-- A walk that is about to start. -/
theorem begin (hsize : 0 < size) (start : Nat) : Inside size start { pos := start } where
  start_le := Nat.le_refl _
  started := fun hpos => absurd hpos (Nat.lt_irrefl 0)
  stopped := fun hge => absurd hge (Nat.not_le_of_lt hsize)

/-- A walk that goes on inside. -/
theorem go (h : Inside size start walk) (hinside : 0 < walk.step) {step pos : Nat}
    (hstep : step < size) (hpos : walk.pos ≤ pos) : Inside size start { walk with step, pos } where
  start_le := Nat.le_trans h.start_le hpos
  started := by
    intro _
    obtain ⟨first, hfirst, hle, hle'⟩ := h.started hinside
    exact ⟨first, hfirst, hle, Nat.le_trans hle' hpos⟩
  stopped := fun hge => absurd hge (Nat.not_le_of_lt hstep)

/-- A walk notes the start of the whole match. -/
theorem markStart (h : Inside size start walk) (hstep : walk.step + 1 < size) :
    Inside size start
      { walk with step := walk.step + 1, marks := (0, walk.pos) :: walk.marks } where
  start_le := h.start_le
  started := fun _ => ⟨walk.pos, rfl, h.start_le, Nat.le_refl _⟩
  stopped := fun hge => absurd hge (Nat.not_le_of_lt hstep)

/-- A walk notes an end of another group. -/
theorem markOther (h : Inside size start walk) (hinside : 0 < walk.step) {slot : Nat}
    (hslot : 1 < slot) (hstep : walk.step + 1 < size) :
    Inside size start
      { walk with step := walk.step + 1, marks := (slot, walk.pos) :: walk.marks } where
  start_le := h.start_le
  started := by
    intro _
    obtain ⟨first, hfirst, hle, hle'⟩ := h.started hinside
    have hother : (0 == slot) = false := beq_eq_false_iff_ne.mpr (by omega)
    exact ⟨first, by rw [List.lookup_cons, hother]; exact hfirst, hle, hle'⟩
  stopped := fun hge => absurd hge (Nat.not_le_of_lt hstep)

/-- A walk notes the end of the whole match. -/
theorem markStop (h : Inside size start walk) (hinside : 0 < walk.step) :
    Inside size start
      { walk with step := walk.step + 1, marks := (1, walk.pos) :: walk.marks } := by
  obtain ⟨first, hfirst, hle, hle'⟩ := h.started hinside
  refine ⟨h.start_le, fun _ => ⟨first, hfirst, hle, hle'⟩, fun _ => ⟨⟨first, walk.pos⟩, ?_, hle, hle'⟩⟩
  show (do
    let start ← walk.marks.lookup 0
    let stop ← some walk.pos
    return Span.mk start stop) = some _
  rw [hfirst]
  rfl

end Walk.Inside

namespace Automaton

variable {automaton : Automaton}

/-- Whether the automaton notes the start of the whole match first, its end last, and neither in
between. -/
def isFramed (automaton : Automaton) : Bool :=
  1 < automaton.steps.size && automaton.steps.toList.zipIdx.all fun (step, address) =>
    if address = 0 then step = .mark 0
    else if address + 1 = automaton.steps.size then step = .mark 1
    else step.isInner automaton.steps.size

theorem size_of_isFramed (h : automaton.isFramed = true) : 1 < automaton.steps.size := by
  rw [isFramed, Bool.and_eq_true] at h
  exact of_decide_eq_true h.1

/-- The steps of a framed automaton. -/
theorem step_of_isFramed (h : automaton.isFramed = true) {address : Nat} {step : Step}
    (hstep : automaton.steps[address]? = some step) :
    (address = 0 ∧ step = .mark 0) ∨
      0 < address ∧ ((address + 1 = automaton.steps.size ∧ step = .mark 1) ∨
        address + 1 < automaton.steps.size ∧ step.isInner automaton.steps.size = true) := by
  have hlt : address < automaton.steps.size := by
    rcases Nat.lt_or_ge address automaton.steps.size with hlt | hge
    · exact hlt
    · rw [Array.getElem?_eq_none hge] at hstep
      cases hstep
  rw [isFramed, Bool.and_eq_true] at h
  have hmem : (step, address) ∈ automaton.steps.toList.zipIdx := by
    rw [List.mem_zipIdx_iff_getElem?, Array.getElem?_toList]
    exact hstep
  have hfits : (if address = 0 then decide (step = .mark 0)
      else if address + 1 = automaton.steps.size then decide (step = .mark 1)
      else step.isInner automaton.steps.size) = true := List.all_eq_true.mp h.2 _ hmem
  split at hfits
  · next hzero => exact Or.inl ⟨hzero, of_decide_eq_true hfits⟩
  · next hne =>
    refine Or.inr ⟨Nat.pos_of_ne_zero hne, ?_⟩
    split at hfits
    · next hlast => exact Or.inl ⟨hlast, of_decide_eq_true hfits⟩
    · exact Or.inr ⟨by omega, hfits⟩

/-- A step of a framed automaton that notes nothing goes on inside. -/
theorem inner_of_isFramed (h : automaton.isFramed = true) {address : Nat} {step : Step}
    (hstep : automaton.steps[address]? = some step) (hnotes : ∀ slot, step ≠ .mark slot) :
    0 < address ∧ address + 1 < automaton.steps.size ∧
      step.isInner automaton.steps.size = true := by
  obtain ⟨_, hmark⟩ | ⟨hinside, ⟨_, hmark⟩ | hinner⟩ := step_of_isFramed h hstep
  · exact absurd hmark (hnotes 0)
  · exact absurd hmark (hnotes 1)
  · exact ⟨hinside, hinner⟩

/-- A step over a character goes one position on. -/
theorem pass?_ahead {input : Array Char} {limit : Nat} {set : CharSet} {pos next : Nat}
    (h : pass? input limit .ahead set pos = some next) : next = pos + 1 := by
  rw [pass?] at h
  split at h
  · cases h
  · split at h
    · split at h
      · exact (Option.some.inj h).symm
      · cases h
    · cases h

/-- Every walk that waits stays inside, so the walk that gets through has noted both ends of the whole
match. By induction on the fuel, with one case for each kind of step. -/
theorem follow_inside (hframed : automaton.isFramed = true) (input : Array Char) (limit fuel : Nat)
    (waiting : List Walk) (visited : Visited) {start : Nat}
    (h : ∀ walk ∈ waiting, walk.Inside automaton.steps.size start) {walk : Walk}
    (hfound : (automaton.follow input limit .ahead fuel waiting visited).1 = some walk) :
    ∃ span, walk.group? 0 = some span ∧ SpanFrom start span := by
  induction fuel generalizing waiting visited with
  | zero => cases hfound
  | succ fuel ih =>
    cases waiting with
    | nil => cases hfound
    | cons next waiting =>
      obtain ⟨hnext, hwaiting⟩ := List.forall_mem_cons.mp h
      cases hstep : automaton.steps[next.step]? with
      | none =>
        -- past the last step: the walk has got through
        simp only [follow, hstep] at hfound
        obtain rfl := Option.some.inj hfound
        exact hnext.stopped (Array.getElem?_eq_none_iff.mp hstep)
      | some step =>
        cases step with
        | consume set =>
          obtain ⟨hinside, hlt, _⟩ := inner_of_isFramed hframed hstep (by simp)
          simp only [follow, hstep] at hfound
          split at hfound
          · next pos hpass =>
            have hpos : next.pos ≤ pos := by rw [pass?_ahead hpass]; exact Nat.le_succ _
            exact ih _ _ (List.forall_mem_cons.mpr ⟨hnext.go hinside hlt hpos, hwaiting⟩) hfound
          · exact ih _ _ hwaiting hfound
        | require assertion =>
          obtain ⟨hinside, hlt, _⟩ := inner_of_isFramed hframed hstep (by simp)
          simp only [follow, hstep] at hfound
          split at hfound
          · exact ih _ _ (List.forall_mem_cons.mpr
              ⟨hnext.go hinside hlt (Nat.le_refl _), hwaiting⟩) hfound
          · exact ih _ _ hwaiting hfound
        | mark slot =>
          simp only [follow, hstep] at hfound
          refine ih _ _ (List.forall_mem_cons.mpr ⟨?_, hwaiting⟩) hfound
          -- the first step, the last one, or one in between
          obtain ⟨hzero, hmark⟩ | ⟨hinside, ⟨_, hmark⟩ | ⟨hlt, hinner⟩⟩ :=
            step_of_isFramed hframed hstep
          · injection hmark with hslot
            subst hslot
            exact hnext.markStart (by rw [hzero]; exact size_of_isFramed hframed)
          · injection hmark with hslot
            subst hslot
            exact hnext.markStop hinside
          · exact hnext.markOther hinside (of_decide_eq_true hinner) hlt
        | fork preferred other =>
          obtain ⟨hinside, _, hinner⟩ := inner_of_isFramed hframed hstep (by simp)
          simp only [Step.isInner, Bool.and_eq_true, decide_eq_true_eq] at hinner
          obtain ⟨⟨_, hpreferred⟩, _, hother⟩ := hinner
          simp only [follow, hstep] at hfound
          split at hfound
          · exact ih _ _ hwaiting hfound
          · -- both ways go on inside
            exact ih _ _ (List.forall_mem_cons.mpr
              ⟨hnext.go hinside hpreferred (Nat.le_refl _), List.forall_mem_cons.mpr
                ⟨hnext.go hinside hother (Nat.le_refl _), hwaiting⟩⟩) hfound
        | jump target =>
          obtain ⟨hinside, _, hinner⟩ := inner_of_isFramed hframed hstep (by simp)
          simp only [Step.isInner, Bool.and_eq_true, decide_eq_true_eq] at hinner
          simp only [follow, hstep] at hfound
          exact ih _ _ (List.forall_mem_cons.mpr
            ⟨hnext.go hinside hinner.2 (Nat.le_refl _), hwaiting⟩) hfound

/-- **Where a framed automaton matches**: at or after the position from which it searches. By induction on
the starts that are left to try. -/
theorem search_forward (hframed : automaton.isFramed = true) (input : Array Char) (start : Nat)
    {walk : Walk} (hfound : automaton.search input start = some walk) :
    ∃ span, walk.group? 0 = some span ∧ SpanFrom start span := by
  have htry (left from' : Nat) (visited : Visited)
      (hfound : automaton.searchFrom input left from' visited = some walk) :
      ∃ span, walk.group? 0 = some span ∧ SpanFrom from' span := by
    induction left generalizing from' visited with
    | zero => cases hfound
    | succ left ih =>
      rw [searchFrom] at hfound
      split at hfound
      · next walk' visited' hfollow =>
        obtain rfl := Option.some.inj hfound
        have hbegin := Walk.Inside.begin (Nat.lt_of_succ_lt (size_of_isFramed hframed)) from'
        refine follow_inside hframed input input.size (automaton.enough input) [{ pos := from' }]
          visited ?_ (by rw [hfollow])
        exact List.forall_mem_singleton.mpr hbegin
      · next visited' hfollow =>
        obtain ⟨span, hgroup, hstart, hstop⟩ := ih (from' + 1) visited' hfound
        exact ⟨span, hgroup, Nat.le_of_succ_le hstart, hstop⟩
  exact htry _ start _ hfound

end Automaton

/-- Whether a regular expression is run by a framed automaton. -/
def isFramed (regex : Regex) : Bool :=
  match regex.engine with
  | .automaton automaton => automaton.isFramed
  | .program _ => false

theorem search_forward {regex : Regex} (hframed : regex.isFramed = true) (input : Array Char)
    (start budget : Nat) {spans : List (Option Span)}
    (hfound : regex.search input start budget = .ok (some spans)) :
    ∃ span, spans.head? = some (some span) ∧ SpanFrom start span := by
  rw [isFramed] at hframed
  rw [search] at hfound
  cases hengine : regex.engine with
  | program program => rw [hengine] at hframed; cases hframed
  | automaton automaton =>
    rw [hengine] at hframed hfound
    obtain ⟨walk, hwalk, rfl⟩ := Option.map_eq_some_iff.mp (Except.ok.inj hfound)
    obtain ⟨span, hgroup, hspan⟩ := automaton.search_forward hframed input start hwalk
    refine ⟨span, ?_, hspan⟩
    rw [List.range_succ_eq_map, List.map_cons, List.head?_cons, hgroup]

end Regex

namespace Pattern

/-- Matches do not start before the search, nor end before they start. -/
def Forward (pattern : Pattern) : Prop :=
  ∀ line start atAnchor groups, start ≤ Line.size line →
    pattern.findAt line start atAnchor = .ok (some groups) →
      start ≤ groups.whole.start ∧ groups.whole.start ≤ groups.whole.stop

/-- Whether a pattern is run by framed automata. -/
def isFramed (pattern : Pattern) : Bool :=
  pattern.detached.isFramed && pattern.attached.all Regex.isFramed

theorem searchAt_forward {pattern : Pattern} {regex : Regex} (hframed : regex.isFramed = true)
    {line : Line} {first : Nat} {groups : Groups}
    (hfound : pattern.searchAt regex line first = .ok (some groups)) :
    line.offset first ≤ groups.whole.start ∧ groups.whole.start ≤ groups.whole.stop := by
  rw [searchAt] at hfound
  cases hsearch : regex.search line.chars first pattern.budget with
  | error fault => rw [hsearch] at hfound; cases hfound
  | ok found =>
    rw [hsearch] at hfound
    obtain ⟨spans, rfl, rfl⟩ := Option.map_eq_some_iff.mp (Except.ok.inj hfound)
    obtain ⟨span, hhead, hstart, hstop⟩ := Regex.search_forward hframed line.chars first _ hsearch
    obtain ⟨rest, rfl⟩ := List.head?_eq_some_iff.mp hhead
    exact ⟨line.offset_le hstart, line.offset_le hstop⟩

/-- **Where patterns match.** Patterns that are run by framed automata match at or after the position
from which they are searched, wherever their anchor is. -/
theorem forward_of_isFramed {pattern : Pattern} (h : pattern.isFramed = true) : pattern.Forward := by
  intro line start atAnchor groups hstart hfound
  rw [isFramed, Bool.and_eq_true] at h
  obtain ⟨hdetached, hattached⟩ := h
  -- the search starts from a character, which may lie further on than `start`
  have hfirst := line.le_offset_index hstart
  have hlater (hlater : findAt.later pattern line (line.index start) = .ok (some groups)) :
      start ≤ groups.whole.start ∧ groups.whole.start ≤ groups.whole.stop := by
    rw [findAt.later] at hlater
    split at hlater
    · obtain ⟨hstart, hstop⟩ := searchAt_forward hdetached hlater
      have hnext := line.offset_le (Nat.le_succ (line.index start))
      exact ⟨Nat.le_trans (Nat.le_trans hfirst hnext) hstart, hstop⟩
    · cases hlater
  rw [findAt] at hfound
  split at hfound
  · obtain ⟨hstart, hstop⟩ := searchAt_forward hdetached hfound
    exact ⟨Nat.le_trans hfirst hstart, hstop⟩
  · next attached hanchor =>
    have hframed : attached.isFramed = true := by
      split at hanchor
      · rw [hanchor] at hattached
        exact hattached
      · cases hanchor
    cases hsearch : pattern.searchAt attached line (line.index start) with
    | error fault => rw [hsearch] at hfound; cases hfound
    | ok found =>
      rw [hsearch] at hfound
      cases found with
      | none => exact hlater hfound
      | some found =>
        obtain ⟨hstart, hstop⟩ := searchAt_forward hframed hsearch
        replace hfound : (if found.whole.start = start then Except.ok (some found)
          else findAt.later pattern line (line.index start)) = .ok (some groups) := hfound
        split at hfound
        · obtain rfl := Option.some.inj (Except.ok.inj hfound)
          exact ⟨Nat.le_trans hfirst hstart, hstop⟩
        · exact hlater hfound

end Pattern

end ScopeScanner
