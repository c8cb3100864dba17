import Mathlib.Logic.Relation
import ScopeScanner.Proofs.Regex.Forward
import ScopeScanner.Proofs.Scanner.Step

/-!
# Which match wins

Candidates are tried one after the other, and the competition may end early. What comes out does not
depend on either: it is the match that is first by the place where it starts and, among matches that
start in one place, by the place of its candidate in the row (`IsFirst`).

* **`findNext_cons`**, **`findNext_append`**: the winner of a row is the earlier one of the winners
  of its parts (`Winner.earlier`), so a row may be cut anywhere.
* **`findNext_leftmost`**: a row without a winner has no matches; the winner is the first match;
  candidates may be tried in any order and to the end of the row; and it makes no difference whether
  candidates whose matches are not first are there.

All of this rests on searches that find nothing before the place where they start
(`Candidate.Forward`): that is why nothing later in the row can be better than a match that starts
right there.
-/

namespace ScopeScanner

/-! ## The earlier one of two matches -/

namespace Winner

/-- Where a match starts. -/
def start (winner : Winner) : Nat :=
  winner.groups.whole.start

/-- The match that starts earlier, the first one of two that start in one place. -/
def earlier : Option Winner → Option Winner → Option Winner
  | none, second => second
  | some first, none => some first
  | some first, some second => if second.start < first.start then some second else some first

@[simp] theorem earlier_none_left (second : Option Winner) : earlier none second = second := by
  cases second <;> rfl

@[simp] theorem earlier_none_right (first : Option Winner) : earlier first none = first := by
  cases first <;> rfl

theorem earlier_of_le {first second : Winner} (h : first.start ≤ second.start) :
    earlier (some first) (some second) = some first :=
  if_neg (Nat.not_lt.mpr h)

theorem earlier_of_lt {first second : Winner} (h : second.start < first.start) :
    earlier (some first) (some second) = some second :=
  if_pos h

theorem earlier_eq_none {first second : Option Winner} :
    earlier first second = none ↔ first = none ∧ second = none := by
  cases first with
  | none => simp
  | some first =>
    cases second with
    | none => simp
    | some second =>
      rw [earlier]
      split <;> simp

theorem earlier_assoc (first second third : Option Winner) :
    earlier (earlier first second) third = earlier first (earlier second third) := by
  cases first with
  | none => simp
  | some first =>
    cases second with
    | none => simp
    | some second =>
      cases third with
      | none => simp
      | some third =>
        by_cases hsecond : second.start < first.start <;>
          by_cases hthird : third.start < second.start <;>
            by_cases hboth : third.start < first.start <;>
              simp only [earlier, hsecond, hthird, hboth, if_true, if_false] <;> omega

end Winner

open Winner (earlier)

/-! ## Rows of candidates -/

section

variable (line : Line) (start : Nat) (atAnchor : Bool)

/-- A search for a candidate finds nothing before the place where it starts. -/
def Candidate.Forward (candidate : Candidate) : Prop :=
  ∀ groups, candidate.pattern.findAt line start atAnchor = .ok (some groups) →
    start ≤ groups.whole.start

/-- The candidate at an index of a row offers a match. -/
def OffersAt (candidates : List Candidate) (index : Nat) (winner : Winner) : Prop :=
  ∃ candidate, candidates[index]? = some candidate ∧ candidate.target = winner.target ∧
    candidate.pattern.findAt line start atAnchor = .ok (some winner.groups)

/-- The candidate at an index of a row offers the match that is first: every other one starts later,
or starts in the same place and belongs to a later candidate. -/
structure IsFirst (candidates : List Candidate) (index : Nat) (winner : Winner) : Prop where
  offers : OffersAt line start atAnchor candidates index winner
  least : ∀ index' winner', OffersAt line start atAnchor candidates index' winner' →
    winner.start < winner'.start ∨ winner.start = winner'.start ∧ index ≤ index'

/-- One row of candidates is another one without a candidate whose match, if it has one, is not
first. -/
structure LeavesOut (longer shorter : List Candidate) : Prop where
  forward : ∀ candidate ∈ longer, candidate.Forward line start atAnchor
  split : ∃ before candidate after, longer = before ++ candidate :: after ∧
    shorter = before ++ after ∧
    ∀ winner, ¬ IsFirst line start atAnchor longer before.length winner

/-- The better one of two matches with the indices of their candidates. -/
def better (first second : Nat × Winner) : Nat × Winner :=
  if second.2.start < first.2.start ∨ second.2.start = first.2.start ∧ second.1 < first.1 then second
  else first

/-- One more candidate is considered, with its index: its match is kept if it is better than the
best one so far. Nothing ends early, and the candidates may come in any order. -/
def consider (best : Option (Nat × Winner)) (candidate : Candidate × Nat) : Option (Nat × Winner) :=
  match candidate.1.match? line start atAnchor, best with
  | none, best => best
  | some winner, none => some (candidate.2, winner)
  | some winner, some best => some (better best (candidate.2, winner))

end

section

variable {line : Line} {start : Nat} {atAnchor : Bool} {candidates : List Candidate}

theorem Candidate.match?_eq_some_iff {candidate : Candidate} {winner : Winner} :
    candidate.match? line start atAnchor = some winner ↔ candidate.target = winner.target ∧
      candidate.pattern.findAt line start atAnchor = .ok (some winner.groups) := by
  refine ⟨Candidate.match?_eq_some, ?_⟩
  rintro ⟨htarget, hfound⟩
  rw [Candidate.match?, hfound, htarget]

/-- No match is offered where the search finds none or runs out of budget. -/
theorem Candidate.match?_eq_none_iff {candidate : Candidate} :
    candidate.match? line start atAnchor = none ↔
      candidate.pattern.findAt line start atAnchor = .ok none ∨
        ∃ fault, candidate.pattern.findAt line start atAnchor = .error fault := by
  rw [Candidate.match?]
  cases hfound : candidate.pattern.findAt line start atAnchor with
  | error fault => exact ⟨fun _ => Or.inr ⟨fault, rfl⟩, fun _ => rfl⟩
  | ok found => cases found <;> simp

theorem Candidate.Forward.start_le {candidate : Candidate}
    (h : candidate.Forward line start atAnchor) {winner : Winner}
    (hmatch : candidate.match? line start atAnchor = some winner) : start ≤ winner.start :=
  h _ (Candidate.match?_eq_some hmatch).2

theorem offersAt_iff {index : Nat} {winner : Winner} :
    OffersAt line start atAnchor candidates index winner ↔
      ∃ candidate, candidates[index]? = some candidate ∧
        candidate.match? line start atAnchor = some winner := by
  simp only [OffersAt, Candidate.match?_eq_some_iff]

/-! ## The winner of a row -/

/-- Nothing that follows is better than a match that starts where the search does. -/
theorem findAmong_of_start (h : ∀ candidate ∈ candidates, candidate.Forward line start atAnchor)
    {best : Winner} (hstart : best.start = start) :
    findAmong line start atAnchor candidates (some best) = some best := by
  induction candidates with
  | nil => rfl
  | cons candidate rest ih =>
    obtain ⟨hfirst, hrest⟩ := List.forall_mem_cons.mp h
    rw [findAmong]
    cases hmatch : candidate.match? line start atAnchor with
    | none => exact ih hrest
    | some found =>
      have hle : ¬ found.start < best.start := by
        have := hfirst.start_le hmatch
        omega
      exact (if_neg (fun hlt => hle (of_decide_eq_true hlt))).trans (ih hrest)

/-- **Ending early makes no difference**: the competition goes on with the better one of the match
of a candidate and the best match so far. -/
theorem findAmong_cons {candidate : Candidate}
    (h : ∀ other ∈ candidates, other.Forward line start atAnchor) (best : Option Winner) :
    findAmong line start atAnchor (candidate :: candidates) best =
      findAmong line start atAnchor candidates
        (earlier best (candidate.match? line start atAnchor)) := by
  rw [findAmong]
  cases hmatch : candidate.match? line start atAnchor with
  | none => rw [Winner.earlier_none_right]
  | some found =>
    have hgoesOn : (if found.start = start then some found
        else findAmong line start atAnchor candidates (some found)) =
          findAmong line start atAnchor candidates (some found) := by
      split
      · next hstart => exact (findAmong_of_start h hstart).symm
      · rfl
    cases best with
    | none => exact hgoesOn
    | some best =>
      by_cases hbetter : found.start < best.start
      · rw [Winner.earlier_of_lt hbetter]
        exact (if_pos (decide_eq_true hbetter)).trans hgoesOn
      · rw [Winner.earlier_of_le (Nat.le_of_not_lt hbetter)]
        exact if_neg fun hlt => hbetter (of_decide_eq_true hlt)

/-- The winner is the earliest match, all candidates being tried in the order of the row. -/
theorem findNext_eq_foldl (h : ∀ candidate ∈ candidates, candidate.Forward line start atAnchor) :
    findNext candidates line start atAnchor =
      (candidates.map (·.match? line start atAnchor)).foldl earlier none := by
  have hfold (best : Option Winner) : findAmong line start atAnchor candidates best =
      (candidates.map (·.match? line start atAnchor)).foldl earlier best := by
    induction candidates generalizing best with
    | nil => rfl
    | cons candidate rest ih =>
      have hrest := (List.forall_mem_cons.mp h).2
      rw [findAmong_cons hrest, ih hrest, List.map_cons, List.foldl_cons]
  exact hfold none

/-- The winner of two rows, one after the other, is the earlier one of their winners. -/
theorem findNext_append {candidates' : List Candidate}
    (h : ∀ candidate ∈ candidates ++ candidates', candidate.Forward line start atAnchor) :
    findNext (candidates ++ candidates') line start atAnchor =
      earlier (findNext candidates line start atAnchor)
        (findNext candidates' line start atAnchor) := by
  have : Std.Associative earlier := ⟨Winner.earlier_assoc⟩
  obtain ⟨hfirst, hsecond⟩ := List.forall_mem_append.mp h
  rw [findNext_eq_foldl h, findNext_eq_foldl hfirst, findNext_eq_foldl hsecond, List.map_append,
    List.foldl_append, ← @List.foldl_assoc _ earlier, Winner.earlier_none_right]

theorem findNext_cons {candidate : Candidate}
    (h : ∀ other ∈ candidate :: candidates, other.Forward line start atAnchor) :
    findNext (candidate :: candidates) line start atAnchor =
      earlier (candidate.match? line start atAnchor) (findNext candidates line start atAnchor) := by
  have hone := findNext_eq_foldl (List.forall_mem_singleton.mpr (List.forall_mem_cons.mp h).1)
  rw [List.map_singleton, List.foldl_cons, List.foldl_nil, Winner.earlier_none_left] at hone
  rw [← List.singleton_append, findNext_append h, hone]

/-! ## The match that is first -/

theorem offersAt_zero {candidate : Candidate} {winner : Winner} :
    OffersAt line start atAnchor (candidate :: candidates) 0 winner ↔
      candidate.match? line start atAnchor = some winner := by
  rw [offersAt_iff]
  simp

theorem offersAt_succ {candidate : Candidate} {index : Nat} {winner : Winner} :
    OffersAt line start atAnchor (candidate :: candidates) (index + 1) winner ↔
      OffersAt line start atAnchor candidates index winner :=
  Iff.rfl

/-- Only one match is first. -/
theorem IsFirst.unique {index index' : Nat} {winner winner' : Winner}
    (h : IsFirst line start atAnchor candidates index winner)
    (h' : IsFirst line start atAnchor candidates index' winner') :
    index = index' ∧ winner = winner' := by
  have hle := h.least _ _ h'.offers
  have hge := h'.least _ _ h.offers
  obtain rfl : index = index' := by omega
  obtain ⟨candidate, hcandidate, hmatch⟩ := offersAt_iff.mp h.offers
  obtain ⟨candidate', hcandidate', hmatch'⟩ := offersAt_iff.mp h'.offers
  obtain rfl := Option.some.inj (hcandidate.symm.trans hcandidate')
  exact ⟨rfl, Option.some.inj (hmatch.symm.trans hmatch')⟩

/-- The match of the first candidate is first if no other one starts earlier. -/
theorem IsFirst.head {candidate : Candidate} {winner : Winner}
    (hmatch : candidate.match? line start atAnchor = some winner)
    (hleast : ∀ index other, OffersAt line start atAnchor candidates index other →
      winner.start ≤ other.start) :
    IsFirst line start atAnchor (candidate :: candidates) 0 winner where
  offers := offersAt_zero.mpr hmatch
  least := by
    intro index other hoffers
    cases index with
    | zero =>
      obtain rfl := Option.some.inj (hmatch.symm.trans (offersAt_zero.mp hoffers))
      exact Or.inr ⟨rfl, Nat.le_refl 0⟩
    | succ index =>
      have hle := hleast index other (offersAt_succ.mp hoffers)
      rcases Nat.lt_or_eq_of_le hle with hlt | heq
      · exact Or.inl hlt
      · exact Or.inr ⟨heq, Nat.zero_le _⟩

/-- The match that is first stays so behind a candidate whose match, if it has one, starts later. -/
theorem IsFirst.tail {candidate : Candidate} {index : Nat} {winner : Winner}
    (h : IsFirst line start atAnchor candidates index winner)
    (hlater : ∀ other, candidate.match? line start atAnchor = some other →
      winner.start < other.start) :
    IsFirst line start atAnchor (candidate :: candidates) (index + 1) winner where
  offers := offersAt_succ.mpr h.offers
  least := by
    intro index' other hoffers
    cases index' with
    | zero => exact Or.inl (hlater other (offersAt_zero.mp hoffers))
    | succ index' =>
      rcases h.least index' other (offersAt_succ.mp hoffers) with hlt | ⟨heq, hle⟩
      · exact Or.inl hlt
      · exact Or.inr ⟨heq, Nat.succ_le_succ hle⟩

/-- Nothing wins exactly if nothing is offered. -/
theorem findNext_eq_none_iff (h : ∀ candidate ∈ candidates, candidate.Forward line start atAnchor) :
    findNext candidates line start atAnchor = none ↔
      ∀ candidate ∈ candidates, candidate.match? line start atAnchor = none := by
  induction candidates with
  | nil => exact ⟨fun _ _ hmem => (List.not_mem_nil hmem).elim, fun _ => rfl⟩
  | cons candidate rest ih =>
    rw [findNext_cons h, Winner.earlier_eq_none, ih (List.forall_mem_cons.mp h).2,
      List.forall_mem_cons]

/-- The winner of a row is first. By induction on the row. -/
theorem exists_isFirst (h : ∀ candidate ∈ candidates, candidate.Forward line start atAnchor)
    {winner : Winner} (hwins : findNext candidates line start atAnchor = some winner) :
    ∃ index, IsFirst line start atAnchor candidates index winner := by
  induction candidates generalizing winner with
  | nil => cases hwins
  | cons candidate rest ih =>
    have hrest := (List.forall_mem_cons.mp h).2
    rw [findNext_cons h] at hwins
    cases hlater : findNext rest line start atAnchor with
    | none =>
      -- the first candidate is the only one that offers a match
      rw [hlater, Winner.earlier_none_right] at hwins
      refine ⟨0, .head hwins ?_⟩
      intro index other hoffers
      obtain ⟨candidate', hget, hmatch⟩ := offersAt_iff.mp hoffers
      rw [(findNext_eq_none_iff hrest).mp hlater candidate' (List.mem_of_getElem? hget)] at hmatch
      cases hmatch
    | some later =>
      obtain ⟨index, hfirst⟩ := ih hrest hlater
      rw [hlater] at hwins
      cases hmatch : candidate.match? line start atAnchor with
      | none =>
        rw [hmatch, Winner.earlier_none_left] at hwins
        obtain rfl := Option.some.inj hwins
        exact ⟨index + 1, hfirst.tail fun other hother => by cases hmatch.symm.trans hother⟩
      | some found =>
        rw [hmatch] at hwins
        by_cases hlt : later.start < found.start
        · rw [Winner.earlier_of_lt hlt] at hwins
          obtain rfl := Option.some.inj hwins
          refine ⟨index + 1, hfirst.tail fun other hother => ?_⟩
          obtain rfl := Option.some.inj (hmatch.symm.trans hother)
          exact hlt
        · rw [Winner.earlier_of_le (Nat.le_of_not_lt hlt)] at hwins
          obtain rfl := Option.some.inj hwins
          refine ⟨0, .head hmatch fun index' other hoffers => ?_⟩
          have := hfirst.least index' other hoffers
          omega

/-- **The winner is the match that is first.** -/
theorem findNext_eq_some_iff (h : ∀ candidate ∈ candidates, candidate.Forward line start atAnchor)
    {winner : Winner} :
    findNext candidates line start atAnchor = some winner ↔
      ∃ index, IsFirst line start atAnchor candidates index winner := by
  refine ⟨exists_isFirst h, ?_⟩
  rintro ⟨index, hfirst⟩
  cases hwins : findNext candidates line start atAnchor with
  | none =>
    obtain ⟨candidate, hget, hmatch⟩ := offersAt_iff.mp hfirst.offers
    rw [(findNext_eq_none_iff h).mp hwins candidate (List.mem_of_getElem? hget)] at hmatch
    cases hmatch
  | some other =>
    obtain ⟨index', hother⟩ := exists_isFirst h hwins
    rw [(hfirst.unique hother).2]

/-- A match that is offered does not start before the one that wins. -/
theorem exists_findNext_of_match
    (h : ∀ candidate ∈ candidates, candidate.Forward line start atAnchor) {candidate : Candidate}
    {winner : Winner} (hmem : candidate ∈ candidates)
    (hmatch : candidate.match? line start atAnchor = some winner) :
    ∃ first, findNext candidates line start atAnchor = some first ∧ first.start ≤ winner.start := by
  cases hwins : findNext candidates line start atAnchor with
  | none =>
    rw [(findNext_eq_none_iff h).mp hwins candidate hmem] at hmatch
    cases hmatch
  | some first =>
    obtain ⟨index, hfirst⟩ := exists_isFirst h hwins
    obtain ⟨index', hget⟩ := List.mem_iff_getElem?.mp hmem
    have hleast := hfirst.least index' winner (offersAt_iff.mpr ⟨candidate, hget, hmatch⟩)
    exact ⟨first, rfl, by omega⟩

/-! ## Other orders -/

theorem better_comm {first second : Nat × Winner} (hne : first.1 ≠ second.1) :
    better first second = better second first := by
  unfold better
  split <;> split <;> first | rfl | omega

/-- Of three matches the same one is best, whichever two are compared first. -/
theorem better_right_comm (best : Nat × Winner) {first second : Nat × Winner}
    (hne : first.1 ≠ second.1) :
    better (better best first) second = better (better best second) first := by
  grind [better]

/-- Two candidates may be considered in either order. -/
theorem consider_comm (best : Option (Nat × Winner)) {first second : Candidate × Nat}
    (hne : first.2 ≠ second.2) :
    consider line start atAnchor (consider line start atAnchor best first) second =
      consider line start atAnchor (consider line start atAnchor best second) first := by
  cases hfirst : first.1.match? line start atAnchor with
  | none => simp only [consider, hfirst]
  | some found =>
    cases hsecond : second.1.match? line start atAnchor with
    | none => simp only [consider, hfirst, hsecond]
    | some found' =>
      simp only [consider, hfirst, hsecond]
      cases best with
      | none => exact congrArg some (better_comm hne)
      | some best => exact congrArg some (better_right_comm best hne)

/-- Considering one more candidate, which comes later in the row than the best one so far: on ties
it is passed over. -/
theorem consider_later {best : Option (Nat × Winner)} {next : Nat} (candidate : Candidate)
    (hbest : ∀ kept ∈ best, kept.1 < next) :
    (consider line start atAnchor best (candidate, next)).map (·.2) =
        earlier (best.map (·.2)) (candidate.match? line start atAnchor) ∧
      ∀ kept ∈ consider line start atAnchor best (candidate, next), kept.1 < next + 1 := by
  cases hmatch : candidate.match? line start atAnchor with
  | none =>
    simp only [consider, hmatch, Winner.earlier_none_right, true_and]
    exact fun kept hkept => Nat.lt_succ_of_lt (hbest kept hkept)
  | some found =>
    cases best with
    | none => simp [consider, hmatch]
    | some best =>
      have hlt := hbest best rfl
      simp only [consider, hmatch, better, Option.map_some, Option.mem_some, forall_eq']
      by_cases hbetter : found.start < best.2.start
      · rw [if_pos (Or.inl hbetter), Winner.earlier_of_lt hbetter]
        exact ⟨rfl, Nat.lt_succ_self next⟩
      · rw [if_neg (by omega), Winner.earlier_of_le (Nat.le_of_not_lt hbetter)]
        exact ⟨rfl, Nat.lt_succ_of_lt hlt⟩

/-- Considered in the order of the row, candidates compete as ever. By induction on the row. -/
theorem foldl_consider (candidates : List Candidate) (next : Nat) (best : Option (Nat × Winner))
    (hbest : ∀ kept ∈ best, kept.1 < next) :
    ((candidates.zipIdx next).foldl (consider line start atAnchor) best).map (·.2) =
      (candidates.map (·.match? line start atAnchor)).foldl earlier (best.map (·.2)) := by
  induction candidates generalizing next best with
  | nil => rfl
  | cons candidate rest ih =>
    obtain ⟨hmatch, hkept⟩ := consider_later candidate hbest
    rw [List.zipIdx_cons, List.foldl_cons, List.map_cons, List.foldl_cons, ih _ _ hkept, hmatch]

/-- **The order in which candidates are tried makes no difference.** -/
theorem foldl_consider_perm (h : ∀ candidate ∈ candidates, candidate.Forward line start atAnchor)
    {order : List (Candidate × Nat)} (horder : order.Perm candidates.zipIdx) :
    (order.foldl (consider line start atAnchor) none).map (·.2) =
      findNext candidates line start atAnchor := by
  have hrow : (candidates.zipIdx.foldl (consider line start atAnchor) none).map (·.2) =
      (candidates.map (·.match? line start atAnchor)).foldl earlier none :=
    foldl_consider candidates 0 none (by simp)
  rw [findNext_eq_foldl h]
  refine Eq.trans (congrArg _ (horder.foldl_eq' ?_ none)) hrow
  intro first hfirst second hsecond best
  by_cases hne : first.2 = second.2
  · -- an index belongs to one candidate only
    have hget := List.mem_zipIdx_iff_getElem?.mp (horder.mem_iff.mp hfirst)
    have hget' := List.mem_zipIdx_iff_getElem?.mp (horder.mem_iff.mp hsecond)
    rw [← hne, hget] at hget'
    rw [Prod.ext (Option.some.inj hget') hne]
  · exact consider_comm best hne

/-! ## Other rows -/

/-- The match of a candidate is first if all matches before it in the row start later and none
behind it starts earlier. -/
theorem IsFirst.middle {before after : List Candidate} {candidate : Candidate} {winner : Winner}
    (hmatch : candidate.match? line start atAnchor = some winner)
    (hbefore : ∀ other ∈ before, ∀ found, other.match? line start atAnchor = some found →
      winner.start < found.start)
    (hafter : ∀ other ∈ after, ∀ found, other.match? line start atAnchor = some found →
      winner.start ≤ found.start) :
    IsFirst line start atAnchor (before ++ candidate :: after) before.length winner := by
  induction before with
  | nil =>
    refine .head hmatch fun index found hoffers => ?_
    obtain ⟨other, hget, hfound⟩ := offersAt_iff.mp hoffers
    exact hafter other (List.mem_of_getElem? hget) found hfound
  | cons first rest ih =>
    obtain ⟨hfirst, hrest⟩ := List.forall_mem_cons.mp hbefore
    exact (ih hrest).tail hfirst

/-- **A candidate whose match is not first makes no difference.** -/
theorem LeavesOut.findNext_eq {longer shorter : List Candidate}
    (h : LeavesOut line start atAnchor longer shorter) :
    findNext shorter line start atAnchor = findNext longer line start atAnchor := by
  obtain ⟨before, candidate, after, rfl, rfl, hnot⟩ := h.split
  obtain ⟨hbefore, hmiddle⟩ := List.forall_mem_append.mp h.forward
  have hafter := (List.forall_mem_cons.mp hmiddle).2
  rw [findNext_append (List.forall_mem_append.mpr ⟨hbefore, hafter⟩), findNext_append h.forward,
    findNext_cons hmiddle]
  cases hmatch : candidate.match? line start atAnchor with
  | none => rw [Winner.earlier_none_left]
  | some found =>
    -- a match before it starts no later, or one behind it starts earlier
    by_cases hearlier : ∀ other ∈ before, ∀ winner,
        other.match? line start atAnchor = some winner → found.start < winner.start
    · by_cases hlater : ∀ other ∈ after, ∀ winner,
          other.match? line start atAnchor = some winner → found.start ≤ winner.start
      · exact absurd (.middle hmatch hearlier hlater) (hnot found)
      · simp only [Classical.not_forall, Nat.not_le] at hlater
        obtain ⟨other, hmem, winner, hother, hlt⟩ := hlater
        obtain ⟨first, hwins, hfirst⟩ := exists_findNext_of_match hafter hmem hother
        rw [hwins, Winner.earlier_of_lt (Nat.lt_of_le_of_lt hfirst hlt)]
    · simp only [Classical.not_forall, Nat.not_lt] at hearlier
      obtain ⟨other, hmem, winner, hother, hle⟩ := hearlier
      obtain ⟨first, hwins, hfirst⟩ := exists_findNext_of_match hbefore hmem hother
      rw [hwins, ← Winner.earlier_assoc, Winner.earlier_of_le (Nat.le_trans hfirst hle)]

/-- Nor do any number of such candidates, put in or left out. -/
theorem findNext_eq_of_eqvGen {candidates candidates' : List Candidate}
    (h : Relation.EqvGen (LeavesOut line start atAnchor) candidates candidates') :
    findNext candidates' line start atAnchor = findNext candidates line start atAnchor := by
  induction h with
  | rel _ _ hleaves => exact hleaves.findNext_eq
  | refl => rfl
  | symm _ _ _ ih => exact ih.symm
  | trans _ _ _ _ _ ih ih' => exact ih'.trans ih

/-- **The leftmost match wins, the first candidate on ties.** Nothing wins exactly if every search
finds nothing or runs out of budget. Else the winner is the match that is first by where it starts
and then by the index of its candidate. Candidates may be tried in any order, and to the end of the
row. Candidates whose matches are not first may be put in, repeated or left out, any number of
times. -/
theorem findNext_leftmost (h : ∀ candidate ∈ candidates, candidate.Forward line start atAnchor) :
    (findNext candidates line start atAnchor = none ↔
      ∀ candidate ∈ candidates, candidate.pattern.findAt line start atAnchor = .ok none ∨
        ∃ fault, candidate.pattern.findAt line start atAnchor = .error fault) ∧
    (∀ winner, findNext candidates line start atAnchor = some winner ↔
      ∃ index, IsFirst line start atAnchor candidates index winner) ∧
    (∀ order : List (Candidate × Nat), order.Perm candidates.zipIdx →
      (order.foldl (consider line start atAnchor) none).map (·.2) =
        findNext candidates line start atAnchor) ∧
    ∀ candidates', Relation.EqvGen (LeavesOut line start atAnchor) candidates candidates' →
      findNext candidates' line start atAnchor = findNext candidates line start atAnchor := by
  refine ⟨?_, fun winner => findNext_eq_some_iff h, fun order => foldl_consider_perm h,
    fun candidates' => findNext_eq_of_eqvGen⟩
  rw [findNext_eq_none_iff h]
  exact forall₂_congr fun candidate _ => Candidate.match?_eq_none_iff

/-- A rule for `b`, the end of a region at `a` or `b`, and a rule for `a`. -/
def letterCandidates : List Candidate :=
  [(.rule 0, "b"), (.regionEnd, "[ab]"), (.rule 1, "a")].filterMap
    fun (target, source) => (Pattern.compile source 1000).toOption.map ({ target, pattern := · })

/-- The end of the region ties with the rule behind it and wins, in whatever order the three are
tried; the rule before it matches later. -/
theorem findNext_leftmost_letters :
    letterCandidates.map (·.target) = [.rule 0, .regionEnd, .rule 1] ∧
      (∀ candidate ∈ letterCandidates, candidate.Forward (Line.ofString "xab") 0 false) ∧
      findNext letterCandidates (Line.ofString "xab") 0 false =
        some ⟨.regionEnd, ⟨[some ⟨1, 2⟩]⟩⟩ ∧
      (∃ index, IsFirst (Line.ofString "xab") 0 false letterCandidates index
        ⟨.regionEnd, ⟨[some ⟨1, 2⟩]⟩⟩) ∧
      (letterCandidates.zipIdx.reverse.foldl (consider (Line.ofString "xab") 0 false) none).map (·.2) =
        some ⟨.regionEnd, ⟨[some ⟨1, 2⟩]⟩⟩ := by
  have htargets : letterCandidates.map (·.target) = [.rule 0, .regionEnd, .rule 1] := by
    decide +kernel
  have hframed : letterCandidates.all (·.pattern.isFramed) = true := by decide +kernel
  have hforward : ∀ candidate ∈ letterCandidates,
      candidate.Forward (Line.ofString "xab") 0 false := by
    intro candidate hmem groups hfound
    have hpattern := Pattern.forward_of_isFramed (List.all_eq_true.mp hframed candidate hmem)
    exact (hpattern _ _ _ _ (Nat.zero_le _) hfound).1
  have hwins : findNext letterCandidates (Line.ofString "xab") 0 false =
      some ⟨.regionEnd, ⟨[some ⟨1, 2⟩]⟩⟩ := by decide +kernel
  obtain ⟨_, hfirst, horder, _⟩ := findNext_leftmost hforward
  exact ⟨htargets, hforward, hwins, (hfirst _).mp hwins,
    (horder _ (List.reverse_perm _)).trans hwins⟩

end

end ScopeScanner
