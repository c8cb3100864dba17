import Mathlib.Data.Finset.Card
import ScopeScanner.Proofs.Scanner.Simulation

/-!
# Regions begun in one place

A region whose begin is empty is refused where a region of the same rule has begun. So each further
region that begins in a place with an empty match is of a rule that has not begun there
(`Repository.begunIds_push`), and there are no more of them than region rules
(`Repository.begunIds_card_le`).
-/

namespace ScopeScanner

/-- Whether a rule is a region. -/
def Rule.isRegion (rule : Rule) : Bool :=
  match rule.kind with
  | .region _ => true
  | _ => false

/-- A region competes with its begin. -/
theorem Rule.pattern?_of_region {rule : Rule} {region : Region} (h : rule.kind = .region region) :
    rule.pattern? = some region.opening := by
  rw [pattern?, h]

/-- A region that begins is put on top of the stack, with its rule and its place. -/
theorem LineScan.entered_stack (scan : LineScan) (rule : Rule) (region : Region) (groups : Groups)
    (scene : Scene) :
    ∃ frame, (scan.entered rule region groups scene).stack = scene.stack.push frame ∧
      frame.rule = rule.id ∧ frame.start = scan.offset + groups.whole.start :=
  ⟨_, rfl, rfl, rfl⟩

/-- An empty begin that is not refused is of a rule that has not begun a region in its place. -/
theorem LineScan.begunAt_of_not_refused {scan : LineScan} {rule : Rule} {groups : Groups}
    {stack : ScopeStack} (hempty : groups.whole.isEmpty = true)
    (h : scan.refuses rule groups stack = false) :
    begunAt stack.regions rule.id (scan.offset + groups.whole.start) = false := by
  rw [refuses, hempty, Bool.true_and] at h
  exact h

namespace Repository

variable (repository : Repository)

/-- Number of region rules. -/
def regionCount : Nat :=
  repository.rules.toList.countP Rule.isRegion

/-- The numbers that regions are known by. -/
def regionIds : Finset RuleId :=
  ((repository.rules.toList.filter Rule.isRegion).map Rule.id).toFinset

/-- The numbers of the rules that have begun regions in a place, with nothing above them but regions
that have begun there too. -/
def begunIds (regions : List Frame) (start : Nat) : Finset RuleId :=
  repository.regionIds.filter fun id => begunAt regions id start = true

variable {repository}

theorem mem_rules {id : RuleId} {rule : Rule} (h : repository.rule? id = some rule) :
    rule ∈ repository.rules.toList :=
  Array.mem_toList_iff.mpr (Array.mem_of_getElem? h)

theorem id_mem_regionIds {id : RuleId} {rule : Rule} {region : Region}
    (hrule : repository.rule? id = some rule) (hkind : rule.kind = .region region) :
    rule.id ∈ repository.regionIds := by
  have hregion : rule.isRegion = true := by rw [Rule.isRegion, hkind]
  exact List.mem_toFinset.mpr (List.mem_map_of_mem (List.mem_filter.mpr ⟨mem_rules hrule, hregion⟩))

theorem regionIds_card_le : repository.regionIds.card ≤ repository.regionCount := by
  refine (List.toFinset_card_le _).trans ?_
  rw [List.length_map, regionCount, List.countP_eq_length_filter]

theorem begunIds_card_le (regions : List Frame) (start : Nat) :
    (repository.begunIds regions start).card ≤ repository.regionCount :=
  (Finset.card_filter_le _ _).trans regionIds_card_le

variable {regions : List Frame} {frame : Frame} {start : Nat}

/-- A region that begins in a place adds its rule to those that have begun there. -/
theorem begunIds_cons (hrule : frame.rule ∈ repository.regionIds) (hstart : frame.start = start) :
    repository.begunIds (frame :: regions) start =
      insert frame.rule (repository.begunIds regions start) := by
  ext id
  simp only [begunIds, Finset.mem_filter, Finset.mem_insert, begunAt_cons, hstart, decide_true,
    Bool.true_and, Bool.or_eq_true, decide_eq_true_eq]
  constructor
  · rintro ⟨hid, hbegun | hbegun⟩
    · exact Or.inl hbegun.symm
    · exact Or.inr ⟨hid, hbegun⟩
  · rintro (rfl | ⟨hid, hbegun⟩)
    · exact ⟨hrule, Or.inl rfl⟩
    · exact ⟨hid, Or.inr hbegun⟩

/-- A rule that has not begun in a place and begins there is one more. -/
theorem begunIds_push (hrule : frame.rule ∈ repository.regionIds) (hstart : frame.start = start)
    (hnew : begunAt regions frame.rule start = false) :
    (repository.begunIds (frame :: regions) start).card =
      (repository.begunIds regions start).card + 1 := by
  rw [begunIds_cons hrule hstart, Finset.card_insert_of_notMem]
  simp [begunIds, hnew]

/-- Ending the innermost region takes away its rule at most. -/
theorem begunIds_pop (frame : Frame) (regions : List Frame) (start : Nat) :
    (repository.begunIds (frame :: regions) start).card ≤
      (repository.begunIds regions start).card + 1 := by
  have hsubset : repository.begunIds (frame :: regions) start ⊆
      insert frame.rule (repository.begunIds regions start) := by
    intro id
    simp only [begunIds, Finset.mem_filter, Finset.mem_insert, begunAt_cons, Bool.and_eq_true,
      Bool.or_eq_true, decide_eq_true_eq]
    rintro ⟨hid, _, hbegun | hbegun⟩
    · exact Or.inl hbegun.symm
    · exact Or.inr ⟨hid, hbegun⟩
  exact (Finset.card_le_card hsubset).trans (Finset.card_insert_le _ _)

end Repository

end ScopeScanner
