import Mathlib.Logic.Relation
import ScopeScanner.Proofs.Scanner.Displacement

/-!
# Regions within regions

A region is opened inside another one only if its rule competes there. So from frame to frame the rules
on a stack lead from one to a rule that competes inside it (`Chained`), and a rule that is met twice on
a stack leads to itself.

If no rule that can begin with an empty match leads to itself (`Repository.Unnested`), no begin is ever
refused. Then the places where regions began make no difference, and stacks that agree in everything
else serve equally well, wherever the scans start (**`ScopeStack.TextCoupling.alike`**).
-/

namespace ScopeScanner

namespace Repository

variable (repository : Repository)

/-- A rule competes inside another one. -/
def Holds (outer inner : RuleId) : Prop :=
  ∃ id ∈ repository.flatten outer, ∃ rule, repository.rule? id = some rule ∧ rule.id = inner

/-- A rule can begin a region with an empty match. -/
def BeginsEmpty (id : RuleId) : Prop :=
  ∃ line p, repository.BeginsEmptyAt line id p

/-- No rule that can begin a region with an empty match may begin another one inside it, however many
regions lie between the two. -/
def Unnested : Prop :=
  ∀ id, repository.BeginsEmpty id → ¬ Relation.TransGen repository.Holds id id

/-- The rule of each region competes inside the frame below it. -/
def Chained (bottom : Frame) : List Frame → Prop
  | [] => True
  | frame :: rest => repository.Holds (rest.headD bottom).rule frame.rule ∧ Chained bottom rest

/-- Whether only rules with smaller numbers compete inside a rule. -/
def descends : Bool :=
  (List.range repository.rules.size).all fun outer => (repository.flatten outer).all fun id =>
    (repository.rule? id).all fun rule => rule.id < outer

variable {repository}

/-- Nothing competes inside a number that no rule has. -/
theorem flatten_of_size_le {id : RuleId} (h : repository.rules.size ≤ id) :
    repository.flatten id = [] := by
  rw [flatten, rule?, Array.getElem?_eq_none h, Option.elim_none, Flat.expand]
  rfl

/-- If the numbers only get smaller, no rule leads to itself. -/
theorem unnested_of_descends (h : repository.descends = true) : repository.Unnested := by
  have hless {outer inner : RuleId} (hholds : repository.Holds outer inner) : inner < outer := by
    obtain ⟨id, hid, rule, hrule, rfl⟩ := hholds
    have hbound : outer < repository.rules.size := by
      refine Nat.lt_of_not_le fun hge => ?_
      rw [flatten_of_size_le hge] at hid
      cases hid
    simp only [descends, List.all_eq_true, List.mem_range, Option.all_eq_true,
      decide_eq_true_eq] at h
    exact h outer hbound id hid rule hrule
  have hlead {outer inner : RuleId} (hleads : Relation.TransGen repository.Holds outer inner) :
      inner < outer := by
    induction hleads with
    | single hholds => exact hless hholds
    | tail _ hholds ih => exact Nat.lt_trans (hless hholds) ih
  exact fun id _ hleads => Nat.lt_irrefl _ (hlead hleads)

end Repository

namespace Repository.Chained

variable {repository : Repository} {bottom : Frame} {regions : List Frame}

/-- Every region leads to the innermost one. By induction on the regions above it. -/
theorem leads_top (h : repository.Chained bottom regions) {frame : Frame} (hmem : frame ∈ regions) :
    Relation.ReflTransGen repository.Holds frame.rule (regions.headD bottom).rule := by
  induction regions with
  | nil => cases hmem
  | cons top rest ih =>
    obtain ⟨hholds, hrest⟩ := h
    rcases List.mem_cons.mp hmem with rfl | hmem
    · exact .refl
    · exact (ih hrest hmem).tail hholds

/-- What leaves the rules of the frames alone keeps them chained. -/
theorem map (h : repository.Chained bottom regions) (change : Frame → Frame)
    (hrule : ∀ frame, (change frame).rule = frame.rule) :
    repository.Chained (change bottom) (regions.map change) := by
  induction regions with
  | nil => trivial
  | cons top rest ih =>
    obtain ⟨hholds, hrest⟩ := h
    refine ⟨?_, ih hrest⟩
    have hbelow : ((rest.map change).headD (change bottom)).rule = (rest.headD bottom).rule := by
      cases rest with
      | nil => exact hrule bottom
      | cons below others => exact hrule below
    rw [hbelow, hrule]
    exact hholds

end Repository.Chained

namespace ScopeStack

variable {repository : Repository}

/-- Two stacks that agree in everything but the places where their regions began, and whose rules lead
from frame to frame. -/
structure Alike (repository : Repository) (stack stack' : ScopeStack) : Prop where
  unplaced : stack.unplaced = stack'.unplaced
  chained : repository.Chained stack.bottom stack.regions
  chained' : repository.Chained stack'.bottom stack'.regions

/-- A stack without regions is like itself. -/
theorem Alike.fresh (repository : Repository) :
    Alike repository (ScopeStack.fresh repository) (ScopeStack.fresh repository) :=
  ⟨rfl, trivial, trivial⟩

/-- A rule on offer that can begin with an empty match has begun none of the open regions: it would
lead to itself. -/
theorem begunAt_of_chained (hunnested : repository.Unnested) {stack : ScopeStack}
    (hchained : repository.Chained stack.bottom stack.regions) {rule : Rule}
    (hoffers : repository.Offers stack rule) (hempty : repository.BeginsEmpty rule.id) (start : Nat) :
    begunAt stack.regions rule.id start = false := by
  apply begunAt_eq_false
  intro frame hmem hrule
  obtain ⟨id, hid, hlookup⟩ := hoffers
  have hholds : repository.Holds stack.top.rule rule.id := ⟨id, hid, rule, hlookup, rfl⟩
  have hleads := hchained.leads_top hmem
  rw [hrule] at hleads
  exact absurd (Relation.TransGen.tail' hleads hholds) (hunnested _ hempty)

/-- Two stacks that differ by the same frame, up to its place, are alike if its rule competes there. -/
theorem Alike.push {stack stack' : ScopeStack} (h : Alike repository stack stack') {rule : Rule}
    (hoffers : repository.Offers stack rule) {frame : Frame} (hrule : frame.rule = rule.id)
    (start start' : Nat) :
    Alike repository (stack.push { frame with start }) (stack'.push { frame with start := start' }) := by
  obtain ⟨id, hid, hlookup⟩ := hoffers
  have htop := congrArg top h.unplaced
  rw [unplaced_top, unplaced_top] at htop
  have hrules : stack.top.rule = stack'.top.rule := (Frame.mk.inj htop).1
  have hholds : repository.Holds stack.top.rule frame.rule :=
    ⟨id, hid, rule, hlookup, hrule.symm⟩
  obtain ⟨hbottom, hregions⟩ := ScopeStack.mk.inj h.unplaced
  refine ⟨?_, ⟨hholds, h.chained⟩, ⟨?_, h.chained'⟩⟩
  · simp only [ScopeStack.unplaced, ScopeStack.push, List.map_cons]
    rw [hbottom, hregions]
    rfl
  · show repository.Holds stack'.top.rule frame.rule
    rw [← hrules]
    exact hholds

/-- **Where nothing nests that begins empty, places make no difference.** Stacks that agree in
everything else serve for scans that start anywhere in their buffers. -/
theorem Coupling.alike (hunnested : repository.Unnested) (line : Line) (offset offset' : Nat) :
    Coupling repository line offset offset' (Alike repository) where
  unplaced := Alike.unplaced
  pop := by
    rintro ⟨bottom, regions⟩ ⟨bottom', regions'⟩ frame frame' rest rest' ⟨hunplaced, hchained, hchained'⟩
      hpop hpop'
    cases regions with
    | nil => cases hpop
    | cons top others =>
      cases regions' with
      | nil => cases hpop'
      | cons top' others' =>
        cases hpop
        cases hpop'
        obtain ⟨hbottom, hregions⟩ := ScopeStack.mk.inj hunplaced
        refine ⟨?_, hchained.2, hchained'.2⟩
        rw [ScopeStack.unplaced, ScopeStack.unplaced, hbottom, (List.cons.inj hregions).2]
  push := by
    intro stack stack' h rule hoffers frame p hrule
    exact h.push hoffers hrule _ _
  begun := by
    intro stack stack' h rule hoffers p hbegins
    have htop := congrArg top h.unplaced
    rw [unplaced_top, unplaced_top] at htop
    have hoffers' : repository.Offers stack' rule := by
      rw [Repository.Offers, ← (Frame.mk.inj htop).1]
      exact hoffers
    rw [begunAt_of_chained hunnested h.chained hoffers ⟨line, p, hbegins⟩,
      begunAt_of_chained hunnested h.chained' hoffers' ⟨line, p, hbegins⟩]

/-- The same from line to line of a text. -/
theorem TextCoupling.alike (hunnested : repository.Unnested) (text : List Char) (shift : Nat) :
    TextCoupling repository text shift (Alike repository) where
  line := fun _ => Coupling.alike hunnested _ _ _
  clearAnchors := by
    rintro ⟨bottom, regions⟩ ⟨bottom', regions'⟩ ⟨hunplaced, hchained, hchained'⟩
    let forget (frame : Frame) : Frame := { frame with parentAnchor := none }
    refine ⟨?_, hchained.map forget fun _ => rfl, hchained'.map forget fun _ => rfl⟩
    -- places and anchors may be forgotten in either order
    have hcleared := congrArg ScopeStack.clearAnchors hunplaced
    simp only [ScopeStack.clearAnchors, ScopeStack.unplaced, List.map_map] at hcleared ⊢
    exact hcleared

end ScopeStack

end ScopeScanner
