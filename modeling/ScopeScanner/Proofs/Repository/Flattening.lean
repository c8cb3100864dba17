import Mathlib.Data.Finset.Card
import ScopeScanner.Proofs.Repository.Numbering
import ScopeScanner.Proofs.Repository.References
import ScopeScanner.Proofs.Scanner.Learning

/-!
# What flattening lists

Flattening walks through groups and links, whatever cycles they form, and enters each of them once.
The walk is first said without a bound on its levels (`Flat.Collects`); the bound that the program
walks with is never met, because every level enters a rule that has not been entered
(`Flat.expand_collects`).

A group or link that is skipped may be one whose list is still being walked. So what has been
collected when a list is done need not be complete: what can be said is that the rules it leads to
are collected or entered (`Flat.Collects.covers`), and that the lists of those entered meanwhile
have been walked (`Flat.Collects.closes`). That is enough for the walk as a whole. If nothing leads
back to itself, a skipped group or link has been walked to its end, and skipping it leaves out what
has been collected before (`Flat.Collects.expansion`).

* **`Repository.flatten_complete`**: the list of a rule holds the rules that can be reached from it,
  and without cycles it is the plain expansion of the list, but for repetitions.
-/

namespace ScopeScanner

/-- Whether a rule stands for the rules of a list: a group, or a link. -/
def Rule.isContainer (rule : Rule) : Bool :=
  match rule.kind with
  | .group _ | .link _ => true
  | .simple _ _ | .region _ => false

/-! ## Repetitions -/

/-- What comes after two lists loses the same repetitions, if the lists agree but for theirs. -/
theorem eraseDups_append_congr {α : Type} [BEq α] [LawfulBEq α] {first first' : List α}
    (h : first.eraseDups = first'.eraseDups) (second : List α) :
    (first ++ second).eraseDups = (first' ++ second).eraseDups := by
  have hmem (a : α) : a ∈ first ↔ a ∈ first' := by
    rw [← List.mem_eraseDups, h, List.mem_eraseDups]
  rw [List.eraseDups_append, List.eraseDups_append, h]
  congr 2
  refine List.filter_congr fun a _ => ?_
  rw [Bool.not_inj_iff, Bool.eq_iff_iff, List.elem_iff, List.elem_iff]
  exact hmem a

/-- What has come before is a repetition. -/
theorem eraseDups_append_of_subset {α : Type} [BEq α] [LawfulBEq α] {first second : List α}
    (h : ∀ a ∈ second, a ∈ first) : (first ++ second).eraseDups = first.eraseDups := by
  have hnone : second.removeAll first = [] := by
    refine List.filter_eq_nil_iff.mpr fun a ha => ?_
    simpa using h a ha
  rw [List.eraseDups_append, hnone, List.eraseDups_nil, List.append_nil]

/-! ## Rules that a list leads to -/

namespace Repository

variable {repository : Repository} {references references' : List RuleRef}

/-- A rule that a list leads to: by a reference in the list, or by one in the list of a group or
link that the list leads to. -/
inductive Reachable (repository : Repository) (references : List RuleRef) : Rule → Prop where
  | listed {reference : RuleRef} {rule : Rule} (hmem : reference ∈ references)
      (hrule : repository.lookup? reference = some rule) : Reachable repository references rule
  | inside {container : Rule} {reference : RuleRef} {rule : Rule}
      (hcontainer : Reachable repository references container)
      (hkind : container.isContainer = true) (hmem : reference ∈ container.references)
      (hrule : repository.lookup? reference = some rule) : Reachable repository references rule

namespace Reachable

theorem mono (h : ∀ reference ∈ references, reference ∈ references') {rule : Rule}
    (hrule : repository.Reachable references rule) : repository.Reachable references' rule := by
  induction hrule with
  | listed hmem hlookup => exact .listed (h _ hmem) hlookup
  | inside _ hkind hmem hlookup ih => exact .inside ih hkind hmem hlookup

theorem tail {reference : RuleRef} {rule : Rule} (h : repository.Reachable references rule) :
    repository.Reachable (reference :: references) rule :=
  h.mono fun _ => List.mem_cons_of_mem reference

theorem head {reference : RuleRef} {rule : Rule} (h : repository.lookup? reference = some rule) :
    repository.Reachable (reference :: references) rule :=
  .listed List.mem_cons_self h

/-- What the list of a group or link leads to is reached wherever that one is. -/
theorem trans {container rule : Rule} (h : repository.Reachable references container)
    (hkind : container.isContainer = true)
    (hrule : repository.Reachable container.references rule) :
    repository.Reachable references rule := by
  induction hrule with
  | listed hmem hlookup => exact .inside h hkind hmem hlookup
  | inside _ hkind' hmem hlookup ih => exact .inside ih hkind' hmem hlookup

end Reachable

/-- What a reference leads to is found under its own number. -/
theorem rule?_id_of_lookup? (hnumbered : Compile.Numbered repository.rules) {reference : RuleRef}
    {rule : Rule} (h : repository.lookup? reference = some rule) :
    repository.rule? rule.id = some rule := by
  obtain ⟨id, hid⟩ := rule?_of_lookup? h
  rw [hnumbered id rule hid]
  exact hid

theorem Reachable.rule?_id (hnumbered : Compile.Numbered repository.rules) {rule : Rule}
    (h : repository.Reachable references rule) : repository.rule? rule.id = some rule := by
  cases h with
  | listed _ hlookup => exact rule?_id_of_lookup? hnumbered hlookup
  | inside _ _ _ hlookup => exact rule?_id_of_lookup? hnumbered hlookup

/-- Rules with one number are one rule. -/
theorem eq_of_id_eq {rule rule' : Rule} (hrule : repository.rule? rule.id = some rule)
    (hrule' : repository.rule? rule'.id = some rule') (h : rule.id = rule'.id) : rule = rule' := by
  rw [h, hrule'] at hrule
  exact (Option.some.inj hrule).symm

/-! ## Plain expansion -/

/-- Expanding a list in place: a simple rule or region stands for itself, a group or link for what
its list expands to, each time it is met, and a reference that does not resolve for nothing. -/
inductive Unfolds (repository : Repository) : List RuleRef → List RuleId → Prop where
  | nil : Unfolds repository [] []
  | unresolved {reference : RuleRef} {rest : List RuleRef} {expansion : List RuleId}
      (hnone : repository.lookup? reference = none) (hrest : Unfolds repository rest expansion) :
      Unfolds repository (reference :: rest) expansion
  | plain {reference : RuleRef} {rule : Rule} {rest : List RuleRef} {expansion : List RuleId}
      (hrule : repository.lookup? reference = some rule) (hkind : rule.isContainer = false)
      (hrest : Unfolds repository rest expansion) :
      Unfolds repository (reference :: rest) (rule.id :: expansion)
  | container {reference : RuleRef} {rule : Rule} {rest : List RuleRef}
      {inner expansion : List RuleId} (hrule : repository.lookup? reference = some rule)
      (hkind : rule.isContainer = true) (hinner : Unfolds repository rule.references inner)
      (hrest : Unfolds repository rest expansion) :
      Unfolds repository (reference :: rest) (inner ++ expansion)

namespace Unfolds

/-- A list has one expansion at most. -/
theorem unique {expansion expansion' : List RuleId} (h : repository.Unfolds references expansion)
    (h' : repository.Unfolds references expansion') : expansion = expansion' := by
  induction h generalizing expansion' with
  | nil => cases h'; rfl
  | unresolved hnone _ ih =>
    cases h' with
    | unresolved _ hrest => exact ih hrest
    | plain hrule => rw [hnone] at hrule; cases hrule
    | container hrule => rw [hnone] at hrule; cases hrule
  | plain hrule hkind _ ih =>
    cases h' with
    | unresolved hnone => rw [hnone] at hrule; cases hrule
    | plain hrule' _ hrest =>
      obtain rfl := Option.some.inj (hrule.symm.trans hrule')
      rw [ih hrest]
    | container hrule' hkind' =>
      obtain rfl := Option.some.inj (hrule.symm.trans hrule')
      rw [hkind] at hkind'
      cases hkind'
  | container hrule hkind _ _ ihInner ih =>
    cases h' with
    | unresolved hnone => rw [hnone] at hrule; cases hrule
    | plain hrule' hkind' =>
      obtain rfl := Option.some.inj (hrule.symm.trans hrule')
      rw [hkind] at hkind'
      cases hkind'
    | container hrule' _ hinner hrest =>
      obtain rfl := Option.some.inj (hrule.symm.trans hrule')
      rw [ihInner hinner, ih hrest]

/-- A group or link in a list is expanded with the list. -/
theorem of_mem {expansion : List RuleId} (h : repository.Unfolds references expansion)
    {reference : RuleRef} (hmem : reference ∈ references) {container : Rule}
    (hcontainer : repository.lookup? reference = some container)
    (hkind : container.isContainer = true) :
    ∃ inner, repository.Unfolds container.references inner ∧ ∀ id ∈ inner, id ∈ expansion := by
  induction h with
  | nil => cases hmem
  | unresolved hnone _ ih =>
    rcases List.mem_cons.mp hmem with rfl | hmem
    · rw [hnone] at hcontainer
      cases hcontainer
    · exact ih hmem
  | plain hrule hplain _ ih =>
    rcases List.mem_cons.mp hmem with rfl | hmem
    · obtain rfl := Option.some.inj (hrule.symm.trans hcontainer)
      rw [hplain] at hkind
      cases hkind
    · obtain ⟨inner, hinner, hsubset⟩ := ih hmem
      exact ⟨inner, hinner, fun id hid => List.mem_cons_of_mem _ (hsubset id hid)⟩
  | container hrule _ hinner _ _ ih =>
    rcases List.mem_cons.mp hmem with rfl | hmem
    · obtain rfl := Option.some.inj (hrule.symm.trans hcontainer)
      exact ⟨_, hinner, fun id => List.mem_append_left _⟩
    · obtain ⟨inner, hinner, hsubset⟩ := ih hmem
      exact ⟨inner, hinner, fun id hid => List.mem_append_right _ (hsubset id hid)⟩

/-- A group or link that a list leads to is expanded with the list. -/
theorem of_reachable {expansion : List RuleId} (h : repository.Unfolds references expansion)
    {container : Rule} (hcontainer : repository.Reachable references container)
    (hkind : container.isContainer = true) :
    ∃ inner, repository.Unfolds container.references inner ∧ ∀ id ∈ inner, id ∈ expansion := by
  induction hcontainer with
  | listed hmem hlookup => exact h.of_mem hmem hlookup hkind
  | inside _ houter hmem hlookup ih =>
    obtain ⟨outer, hunfolds, hsubset⟩ := ih houter
    obtain ⟨inner, hinner, hsubset'⟩ := hunfolds.of_mem hmem hlookup hkind
    exact ⟨inner, hinner, fun id hid => hsubset id (hsubset' id hid)⟩

end Unfolds

end Repository

/-! ## The walk -/

namespace Flat

open Repository (Reachable Unfolds rule?_id_of_lookup? eq_of_id_eq)

variable {repository : Repository} {references : List RuleRef} {flat flat' : Flat}

/-- One more simple rule or region has been met. -/
def collect (flat : Flat) (id : RuleId) : Flat := { flat with rules := id :: flat.rules }

/-- One more group or link has been entered. -/
def enter (flat : Flat) (id : RuleId) : Flat := { flat with entered := id :: flat.entered }

/-- What the walk has come upon: groups and links, or else the other rules. -/
def seen (flat : Flat) (containers : Bool) : List RuleId :=
  if containers then flat.entered else flat.rules

theorem mem_seen_collect {containers : Bool} {id other : RuleId} :
    id ∈ (flat.collect other).seen containers ↔
      (id = other ∧ containers = false) ∨ id ∈ flat.seen containers := by
  cases containers <;> simp [seen, collect]

theorem mem_seen_enter {containers : Bool} {id other : RuleId} :
    id ∈ (flat.enter other).seen containers ↔
      (id = other ∧ containers = true) ∨ id ∈ flat.seen containers := by
  cases containers <;> simp [seen, enter]

/-- Walking a list, without a bound on the levels: the list of a group or link is walked in its
place, unless it has been entered before. -/
inductive Collects (repository : Repository) : List RuleRef → Flat → Flat → Prop where
  | nil (flat : Flat) : Collects repository [] flat flat
  | unresolved {reference : RuleRef} {rest : List RuleRef} {flat flat' : Flat}
      (hnone : repository.lookup? reference = none) (hrest : Collects repository rest flat flat') :
      Collects repository (reference :: rest) flat flat'
  | plain {reference : RuleRef} {rule : Rule} {rest : List RuleRef} {flat flat' : Flat}
      (hrule : repository.lookup? reference = some rule) (hkind : rule.isContainer = false)
      (hrest : Collects repository rest (flat.collect rule.id) flat') :
      Collects repository (reference :: rest) flat flat'
  | skipped {reference : RuleRef} {rule : Rule} {rest : List RuleRef} {flat flat' : Flat}
      (hrule : repository.lookup? reference = some rule) (hkind : rule.isContainer = true)
      (hentered : rule.id ∈ flat.entered) (hrest : Collects repository rest flat flat') :
      Collects repository (reference :: rest) flat flat'
  | entered {reference : RuleRef} {rule : Rule} {rest : List RuleRef} {flat flat' flat'' : Flat}
      (hrule : repository.lookup? reference = some rule) (hkind : rule.isContainer = true)
      (hnew : rule.id ∉ flat.entered)
      (hinner : Collects repository rule.references (flat.enter rule.id) flat')
      (hrest : Collects repository rest flat' flat'') :
      Collects repository (reference :: rest) flat flat''

namespace Collects

/-- A walk has one outcome at most. -/
theorem unique {flat'' : Flat} (h : Collects repository references flat flat')
    (h' : Collects repository references flat flat'') : flat' = flat'' := by
  induction h generalizing flat'' with
  | nil => cases h'; rfl
  | unresolved hnone _ ih =>
    cases h' with
    | unresolved _ hrest => exact ih hrest
    | plain hrule | skipped hrule | entered hrule => rw [hnone] at hrule; cases hrule
  | plain hrule hkind _ ih =>
    cases h' with
    | unresolved hnone => rw [hnone] at hrule; cases hrule
    | plain hrule' _ hrest =>
      obtain rfl := Option.some.inj (hrule.symm.trans hrule')
      exact ih hrest
    | skipped hrule' hkind' | entered hrule' hkind' =>
      obtain rfl := Option.some.inj (hrule.symm.trans hrule')
      rw [hkind] at hkind'
      cases hkind'
  | skipped hrule hkind hentered _ ih =>
    cases h' with
    | unresolved hnone => rw [hnone] at hrule; cases hrule
    | plain hrule' hkind' =>
      obtain rfl := Option.some.inj (hrule.symm.trans hrule')
      rw [hkind] at hkind'
      cases hkind'
    | skipped _ _ _ hrest => exact ih hrest
    | entered hrule' _ hnew =>
      obtain rfl := Option.some.inj (hrule.symm.trans hrule')
      exact absurd hentered hnew
  | entered hrule hkind hnew _ _ ihInner ih =>
    cases h' with
    | unresolved hnone => rw [hnone] at hrule; cases hrule
    | plain hrule' hkind' =>
      obtain rfl := Option.some.inj (hrule.symm.trans hrule')
      rw [hkind] at hkind'
      cases hkind'
    | skipped hrule' _ hentered =>
      obtain rfl := Option.some.inj (hrule.symm.trans hrule')
      exact absurd hentered hnew
    | entered hrule' _ _ hinner hrest =>
      obtain rfl := Option.some.inj (hrule.symm.trans hrule')
      obtain rfl := ihInner hinner
      exact ih hrest

/-- What the walk has come upon stays so. -/
theorem seen_mono (h : Collects repository references flat flat') (containers : Bool) :
    ∀ id ∈ flat.seen containers, id ∈ flat'.seen containers := by
  induction h with
  | nil => exact fun _ hid => hid
  | unresolved _ _ ih | skipped _ _ _ _ ih => exact ih
  | plain _ _ _ ih => exact fun id hid => ih id (mem_seen_collect.mpr (.inr hid))
  | entered _ _ _ _ _ ihInner ih =>
    exact fun id hid => ih id (ihInner id (mem_seen_enter.mpr (.inr hid)))

end Collects

/-! ### The bound on the levels -/

/-- Number of rules of the row that have not been entered. -/
def unentered (repository : Repository) (flat : Flat) : Nat :=
  (Finset.range repository.rules.size \ flat.entered.toFinset).card

theorem unentered_le_of_subset (h : ∀ id ∈ flat.entered, id ∈ flat'.entered) :
    flat'.unentered repository ≤ flat.unentered repository := by
  refine Finset.card_le_card (Finset.sdiff_subset_sdiff (Finset.Subset.refl _) fun id hid => ?_)
  rw [List.mem_toFinset] at hid ⊢
  exact h id hid

/-- Entering a rule of the row leaves fewer to enter. -/
theorem unentered_enter_lt {rule : Rule} (hrule : repository.rule? rule.id = some rule)
    (hnew : rule.id ∉ flat.entered) :
    (flat.enter rule.id).unentered repository < flat.unentered repository := by
  have hsubset : ∀ id ∈ flat.entered, id ∈ (flat.enter rule.id).entered :=
    fun id => List.mem_cons_of_mem rule.id
  refine Finset.card_lt_card (Finset.ssubset_iff_subset_ne.mpr ⟨?_, ?_⟩)
  · refine Finset.sdiff_subset_sdiff (Finset.Subset.refl _) fun id hid => ?_
    rw [List.mem_toFinset] at hid ⊢
    exact hsubset id hid
  · intro heq
    obtain ⟨hlt, _⟩ := Array.getElem?_eq_some_iff.mp hrule
    have hmem : rule.id ∈ Finset.range repository.rules.size \ flat.entered.toFinset := by
      rw [Finset.mem_sdiff, Finset.mem_range, List.mem_toFinset]
      exact ⟨hlt, hnew⟩
    rw [← heq, Finset.mem_sdiff, List.mem_toFinset] at hmem
    exact hmem.2 List.mem_cons_self

/-- What is in front of a list is seen to first. -/
theorem expand_cons (fuel : Nat) (reference : RuleRef) (rest : List RuleRef) (flat : Flat) :
    expand repository (fuel + 1) (reference :: rest) flat =
      expand repository (fuel + 1) rest (match repository.lookup? reference with
        | none => flat
        | some rule =>
          if rule.isContainer then
            if rule.id ∈ flat.entered then flat
            else expand repository fuel rule.references (flat.enter rule.id)
          else flat.collect rule.id) := by
  rw [expand, expand, List.foldl_cons]
  congr 1
  cases repository.lookup? reference with
  | none => rfl
  | some rule =>
    unfold Rule.isContainer Rule.references
    cases hkind : rule.kind <;> simp [hkind, collect, enter]

/-- **The bound is never met**: with more levels than there are rules to enter, the program walks as
if there were no bound. -/
theorem expand_collects (hnumbered : Compile.Numbered repository.rules) (fuel : Nat) :
    ∀ (references : List RuleRef) (flat : Flat), flat.unentered repository < fuel →
      Collects repository references flat (expand repository fuel references flat) := by
  induction fuel with
  | zero => exact fun _ _ hfuel => absurd hfuel (Nat.not_lt_zero _)
  | succ fuel ihFuel =>
    intro references
    induction references with
    | nil => exact fun flat _ => .nil flat
    | cons reference rest ih =>
      intro flat hfuel
      rw [expand_cons]
      cases hlookup : repository.lookup? reference with
      | none => exact .unresolved hlookup (ih flat hfuel)
      | some rule =>
        dsimp only
        split
        · next hkind =>
          split
          · next hentered => exact .skipped hlookup hkind hentered (ih flat hfuel)
          · next hnew =>
            -- one level further in there is one rule less to enter
            have hless := unentered_enter_lt (rule?_id_of_lookup? hnumbered hlookup) hnew
            have hinner := ihFuel rule.references (flat.enter rule.id) (by omega)
            have hle : (expand repository fuel rule.references (flat.enter rule.id)).unentered
                repository ≤ (flat.enter rule.id).unentered repository :=
              unentered_le_of_subset (hinner.seen_mono true)
            exact .entered hlookup hkind hnew hinner (ih _ (by omega))
        · next hkind => exact .plain hlookup (Bool.eq_false_of_not_eq_true hkind) (ih _ hfuel)

/-! ### What the walk finds -/

namespace Collects

/-- What the walk comes upon are rules that its list leads to. -/
theorem sound (h : Collects repository references flat flat') (containers : Bool) {id : RuleId}
    (hid : id ∈ flat'.seen containers) : id ∈ flat.seen containers ∨
      ∃ rule, repository.Reachable references rule ∧ rule.isContainer = containers ∧ rule.id = id := by
  induction h with
  | nil => exact .inl hid
  | unresolved _ _ ih | skipped _ _ _ _ ih =>
    refine (ih hid).imp_right ?_
    rintro ⟨rule, hrule, hfound⟩
    exact ⟨rule, hrule.tail, hfound⟩
  | plain hlookup hkind _ ih =>
    rcases ih hid with hold | ⟨rule, hrule, hfound⟩
    · rcases mem_seen_collect.mp hold with ⟨rfl, rfl⟩ | hold
      · exact .inr ⟨_, .head hlookup, hkind, rfl⟩
      · exact .inl hold
    · exact .inr ⟨rule, hrule.tail, hfound⟩
  | entered hlookup hkind _ _ _ ihInner ih =>
    rcases ih hid with hinner | ⟨rule, hrule, hfound⟩
    · rcases ihInner hinner with hold | ⟨rule, hrule, hfound⟩
      · rcases mem_seen_enter.mp hold with ⟨rfl, rfl⟩ | hold
        · exact .inr ⟨_, .head hlookup, hkind, rfl⟩
        · exact .inl hold
      · exact .inr ⟨rule, (Reachable.head hlookup).trans hkind hrule, hfound⟩
    · exact .inr ⟨rule, hrule.tail, hfound⟩

end Collects

/-- The walk has come upon all rules that the references in a list lead to. -/
def Covers (repository : Repository) (flat : Flat) (references : List RuleRef) : Prop :=
  ∀ reference ∈ references, ∀ rule, repository.lookup? reference = some rule →
    rule.id ∈ flat.seen rule.isContainer

namespace Collects

theorem covers_mono (h : Collects repository references flat flat') {others : List RuleRef}
    (hothers : flat.Covers repository others) : flat'.Covers repository others :=
  fun reference hmem rule hrule => h.seen_mono _ _ (hothers reference hmem rule hrule)

/-- A walk comes upon what is in its list. -/
theorem covers (h : Collects repository references flat flat') :
    flat'.Covers repository references := by
  -- the first reference was seen to before the rest was walked
  have hcons {reference : RuleRef} {rest : List RuleRef} {rule : Rule} {flat flat' : Flat}
      (hlookup : repository.lookup? reference = some rule)
      (hfirst : rule.id ∈ flat.seen rule.isContainer) (hrest : Collects repository rest flat flat')
      (ih : flat'.Covers repository rest) : flat'.Covers repository (reference :: rest) := by
    intro other hmem found hfound
    rcases List.mem_cons.mp hmem with rfl | hmem
    · obtain rfl := Option.some.inj (hlookup.symm.trans hfound)
      exact hrest.seen_mono _ _ hfirst
    · exact ih other hmem found hfound
  induction h with
  | nil => exact fun _ hmem => by cases hmem
  | unresolved hnone _ ih =>
    intro other hmem found hfound
    rcases List.mem_cons.mp hmem with rfl | hmem
    · rw [hnone] at hfound
      cases hfound
    · exact ih other hmem found hfound
  | plain hlookup hkind hrest ih =>
    exact hcons hlookup (mem_seen_collect.mpr (.inl ⟨rfl, hkind⟩)) hrest ih
  | skipped hlookup hkind hentered hrest ih =>
    refine hcons hlookup ?_ hrest ih
    rw [hkind]
    exact hentered
  | entered hlookup hkind _ hinner hrest _ ih =>
    exact hcons hlookup (hinner.seen_mono _ _ (mem_seen_enter.mpr (.inl ⟨rfl, hkind⟩))) hrest ih

/-- Of the groups and links that are entered on the walk, the lists have been walked. -/
theorem closes (hnumbered : Compile.Numbered repository.rules)
    (h : Collects repository references flat flat') {container : Rule}
    (hrule : repository.rule? container.id = some container)
    (hid : container.id ∈ flat'.seen true) :
    container.id ∈ flat.seen true ∨ flat'.Covers repository container.references := by
  induction h with
  | nil => exact .inl hid
  | unresolved _ _ ih | skipped _ _ _ _ ih => exact ih hid
  | plain _ _ _ ih =>
    refine (ih hid).imp_left fun hold => ?_
    exact (mem_seen_collect.mp hold).resolve_left (by simp)
  | entered hlookup _ _ hinner hrest ihInner ih =>
    rcases ih hid with hinside | hclosed
    · rcases ihInner hinside with hold | hclosed
      · rcases mem_seen_enter.mp hold with ⟨heq, _⟩ | hold
        · obtain rfl := eq_of_id_eq hrule (rule?_id_of_lookup? hnumbered hlookup) heq
          exact .inr (hrest.covers_mono hinner.covers)
        · exact .inl hold
      · exact .inr (hrest.covers_mono hclosed)
    · exact .inr hclosed

/-- **The walk comes upon all that its list leads to**, if it ends up coming upon what is in the
lists of the groups and links that had been entered before. -/
theorem complete (hnumbered : Compile.Numbered repository.rules)
    (h : Collects repository references flat flat')
    (hbefore : ∀ container, repository.Reachable references container →
      container.isContainer = true → container.id ∈ flat.entered →
        flat'.Covers repository container.references)
    {rule : Rule} (hrule : repository.Reachable references rule) :
    rule.id ∈ flat'.seen rule.isContainer := by
  induction hrule with
  | listed hmem hlookup => exact h.covers _ hmem _ hlookup
  | inside hcontainer hkind hmem hlookup ih =>
    rw [hkind] at ih
    rcases h.closes hnumbered (hcontainer.rule?_id hnumbered) ih with hold | hclosed
    · exact hbefore _ hcontainer hkind hold _ hmem _ hlookup
    · exact hclosed _ hmem _ hlookup

end Collects

/-- Each group or link that a list leads to and that has been entered is done with: the rules that
its list expands to have been collected. -/
def Done (repository : Repository) (flat : Flat) (references : List RuleRef) : Prop :=
  ∀ container, repository.Reachable references container → container.isContainer = true →
    container.id ∈ flat.entered → ∃ expansion,
      repository.Unfolds container.references expansion ∧ ∀ id ∈ expansion, id ∈ flat.rules

namespace Done

theorem tail {reference : RuleRef} {rest : List RuleRef}
    (h : flat.Done repository (reference :: rest)) : flat.Done repository rest :=
  fun container hcontainer => h container hcontainer.tail

theorem collect (h : flat.Done repository references) (id : RuleId) :
    (flat.collect id).Done repository references := by
  intro container hcontainer hkind hentered
  obtain ⟨inner, hinner, hsubset⟩ := h container hcontainer hkind hentered
  exact ⟨inner, hinner, fun other hother => List.mem_cons_of_mem id (hsubset other hother)⟩

/-- Inside the list of a group or link that has just been entered, nothing leads back to it. -/
theorem enter (hnumbered : Compile.Numbered repository.rules)
    (h : flat.Done repository references) {rule : Rule}
    (hrule : repository.Reachable references rule) (hkind : rule.isContainer = true)
    (hacyclic : ¬ repository.Reachable rule.references rule) :
    (flat.enter rule.id).Done repository rule.references := by
  intro container hcontainer hinside hentered
  rcases List.mem_cons.mp hentered with hid | hentered
  · obtain rfl := eq_of_id_eq (hcontainer.rule?_id hnumbered) (hrule.rule?_id hnumbered) hid
    exact absurd hcontainer hacyclic
  · exact h container (hrule.trans hkind hcontainer) hinside hentered

/-- The list of a group or link has been walked, and what it expands to has been collected. -/
theorem walked (hnumbered : Compile.Numbered repository.rules)
    (h : flat.Done repository references) {rule : Rule}
    (hrule : repository.Reachable references rule)
    (hwalk : Collects repository rule.references (flat.enter rule.id) flat')
    {inner : List RuleId} (hinner : repository.Unfolds rule.references inner)
    (hfound : ∀ id ∈ inner, id ∈ flat'.rules) : flat'.Done repository references := by
  intro container hcontainer hinside hentered
  -- entered before all this, entered just now, or met inside the list just walked
  rcases hwalk.sound true hentered with hold | ⟨other, hother, _, hid⟩
  · rcases List.mem_cons.mp hold with hid | hold
    · obtain rfl := eq_of_id_eq (hcontainer.rule?_id hnumbered) (hrule.rule?_id hnumbered) hid
      exact ⟨inner, hinner, hfound⟩
    · obtain ⟨known, hknown, hsubset⟩ := h container hcontainer hinside hold
      exact ⟨known, hknown, fun id hid => hwalk.seen_mono false id (hsubset id hid)⟩
  · obtain rfl := eq_of_id_eq (hother.rule?_id hnumbered) (hcontainer.rule?_id hnumbered) hid
    obtain ⟨part, hpart, hsubset⟩ := hinner.of_reachable hother hinside
    exact ⟨part, hpart, fun id hid => hfound id (hsubset id hid)⟩

end Done

namespace Collects

/-- **Without cycles the walk collects the plain expansion**, but for repetitions: what a group or
link that is skipped expands to has been collected. -/
theorem expansion (hnumbered : Compile.Numbered repository.rules)
    (h : Collects repository references flat flat')
    (hacyclic : ∀ container, repository.Reachable references container →
      container.isContainer = true → ¬ repository.Reachable container.references container)
    (hdone : flat.Done repository references) :
    ∃ expansion, repository.Unfolds references expansion ∧
      flat'.rules.reverse.eraseDups = (flat.rules.reverse ++ expansion).eraseDups := by
  induction h with
  | nil => exact ⟨[], .nil, by rw [List.append_nil]⟩
  | unresolved hnone _ ih =>
    obtain ⟨expansion, hunfolds, heq⟩ :=
      ih (fun container hcontainer => hacyclic _ hcontainer.tail) hdone.tail
    exact ⟨expansion, .unresolved hnone hunfolds, heq⟩
  | @plain reference rule rest flat flat' hlookup hkind hrest ih =>
    obtain ⟨expansion, hunfolds, heq⟩ :=
      ih (fun container hcontainer => hacyclic _ hcontainer.tail) (hdone.tail.collect rule.id)
    refine ⟨rule.id :: expansion, .plain hlookup hkind hunfolds, heq.trans ?_⟩
    rw [collect, List.reverse_cons, List.append_assoc, List.singleton_append]
  | @skipped reference rule rest flat flat' hlookup hkind hentered hrest ih =>
    obtain ⟨expansion, hunfolds, heq⟩ :=
      ih (fun container hcontainer => hacyclic _ hcontainer.tail) hdone.tail
    obtain ⟨inner, hinner, hsubset⟩ := hdone rule (.head hlookup) hkind hentered
    refine ⟨inner ++ expansion, .container hlookup hkind hinner hunfolds, heq.trans ?_⟩
    rw [← List.append_assoc]
    refine (eraseDups_append_congr (eraseDups_append_of_subset fun id hid => ?_) expansion).symm
    exact List.mem_reverse.mpr (hsubset id hid)
  | @entered reference rule rest flat flat' flat'' hlookup hkind hnew hwalk hrest ihInner ih =>
    have hlisted : repository.Reachable (reference :: rest) rule := .head hlookup
    obtain ⟨inner, hinner, hcollected⟩ :=
      ihInner (fun container hcontainer => hacyclic _ (hlisted.trans hkind hcontainer))
        (hdone.enter hnumbered hlisted hkind (hacyclic rule hlisted hkind))
    have hfound : ∀ id ∈ inner, id ∈ flat'.rules := by
      intro id hid
      have hmem : id ∈ flat'.rules.reverse.eraseDups := by
        rw [hcollected, List.mem_eraseDups]
        exact List.mem_append_right _ hid
      exact List.mem_reverse.mp (List.mem_eraseDups.mp hmem)
    obtain ⟨expansion, hunfolds, heq⟩ :=
      ih (fun container hcontainer => hacyclic _ hcontainer.tail)
        (hdone.walked hnumbered hlisted hwalk hinner hfound).tail
    refine ⟨inner ++ expansion, .container hlookup hkind hinner hunfolds, heq.trans ?_⟩
    rw [← List.append_assoc]
    exact eraseDups_append_congr hcollected expansion

end Collects

end Flat

/-! ## The list of a rule -/

namespace Flattener

/-- The table after some lists have been asked for. -/
def after (repository : Repository) (asked : List RuleId) : Flattener :=
  asked.foldl (fun flattener id => (flattener.rules repository id).2) {}

/-- What the table holds is what flattening yields. -/
theorem after_rules (repository : Repository) (asked : List RuleId) (id : RuleId) :
    ((after repository asked).rules repository id).1 = repository.flatten id := by
  have hsound (flattener : Flattener) (h : Session.Sound repository { flattener }) :
      Session.Sound repository
        { flattener := asked.foldl (fun flattener id => (flattener.rules repository id).2)
            flattener } := by
    induction asked generalizing flattener with
    | nil => exact h
    | cons other rest ih => exact ih _ (h.rules other).2
  exact ((hsound {} (.new repository)).rules id).1

end Flattener

namespace Repository

/-- No group or link among a rule and those that its list leads to leads back to itself. -/
def Acyclic (repository : Repository) (rule : Rule) : Prop :=
  ∀ container : Rule, container.isContainer = true →
    container = rule ∨ repository.Reachable rule.patterns container →
      ¬ repository.Reachable container.references container

/-- A rule whose patterns lead somewhere holds no other references. -/
theorem Reachable.references_eq {repository : Repository} {rule found : Rule}
    (h : repository.Reachable rule.patterns found) : rule.references = rule.patterns := by
  induction h with
  | listed hmem _ =>
    unfold Rule.references
    unfold Rule.patterns at hmem ⊢
    cases hkind : rule.kind with
    | link => rw [hkind] at hmem; cases hmem
    | simple | region | group => rfl
  | inside _ _ _ _ ih => exact ih

/-- **What flattening lists.** In the repository of any grammar that compiles, and whatever has been
asked for before, the list of a rule is what walking its patterns collects, a walk that ends and
enters each group and link once. It holds exactly the simple rules and regions that the patterns
lead to. If no group or link that takes part leads back to itself, it is the plain expansion of the
patterns, but for repetitions. -/
theorem flatten_complete {grammar : Grammar} {budget : Nat} {repository : Repository}
    (hcompile : compile grammar budget = .ok repository) (asked : List RuleId) {id : RuleId}
    {rule : Rule} (hrule : repository.rule? id = some rule) :
    let listed := ((Flattener.after repository asked).rules repository id).1
    (∃ flat, (∀ flat', Flat.Collects repository rule.patterns { entered := [id] } flat' ↔
        flat' = flat) ∧ listed = flat.rules.reverse) ∧
      (∀ other, other ∈ listed ↔ ∃ found, repository.rule? other = some found ∧
        found.isContainer = false ∧ repository.Reachable rule.patterns found) ∧
      (repository.Acyclic rule → ∃ expansion,
        (∀ expansion', repository.Unfolds rule.patterns expansion' ↔ expansion' = expansion) ∧
          listed.eraseDups = expansion.eraseDups) := by
  intro listed
  have hnumbered := compile_numbered hcompile
  have hwalk : Flat.Collects repository rule.patterns { entered := [id] }
      (Flat.expand repository (repository.rules.size + 1) rule.patterns { entered := [id] }) := by
    refine Flat.expand_collects hnumbered _ _ _ (Nat.lt_succ_of_le ?_)
    exact (Finset.card_le_card Finset.sdiff_subset).trans_eq (Finset.card_range _)
  have hlisted : listed = repository.flatten id := Flattener.after_rules repository asked id
  rw [flatten, hrule, Option.elim_some] at hlisted
  generalize Flat.expand repository (repository.rules.size + 1) rule.patterns { entered := [id] } =
    flat at hwalk hlisted
  rw [hlisted]
  -- the rule counts as entered: if it is met on the walk, its list is the one that is walked
  have hself {container : Rule} (hcontainer : repository.Reachable rule.patterns container)
      (hentered : container.id ∈ [id]) :
      container = rule ∧ container.references = rule.patterns := by
    have hfound := hcontainer.rule?_id hnumbered
    rw [List.mem_singleton.mp hentered, hrule] at hfound
    obtain rfl := Option.some.inj hfound
    exact ⟨rfl, hcontainer.references_eq⟩
  refine ⟨⟨flat, fun flat' => ⟨fun h => h.unique hwalk, fun h => h ▸ hwalk⟩, rfl⟩, fun other => ?_,
    fun hacyclic => ?_⟩
  · rw [List.mem_reverse]
    constructor
    · intro hid
      rcases hwalk.sound false hid with hnone | ⟨found, hfound, hkind, rfl⟩
      · cases hnone
      · exact ⟨found, hfound.rule?_id hnumbered, hkind, hfound⟩
    · rintro ⟨found, hid, hkind, hfound⟩
      have hseen := hwalk.complete hnumbered (fun container hcontainer _ hentered => by
        rw [(hself hcontainer hentered).2]
        exact hwalk.covers) hfound
      rw [hkind, hnumbered other found hid] at hseen
      exact hseen
  · obtain ⟨expansion, hunfolds, heq⟩ := hwalk.expansion hnumbered
      (fun container hcontainer hkind => hacyclic container hkind (.inr hcontainer)) (by
        intro container hcontainer hkind hentered
        obtain ⟨heq, hpatterns⟩ := hself hcontainer hentered
        rw [← hpatterns] at hcontainer
        exact absurd hcontainer (hacyclic container hkind (.inl heq)))
    exact ⟨expansion, fun expansion' => ⟨fun h => h.unique hunfolds, fun h => h ▸ hunfolds⟩, heq⟩

/-- A list that names another one twice, and a list that names itself. -/
def mentionGrammar : Grammar where
  scopeName := "source.t"
  repository := [
    ("letters", { patterns := [{ pattern := some "a" }] }),
    ("pair", { patterns := [{ reference := some "#letters" }, { reference := some "#letters" }] }),
    ("loop", { patterns := [{ reference := some "#pair" }, { reference := some "#loop" }] })]

theorem mentionGrammar_compiles :
    (match compile mentionGrammar 1000 with
      | .ok repository =>
        let outline (rule : Rule) := (rule.id, rule.isContainer, rule.references)
        decide ((repository.lookup? (.inline 0)).map outline = some (0, false, []) ∧
          (repository.lookup? (.named "letters")).map outline = some (1, true, [.inline 0]) ∧
          (repository.rule? 2).map outline = some (2, true, [.named "letters", .named "letters"]) ∧
          (repository.rule? 3).map outline = some (3, true, [.named "pair", .named "loop"]) ∧
          (repository.rule? 2).map (·.patterns) = some [.named "letters", .named "letters"] ∧
          (repository.rule? 3).map (·.patterns) = some [.named "pair", .named "loop"] ∧
          repository.names.lookup "loop" = some 3 ∧
          repository.flatten 2 = [0] ∧ repository.flatten 3 = [0])
      | .error _ => false) = true := by
  decide +kernel

/-- The second mention of the letters is skipped, which only leaves out a repetition; the list that
names itself is listed as well. -/
theorem flatten_complete_mentions : ∃ repository pair loop,
    compile mentionGrammar 1000 = .ok repository ∧ repository.rule? 2 = some pair ∧
      repository.rule? 3 = some loop ∧ repository.flatten 2 = [0] ∧ repository.flatten 3 = [0] ∧
      repository.Acyclic pair ∧ ¬ repository.Acyclic loop ∧
      (∃ expansion, repository.Unfolds pair.patterns expansion ∧
        [0].eraseDups = expansion.eraseDups) ∧
      ∀ other, other ∈ [0] ↔ ∃ found, repository.rule? other = some found ∧
        found.isContainer = false ∧ repository.Reachable loop.patterns found := by
  have hrun := mentionGrammar_compiles
  cases hcompile : compile mentionGrammar 1000 with
  | error fault =>
    rw [hcompile] at hrun
    cases hrun
  | ok repository =>
    rw [hcompile] at hrun
    simp only [decide_eq_true_eq, Option.map_eq_some_iff, Prod.mk.injEq] at hrun
    obtain ⟨⟨letter, hletter, _, hplain, hnone⟩, ⟨letters, hletters, hfirst, _, hinside⟩,
      ⟨pair, hpair, hsecond, hgroup, hreferences⟩, ⟨loop, hloop, hthird, hkind, hcycle⟩,
      ⟨pair', hpair', hpatterns⟩, ⟨loop', hloop', hpatterns'⟩, hname, hlist, hlist'⟩ := hrun
    obtain rfl := Option.some.inj (hpair.symm.trans hpair')
    obtain rfl := Option.some.inj (hloop.symm.trans hloop')
    have hbelow {rule : Rule} (h : repository.Reachable letters.references rule) : rule = letter := by
      rw [hinside] at h
      induction h with
      | listed hmem hlookup =>
        rw [List.mem_singleton.mp hmem, hletter] at hlookup
        exact (Option.some.inj hlookup).symm
      | inside _ hcontainer _ _ ih =>
        rw [ih, hplain] at hcontainer
        cases hcontainer
    have hpairs {rule : Rule} (h : repository.Reachable pair.patterns rule) :
        rule = letters ∨ rule = letter := by
      rw [hpatterns] at h
      induction h with
      | listed hmem hlookup =>
        obtain rfl : _ = RuleRef.named "letters" := by simpa using hmem
        rw [hletters] at hlookup
        exact .inl (Option.some.inj hlookup).symm
      | inside _ hcontainer hmem hlookup ih =>
        rcases ih with rfl | rfl
        · exact .inr (hbelow (.listed hmem hlookup))
        · rw [hplain] at hcontainer
          cases hcontainer
    have hacyclic : repository.Acyclic pair := by
      intro container hcontainer hwhere
      rcases hwhere with rfl | hwhere
      · rw [hreferences, ← hpatterns]
        intro hback
        rcases hpairs hback with rfl | rfl
        · cases hfirst.symm.trans hsecond
        · cases hplain.symm.trans hcontainer
      · rcases hpairs hwhere with rfl | rfl
        · intro hback
          obtain rfl := hbelow hback
          cases hplain.symm.trans hcontainer
        · cases hplain.symm.trans hcontainer
    have hself : repository.lookup? (.named "loop") = some loop := by
      rw [lookup?, resolve?, hname]
      exact hloop
    have hcyclic : ¬ repository.Acyclic loop := by
      intro h
      refine h loop hkind (.inl rfl) (.listed ?_ hself)
      rw [hcycle]
      exact List.mem_cons_of_mem _ List.mem_cons_self
    obtain ⟨expansion, hexpansion, hsame⟩ := (flatten_complete hcompile [3] hpair).2.2 hacyclic
    have hmembers := (flatten_complete hcompile [] hloop).2.1
    rw [Flattener.after_rules, hlist] at hsame
    simp only [Flattener.after_rules, hlist'] at hmembers
    exact ⟨repository, pair, loop, rfl, hpair, hloop, hlist, hlist', hacyclic, hcyclic,
      ⟨expansion, (hexpansion expansion).mpr rfl, hsame⟩, hmembers⟩

end Repository

end ScopeScanner
