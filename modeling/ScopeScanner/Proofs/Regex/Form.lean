import ScopeScanner.Proofs.Regex.Atom
import ScopeScanner.Proofs.Regex.Parens

/-!
# Forms

A form is a regular expression with holes in it, which are filled in with texts that are taken
literally. The holes stand where a part may stand. Inside brackets, in the bounds of a repetition or
behind a backslash there are none.

What is needed for the result to compile can be seen from the form alone: `Regex.Part.traits` says what
is known of the tree of a part, without a look at the texts, and `Regex.Node.Fits` is what a tree has to
do with its traits.
-/

namespace ScopeScanner.Regex

open Escaping (quote)

/-! ## Parts and how they are written -/

/-- A part of a form. The content of a parenthesis is a choice of rows of parts. -/
inductive Part (ι : Type) where
  | atom (atom : Atom) (quantifier : Option Quantifier)
  /-- Filled in with a text. -/
  | hole (index : ι)
  /-- Flags for the parts behind it. -/
  | flags (switches : Switches) (hsome : switches.text ≠ [])
  | parens (parens : Parens) (first : List (Part ι)) (others : List (List (Part ι)))
      (quantifier : Option Quantifier)

/-- How a quantifier is written where there is one. -/
def quantifierText : Option Quantifier → List Char
  | none => []
  | some quantifier => quantifier.text

variable {ι : Type}

mutual

/-- How a part is written if `fill` is written into the holes. -/
def Part.write (fill : ι → List Char) : Part ι → List Char
  | .atom atom quantifier => atom.text ++ quantifierText quantifier
  | .hole index => fill index
  | .flags switches _ => '(' :: '?' :: (switches.text ++ [')'])
  | .parens parens first others quantifier =>
    '(' :: (parens.mark ++ (writeRow fill first ++ (writeOthers fill others ++
      ')' :: quantifierText quantifier)))

/-- How a row of parts is written. -/
def writeRow (fill : ι → List Char) : List (Part ι) → List Char
  | [] => []
  | part :: parts => part.write fill ++ writeRow fill parts

/-- How the rows of a choice that come after the first one are written. -/
def writeOthers (fill : ι → List Char) : List (List (Part ι)) → List Char
  | [] => []
  | row :: rows => '|' :: (writeRow fill row ++ writeOthers fill rows)

end

/-! ## Traits -/

/-- What is known of the trees that a form is read as. -/
structure Traits where
  /-- An automaton can run them. -/
  plain : Bool
  /-- Each of them spans a fixed number of characters. -/
  rigid : Bool
  /-- They may be repeated. -/
  firm : Bool
  /-- They compile up to limits. -/
  sound : Bool

namespace Traits

/-- A text, or nothing at all. -/
def nothing : Traits where
  plain := true
  rigid := true
  firm := false
  sound := true

/-- One part after another. -/
def both (first second : Traits) : Traits where
  plain := first.plain && second.plain
  rigid := first.rigid && second.rigid
  firm := first.firm || second.firm
  sound := first.sound && second.sound

/-- One of several rows. -/
def either (first second : Traits) : Traits where
  plain := first.plain && second.plain
  rigid := false
  firm := true
  sound := first.sound && second.sound

/-- Something in parentheses. One can only go back over what an automaton can run, or what has a fixed
width. -/
def within (traits : Traits) : Parens → Traits
  | .capture | .named _ => { traits with firm := true }
  | .flagged _ => traits
  | .atomic => { traits with plain := false, firm := true }
  | .ahead _ => { traits with plain := false, rigid := true, firm := false }
  | .behind _ =>
    { plain := false
      rigid := true
      firm := false
      sound := traits.sound && (traits.plain || traits.rigid) }

/-- Something with a quantifier. -/
def repeated (traits : Traits) : Option Quantifier → Traits
  | none => traits
  | some quantifier =>
    { plain := traits.plain && (match quantifier.preference with | .settled => false | _ => true)
      rigid := traits.rigid && quantifier.times.most = some quantifier.times.least
      firm := true
      sound := traits.sound && traits.firm }

theorem both_nothing (traits : Traits) : traits.both nothing = traits := by
  simp [both, nothing]

theorem nothing_both (traits : Traits) : nothing.both traits = traits := by
  simp [both, nothing]

theorem both_assoc (first second third : Traits) :
    (first.both second).both third = first.both (second.both third) := by
  simp [both, Bool.and_assoc, Bool.or_assoc]

end Traits

/-- The traits of an atom. -/
def Atom.traits (atom : Atom) : Traits where
  plain := atom.isPlain
  rigid := true
  firm := true
  sound := true

mutual

/-- The traits of a part, whatever is written into its holes. -/
def Part.traits : Part ι → Traits
  | .atom atom quantifier => atom.traits.repeated quantifier
  | .hole _ | .flags _ _ => .nothing
  | .parens parens first others quantifier =>
    ((choiceTraits (rowTraits first) others).within parens).repeated quantifier

def rowTraits : List (Part ι) → Traits
  | [] => .nothing
  | part :: parts => part.traits.both (rowTraits parts)

/-- The traits of a choice, given those of what comes first in it. -/
def choiceTraits (first : Traits) : List (List (Part ι)) → Traits
  | [] => first
  | row :: rows => choiceTraits (first.either (rowTraits row)) rows

end

/-- A form is a choice of rows of parts. -/
structure Form (ι : Type) where
  first : List (Part ι)
  others : List (List (Part ι)) := []

namespace Form

/-- How a form is written if `fill` is written into the holes. -/
def write (fill : ι → List Char) (form : Form ι) : List Char :=
  writeRow fill form.first ++ writeOthers fill form.others

/-- Whatever is written into the holes, the form compiles up to limits. -/
def isSound (form : Form ι) : Bool :=
  (choiceTraits (rowTraits form.first) form.others).sound

end Form

/-! ## Trees with traits -/

namespace Node

/-- The tree has the given traits. -/
structure Fits (traits : Traits) (node : Node) : Prop where
  sound : node.Sound []
  plain : traits.plain = true → node.isHard [] = false
  rigid : traits.rigid = true → node.hasFixedWidth = true
  firm : traits.firm = true → node.isRepeatable = true

/-- The items of a sequence have the given traits. -/
structure FitAll (traits : Traits) (items : List Node) : Prop where
  sound : ∀ item ∈ items, item.Sound []
  plain : traits.plain = true → ∀ item ∈ items, item.isHard [] = false
  rigid : traits.rigid = true → ∀ item ∈ items, item.hasFixedWidth = true
  firm : traits.firm = true → ∃ item ∈ items, item.isRepeatable = true

theorem allFixed_iff {items : List Node} :
    allFixed items = true ↔ ∀ item ∈ items, item.hasFixedWidth = true := by
  induction items with
  | nil => exact iff_of_true rfl (List.forall_mem_nil _)
  | cons item items ih => rw [allFixed, Bool.and_eq_true, ih, List.forall_mem_cons]

theorem IsAtom.fits {node : Node} (h : node.IsAtom) {atom : Atom}
    (hplain : atom.isPlain = true → node.isHard [] = false) : node.Fits atom.traits := by
  cases h with
  | leaf _ _ | assertion _ | keepOut =>
    exact ⟨by rw [Sound]; trivial, hplain, fun _ => by rw [hasFixedWidth], fun _ => rfl⟩

namespace FitAll

variable {traits later : Traits} {items : List Node} {node : Node}

theorem nil : FitAll .nothing [] where
  sound := List.forall_mem_nil _
  plain := fun _ => List.forall_mem_nil _
  rigid := fun _ => List.forall_mem_nil _
  firm := by
    intro hfirm
    cases hfirm

/-- One more tree, which is left out if it is empty. -/
theorem cons (h : FitAll traits items) (hnode : node.Fits later) :
    FitAll (traits.both later) (if node.isEmpty then items else node :: items) := by
  split
  · next hempty =>
    refine ⟨h.sound, fun hplain => ?_, fun hrigid => ?_, fun hfirm => ?_⟩
    · exact h.plain (Bool.and_eq_true_iff.mp hplain).1
    · exact h.rigid (Bool.and_eq_true_iff.mp hrigid).1
    · -- what is empty may not be repeated
      refine h.firm ((Bool.or_eq_true_iff.mp hfirm).resolve_right fun hlater => ?_)
      have hrepeatable := hnode.firm hlater
      cases node with
      | empty => cases hrepeatable
      | _ => cases hempty
  · refine ⟨List.forall_mem_cons.mpr ⟨hnode.sound, h.sound⟩, fun hplain => ?_, fun hrigid => ?_,
      fun hfirm => ?_⟩
    · obtain ⟨hearlier, hlater⟩ := Bool.and_eq_true_iff.mp hplain
      exact List.forall_mem_cons.mpr ⟨hnode.plain hlater, h.plain hearlier⟩
    · obtain ⟨hearlier, hlater⟩ := Bool.and_eq_true_iff.mp hrigid
      exact List.forall_mem_cons.mpr ⟨hnode.rigid hlater, h.rigid hearlier⟩
    · rcases Bool.or_eq_true_iff.mp hfirm with hearlier | hlater
      · obtain ⟨item, hmem, hrepeatable⟩ := h.firm hearlier
        exact ⟨item, List.mem_cons_of_mem _ hmem, hrepeatable⟩
      · exact ⟨node, List.mem_cons_self, hnode.firm hlater⟩

/-- The sequence of the items has their traits. -/
theorem ofItems (h : FitAll traits items) : (Node.ofItems items.reverse).Fits traits := by
  have hmem (item : Node) (hitem : item ∈ items.reverse) : item ∈ items := List.mem_reverse.mp hitem
  match hreverse : items.reverse with
  | [] =>
    refine ⟨by rw [Node.ofItems, Sound]; trivial, fun _ => rfl,
      fun _ => by rw [Node.ofItems, hasFixedWidth], fun hfirm => ?_⟩
    obtain ⟨item, hitem, _⟩ := h.firm hfirm
    rw [List.reverse_eq_nil_iff.mp hreverse] at hitem
    cases hitem
  | [item] =>
    obtain rfl : items = [item] := by rw [← List.reverse_reverse items, hreverse]; rfl
    refine ⟨h.sound item List.mem_cons_self, fun hplain => h.plain hplain item List.mem_cons_self,
      fun hrigid => h.rigid hrigid item List.mem_cons_self, fun hfirm => ?_⟩
    obtain ⟨other, hother, hrepeatable⟩ := h.firm hfirm
    rwa [List.mem_singleton.mp hother] at hrepeatable
  | first :: second :: rest =>
    rw [hreverse] at hmem
    show (Node.seq (first :: second :: rest)).Fits traits
    refine ⟨?_, fun hplain => ?_, fun hrigid => ?_, fun _ => rfl⟩
    · rw [Sound, allSound_iff]
      exact fun item hitem => h.sound item (hmem item hitem)
    · rw [isHard, anyHard_eq_false_iff]
      exact fun item hitem => h.plain hplain item (hmem item hitem)
    · rw [hasFixedWidth, allFixed_iff]
      exact fun item hitem => h.rigid hrigid item (hmem item hitem)

end FitAll

namespace Fits

variable {traits : Traits} {node : Node}

theorem empty : Node.empty.Fits .nothing := by
  have hnone : (Node.ofItems [].reverse).Fits .nothing := FitAll.nil.ofItems
  exact hnone

theorem ofSet (set : CharSet) : (Node.ofSet set).Fits .nothing where
  sound := by
    rw [Node.ofSet, Sound]
    trivial
  plain := fun _ => rfl
  rigid := fun _ => rfl
  firm := fun _ => rfl

/-- **A quantifier keeps a tree within the traits of a repetition.** -/
theorem repeated (h : node.Fits traits) (quantifier : Quantifier) (swapGreed : Bool) :
    (quantifier.node swapGreed node).Fits (traits.repeated (some quantifier)) := by
  obtain ⟨times, preference⟩ := quantifier
  have hrepetition (greedy : Bool) :
      (Node.repeated times.least times.most greedy node).Fits
        (traits.repeated (some ⟨times, .more⟩)) := by
    refine ⟨by rw [Sound]; exact ⟨times.inOrder, h.sound⟩, fun hplain => ?_, fun hrigid => ?_,
      fun _ => rfl⟩
    · rw [isHard]
      exact h.plain (Bool.and_eq_true_iff.mp hplain).1
    · obtain ⟨hbody, htimes⟩ := Bool.and_eq_true_iff.mp hrigid
      rw [hasFixedWidth, h.rigid hbody]
      exact htimes
  cases preference with
  | more => exact hrepetition _
  | fewer => exact hrepetition _
  | settled =>
    have hbody := hrepetition (false == swapGreed)
    refine ⟨?_, fun hplain => ?_, fun hrigid => ?_, fun _ => rfl⟩
    · show (Node.atomic _).Sound []
      rw [Sound]
      exact hbody.sound
    · rw [Traits.repeated, Bool.and_false] at hplain
      cases hplain
    · show (Node.atomic _).hasFixedWidth = true
      rw [hasFixedWidth]
      exact hbody.rigid hrigid

theorem group (h : node.Fits traits) (number : Nat) :
    (Node.group number node).Fits (traits.within .capture) := by
  refine ⟨by rw [Sound]; exact h.sound, fun hplain => ?_, fun hrigid => ?_, fun _ => rfl⟩
  · rw [isHard, h.plain hplain]
    rfl
  · rw [hasFixedWidth]
    exact h.rigid hrigid

theorem atomic (h : node.Fits traits) : (Node.atomic node).Fits (traits.within .atomic) := by
  refine ⟨by rw [Sound]; exact h.sound, fun hplain => absurd hplain Bool.false_ne_true,
    fun hrigid => ?_, fun _ => rfl⟩
  rw [hasFixedWidth]
  exact h.rigid hrigid

theorem ahead (h : node.Fits traits) (negated : Bool) :
    (Node.look .ahead negated node).Fits (traits.within (.ahead negated)) :=
  ⟨by rw [Sound]; exact h.sound, fun hplain => absurd hplain Bool.false_ne_true,
    fun _ => by rw [hasFixedWidth], fun hfirm => absurd hfirm Bool.false_ne_true⟩

/-- One can go back over the body of a lookbehind that is sound. -/
theorem behind (h : node.Fits traits) (negated : Bool)
    (hsound : (traits.within (.behind negated)).sound = true) :
    (Node.look .behind negated node).Fits (traits.within (.behind negated)) := by
  refine ⟨?_, fun hplain => absurd hplain Bool.false_ne_true, fun _ => by rw [hasFixedWidth],
    fun hfirm => absurd hfirm Bool.false_ne_true⟩
  have hback := Bool.or_eq_true_iff.mp (Bool.and_eq_true_iff.mp hsound).2
  rw [Sound]
  exact ⟨h.sound, hback.imp h.plain h.rigid⟩

end Fits

/-- The branches of a choice have the given traits. -/
structure FitEach (traits : Traits) (branches : List Node) : Prop where
  sound : ∀ branch ∈ branches, branch.Sound []
  plain : traits.plain = true → ∀ branch ∈ branches, branch.isHard [] = false

namespace FitEach

variable {traits later : Traits} {branches : List Node} {node : Node}

theorem one (h : node.Fits traits) : FitEach traits [node] :=
  ⟨List.forall_mem_singleton.mpr h.sound,
    fun hplain => List.forall_mem_singleton.mpr (h.plain hplain)⟩

theorem cons (h : FitEach traits branches) (hnode : node.Fits later) :
    FitEach (traits.either later) (node :: branches) := by
  refine ⟨List.forall_mem_cons.mpr ⟨hnode.sound, h.sound⟩, fun hplain => ?_⟩
  obtain ⟨hearlier, hlater⟩ := Bool.and_eq_true_iff.mp hplain
  exact List.forall_mem_cons.mpr ⟨hnode.plain hlater, h.plain hearlier⟩

/-- Several branches make a choice, which has no width of its own. -/
theorem ofBranches (h : FitEach traits branches) (hmany : 2 ≤ branches.length)
    (hwide : traits.rigid = false) : (Node.ofBranches branches.reverse).Fits traits := by
  have hchoice : Node.ofBranches branches.reverse = .alt branches.reverse := by
    rw [Node.ofBranches]
    intro branch heq
    have hlength := congrArg List.length heq
    rw [List.length_reverse, List.length_singleton] at hlength
    omega
  rw [hchoice]
  refine ⟨?_, fun hplain => ?_, fun hrigid => ?_, fun _ => rfl⟩
  · rw [Sound, allSound_iff]
    exact fun branch hmem => h.sound branch (List.mem_reverse.mp hmem)
  · rw [isHard, anyHard_eq_false_iff]
    exact fun branch hmem => h.plain hplain branch (List.mem_reverse.mp hmem)
  · rw [hwide] at hrigid
    cases hrigid

end FitEach

end Node

end ScopeScanner.Regex
