import ScopeScanner.Proofs.Scanner.Bytes
import ScopeScanner.Proofs.Scanner.Coverage
import ScopeScanner.Proofs.Scanner.GroupScopes
import ScopeScanner.Proofs.Scanner.Places
import ScopeScanner.Proofs.Text.LineEnds

/-!
# What is given out, byte by byte

`Emission.Grows` lists the moves of an emission. What these add up to is said here once:

* **`Emission.Grows.position_le_max`**: the sink gets no further than the line has been covered.
* **`Emission.Grows.exists_stretch`**: the bytes up to where it gets are added, each with scopes that were
  in use.
* `Emission.Leftover.exists_part`: the text that a remark is about.
* **`resolveCaptures_yields`**: covering a match makes moves of any given kind, if these suffice to cover
  the match up to its end with scopes that come from the match and its captures, and if scanning the text
  of a group makes no others. The kind of the session is kept as well.
* **`LineScan.Step.covers`**, `LineScan.settle_emission`: what a step gives out, and what follows it.
-/

namespace ScopeScanner

namespace Emission

namespace Grows

variable {Cover : Nat → List String → Prop} {Remark : Diagnostic → Prop} {emission emission' : Emission}

/-- The sink gets no further than the line has been covered. -/
theorem position_le_max {limit : Nat} (h : Grows Cover Remark emission emission')
    (hcover : ∀ stop scopes, Cover stop scopes → stop ≤ limit) :
    emission'.sink.position ≤ max emission.sink.position limit := by
  induction h with
  | refl => exact Nat.le_max_left _ _
  | produce stop scopes _ hin ih =>
    have hstop := hcover stop scopes hin
    rw [Emission.produce, Sink.produce_position]
    omega
  | remark _ _ _ ih => exact ih
  | learn _ _ ih => exact ih

/-- **The bytes up to the new position are added**, each with scopes that were in use. -/
theorem exists_stretch {Carried : List String → Prop} (h : Grows Cover Remark emission emission')
    (hcover : ∀ stop scopes, Cover stop scopes → Carried scopes) :
    ∃ scopes : Nat → List String,
      emission'.sink.bytes = emission.sink.bytes ++
        emission.sink.stretch emission.sink.position emission'.sink.position scopes ∧
      ∀ place, emission.sink.position ≤ place → place < emission'.sink.position →
        Carried (scopes place) := by
  induction h with
  | refl =>
    refine ⟨fun _ => [], ?_, fun place hfrom hto => absurd hfrom (Nat.not_le_of_lt hto)⟩
    have hnone : min emission.sink.position emission.sink.visible - emission.sink.position = 0 := by
      omega
    rw [Sink.stretch, hnone, List.range'_zero, List.map_nil, List.append_nil]
  | @produce emission' stop scopes h hin ih =>
    obtain ⟨before, hbytes, hbefore⟩ := ih
    have hle := h.position_le
    obtain ⟨hlineStart, hvisible⟩ := h.sink_line
    have hposition := Sink.produce_position emission'.sink stop scopes
    -- up to the old position the scopes from before, from there on the new ones
    refine ⟨fun place => if place < emission'.sink.position then before place else scopes, ?_, ?_⟩
    · rw [Emission.produce, Sink.bytes_produce, hbytes, hposition, List.append_assoc,
        Sink.stretch_congr_sink hlineStart hvisible,
        ← Sink.stretch_append, Nat.max_eq_right hle]
      congr 2
      · exact Sink.stretch_congr _ fun place _ hto => (if_pos hto).symm
      · exact Sink.stretch_congr _ fun place hfrom _ => (if_neg (Nat.not_lt_of_le hfrom)).symm
    · intro place hfrom hto
      dsimp only
      split
      · next hlt => exact hbefore place hfrom hlt
      · exact hcover stop scopes hin
  | remark _ _ _ ih => exact ih
  | learn _ _ ih => exact ih

/-- Remarks are put behind those that are there. -/
theorem exists_remarks (h : Grows Cover Remark emission emission') :
    ∃ remarks, emission'.diagnostics.toList = emission.diagnostics.toList ++ remarks ∧
      ∀ diagnostic ∈ remarks, Remark diagnostic := by
  induction h with
  | refl => exact ⟨[], (List.append_nil _).symm, by simp⟩
  | produce _ _ _ _ ih => exact ih
  | @remark emission' diagnostic _ hin ih =>
    obtain ⟨remarks, hremarks, hall⟩ := ih
    refine ⟨remarks ++ [diagnostic], ?_, List.forall_mem_append.mpr ⟨hall, by simpa using hin⟩⟩
    rw [Emission.remark, Array.toList_push, hremarks, List.append_assoc]
  | learn _ _ ih => exact ih

end Grows

/-- An emission in a session of some kind grows into one in a session of that kind. -/
def Yields (Sessions : Session → Prop) (Cover : Nat → List String → Prop) (Remark : Diagnostic → Prop)
    (emission emission' : Emission) : Prop :=
  Sessions emission.session → Grows Cover Remark emission emission' ∧ Sessions emission'.session

namespace Yields

variable {Sessions : Session → Prop} {Cover : Nat → List String → Prop} {Remark : Diagnostic → Prop}
  {emission emission' emission'' : Emission}

theorem refl (emission : Emission) : Yields Sessions Cover Remark emission emission :=
  fun hsession => ⟨.refl emission, hsession⟩

theorem trans (h : Yields Sessions Cover Remark emission emission')
    (h' : Yields Sessions Cover Remark emission' emission'') :
    Yields Sessions Cover Remark emission emission'' := by
  intro hsession
  obtain ⟨hgrows, hsession'⟩ := h hsession
  obtain ⟨hgrows', hsession''⟩ := h' hsession'
  exact ⟨hgrows.trans hgrows', hsession''⟩

theorem produce (h : Yields Sessions Cover Remark emission emission') {stop : Nat}
    {scopes : List String} (hcover : Cover stop scopes) :
    Yields Sessions Cover Remark emission (emission'.produce stop scopes) := by
  intro hsession
  obtain ⟨hgrows, hsession'⟩ := h hsession
  exact ⟨.produce stop scopes hgrows hcover, hsession'⟩

end Yields

/-- A remark on a line is about a part of the line that is not blank and does not end with a line end. -/
theorem Leftover.exists_part {line : Line} {offset : Nat} {diagnostic : Diagnostic}
    (h : Leftover line offset diagnostic) :
    ∃ before part after, line.chars.toList = before ++ part ++ after ∧
      diagnostic = .unmatchedInput (offset + Line.byteCount before) (Line.byteCount part) ∧
      part.any (!Unicode.isBlank ·) = true ∧ ∀ c, part.getLast? = some c → Text.isLineEnd c = false := by
  obtain ⟨stop, cursor, hstop, hcursor, part, rfl, hany, rfl⟩ := h
  obtain ⟨first, second, hline, rfl⟩ := mem_boundaries_iff.mp hstop
  rw [Nat.zero_add, line.take_of_append hline] at hany ⊢
  obtain ⟨ends, hends, _⟩ := Text.exists_lineEnds ((Line.ofChars first).drop cursor)
  have hlast (c : Char) : (Text.dropLineEnds ((Line.ofChars first).drop cursor)).getLast? = some c →
      Text.isLineEnd c = false := Text.isLineEnd_of_getLast?_dropLineEnds
  rcases Nat.lt_or_ge (Line.ofChars first).size cursor with hbeyond | hinside
  · -- nothing is left there, so there is nothing to remark on
    rw [Line.drop_of_size_lt _ hbeyond] at hany
    cases hany
  · rw [Line.size_eq_byteCount, Line.chars_ofChars] at hinside
    have hboundary := hstop.take hcursor (by rwa [Nat.zero_add])
    rw [Nat.zero_add, line.take_of_append hline, Line.Boundary, Line.chars_ofChars] at hboundary
    obtain ⟨before, rest, rfl, rfl⟩ := mem_boundaries_iff.mp hboundary
    rw [Nat.zero_add, (Line.ofChars (before ++ rest)).drop_of_append (Line.chars_ofChars _)] at hany
    rw [Nat.zero_add, (Line.ofChars (before ++ rest)).drop_of_append (Line.chars_ofChars _)] at hends hlast
    refine ⟨before, _, ends ++ second, ?_, ?_, hany, hlast⟩
    · nth_rewrite 1 [hline, hends]
      simp only [List.append_assoc]
    · rw [Nat.zero_add, (Line.ofChars (before ++ rest)).drop_of_append (Line.chars_ofChars _)]

end Emission

open Emission (Yields)

/-! ## Captures -/

section Captures

variable {Sessions : Session → Prop} {Cover : Nat → List String → Prop} {Remark : Diagnostic → Prop}
  {Scopes : List String → Prop} {line : Line} {groups : Groups} {scopes : List String}
  {reenter : Option Reenter}

/-- An open group ends inside the match, and its scopes are of some kind. -/
def OpenGroup.Within (groups : Groups) (Scopes : List String → Prop) (group : OpenGroup) : Prop :=
  group.stop ≤ groups.whole.stop ∧ Scopes group.scopes

/-- Scanning the text of a group, with scopes of some kind, makes moves of some kind only. -/
def Capture.Enters (Sessions : Session → Prop) (Cover : Nat → List String → Prop)
    (Remark : Diagnostic → Prop) (Scopes : List String → Prop) (reenter : Option Reenter) (line : Line)
    (span : Span) (capture : Capture) : Prop :=
  ∀ f rule, reenter = some f → capture.rule = some rule → ∀ scopes, Scopes scopes →
    ∀ emission : Emission, span.start ≤ emission.sink.position →
      Yields Sessions Cover Remark emission
        (f (line.take span.stop) span.start { bottom := { rule, nameScopes := scopes } } emission)

variable (hcover : ∀ stop scopes, stop ≤ groups.whole.stop → Scopes scopes → Cover stop scopes)
include hcover

variable (Sessions Remark) in
theorem closeGroups_yields (position : Nat) {opened : List OpenGroup}
    (hopened : ∀ group ∈ opened, group.Within groups Scopes) (emission : Emission) :
    (∀ group ∈ (closeGroups position opened emission).1, group.Within groups Scopes) ∧
      Yields Sessions Cover Remark emission (closeGroups position opened emission).2 := by
  induction opened generalizing emission with
  | nil => exact ⟨hopened, .refl _⟩
  | cons group rest ih =>
    rw [closeGroups]
    split
    · obtain ⟨⟨hstop, hgroup⟩, hrest⟩ := List.forall_mem_cons.mp hopened
      obtain ⟨hleft, hyields⟩ := ih hrest (emission.produce group.stop group.scopes)
      exact ⟨hleft, ((Yields.refl emission).produce (hcover _ _ hstop hgroup)).trans hyields⟩
    · exact ⟨hopened, .refl _⟩

theorem closeAllGroups_yields {opened : List OpenGroup}
    (hopened : ∀ group ∈ opened, group.Within groups Scopes) (emission : Emission) :
    Yields Sessions Cover Remark emission (closeAllGroups opened emission) := by
  induction opened generalizing emission with
  | nil => exact .refl _
  | cons group rest ih =>
    obtain ⟨⟨hstop, hgroup⟩, hrest⟩ := List.forall_mem_cons.mp hopened
    exact ((Yields.refl emission).produce (hcover _ _ hstop hgroup)).trans (ih hrest _)

theorem resolveCapture_yields {number : Nat} {capture : Capture}
    (hcapture : ∀ scopes, Scopes scopes → Scopes (scopes ++ capture.scopes))
    (henters : ∀ span, groups.Spans number span →
      capture.Enters Sessions Cover Remark Scopes reenter line span)
    (hscopes : Scopes scopes) {opened : List OpenGroup}
    (hopened : ∀ group ∈ opened, group.Within groups Scopes) (emission : Emission) :
    (∀ group ∈ (resolveCapture reenter line groups scopes number capture opened emission).1,
        group.Within groups Scopes) ∧
      Yields Sessions Cover Remark emission
        (resolveCapture reenter line groups scopes number capture opened emission).2 := by
  rw [resolveCapture]
  split
  · exact ⟨hopened, .refl _⟩
  next span hclipped =>
  split
  · exact ⟨hopened, .refl _⟩
  have hspans : groups.Spans number span := Groups.clipped?_eq_some_iff.mp hclipped
  have hinside : span.start ≤ groups.whole.stop ∧ span.stop ≤ groups.whole.stop := by
    obtain ⟨whole, _, _, _, hinside, rfl⟩ := hspans
    exact ⟨Nat.le_of_lt hinside, Nat.min_le_right _ _⟩
  obtain ⟨hleft, hclosed⟩ := closeGroups_yields Sessions Remark hcover span.start hopened
    emission
  generalize closeGroups span.start opened emission = closed at hleft hclosed
  obtain ⟨left, closed⟩ := closed
  dsimp only at hleft hclosed ⊢
  have hparent : Scopes (innermostScopes scopes left) := by
    cases left with
    | nil => exact hscopes
    | cons group rest => exact (hleft group List.mem_cons_self).2
  have happroach := hclosed.produce (hcover span.start _ hinside.1 hparent)
  have hposition :
      span.start ≤ (closed.produce span.start (innermostScopes scopes left)).sink.position := by
    rw [Emission.produce, Sink.produce_position]
    exact Nat.le_max_right _ _
  unfold enterGroup
  split
  · next rule f hrule =>
    exact ⟨hleft, happroach.trans
      (henters _ hspans f rule rfl hrule _ (hcapture _ hparent) _ hposition)⟩
  · exact ⟨List.forall_mem_cons.mpr ⟨⟨hinside.2, hcapture _ hparent⟩, hleft⟩, happroach⟩

theorem resolveEach_yields {captures : CaptureMap}
    (hcaptures : ∀ entry ∈ captures, ∀ scopes, Scopes scopes → Scopes (scopes ++ entry.2.scopes))
    (henters : ∀ entry ∈ captures, ∀ span, groups.Spans entry.1 span →
      entry.2.Enters Sessions Cover Remark Scopes reenter line span)
    (hscopes : Scopes scopes) {opened : List OpenGroup}
    (hopened : ∀ group ∈ opened, group.Within groups Scopes) (emission : Emission) :
    (∀ group ∈ (resolveEach reenter line groups scopes captures opened emission).1,
        group.Within groups Scopes) ∧
      Yields Sessions Cover Remark emission
        (resolveEach reenter line groups scopes captures opened emission).2 := by
  induction captures generalizing opened emission with
  | nil => exact ⟨hopened, .refl _⟩
  | cons entry rest ih =>
    obtain ⟨hcapture, hcaptures⟩ := List.forall_mem_cons.mp hcaptures
    obtain ⟨henter, henters⟩ := List.forall_mem_cons.mp henters
    obtain ⟨hopens, hyields⟩ :=
      resolveCapture_yields hcover hcapture henter hscopes hopened emission
    obtain ⟨hrest, hyields'⟩ := ih hcaptures henters hopens _
    exact ⟨hrest, hyields.trans hyields'⟩

/-- **Covering a match makes moves of the given kind.** -/
theorem resolveCaptures_yields {captures : CaptureMap}
    (hcaptures : ∀ entry ∈ captures, ∀ scopes, Scopes scopes → Scopes (scopes ++ entry.2.scopes))
    (henters : ∀ entry ∈ captures, ∀ span, groups.Spans entry.1 span →
      entry.2.Enters Sessions Cover Remark Scopes reenter line span)
    (hscopes : Scopes scopes) (emission : Emission) :
    Yields Sessions Cover Remark emission
      (resolveCaptures reenter line groups captures scopes emission) := by
  rw [resolveCaptures]
  obtain ⟨hopens, hyields⟩ := resolveEach_yields hcover hcaptures henters hscopes
    (List.forall_mem_nil _) emission
  generalize resolveEach reenter line groups scopes captures [] emission = resolved at hopens hyields
  obtain ⟨left, resolved⟩ := resolved
  exact (hyields.trans (closeAllGroups_yields hcover hopens _)).produce
    (hcover _ _ (Nat.le_refl _) hscopes)

end Captures

/-! ## Steps -/

/-- The captures of the match by which a rule competes. -/
def Rule.captures (rule : Rule) : CaptureMap :=
  match rule.kind with
  | .simple _ captures => captures
  | .region region => region.openingCaptures
  | .group _ | .link _ => []

namespace LineScan

variable {scan : LineScan}

/-- The pattern by which a step can match, and the captures and scopes with which its match is covered:
those of the end of the innermost region, or those of a rule. -/
inductive Applies (scan : LineScan) (stack : ScopeStack) :
    Pattern → CaptureMap → List String → Prop where
  | closing {pattern : Pattern} (hclosing : stack.top.closing = some pattern) :
      Applies scan stack pattern (scan.closingCaptures stack.top.rule) stack.delimiterScopes
  | rule {id : RuleId} {rule : Rule} {pattern : Pattern} (hrule : scan.repository.rule? id = some rule)
      (hpattern : rule.pattern? = some pattern) :
      Applies scan stack pattern rule.captures (stack.scopes ++ rule.scopes)

/-- What a step gives out when it finds a match: the text before it is covered, and then the match, unless
it is an empty begin that is refused. -/
structure Covers (scan : LineScan) (state : Drive) (scene : Scene) (stop : Nat) (pattern : Pattern)
    (groups : Groups) (captures : CaptureMap) (scopes : List String) : Prop where
  applies : scan.Applies state.scene.stack pattern captures scopes
  finds : scan.Finds state pattern groups
  stop_eq : stop = groups.whole.stop
  emission :
    (scene.emission = (scan.approached state groups).emission ∧ groups.whole.isEmpty = true) ∨
      ∃ session, scene.emission = { resolveCaptures scan.reenter scan.line groups captures scopes
        (scan.approached state groups).emission with session }

theorem closed_emission (scan : LineScan) (groups : Groups) (scene : Scene) :
    (scan.closed groups scene).emission = resolveCaptures scan.reenter scan.line groups
      (scan.closingCaptures scene.stack.top.rule) scene.stack.delimiterScopes scene.emission := by
  rw [closed]
  split
  · rfl
  · rfl

/-- **What a step gives out.** -/
theorem Step.covers {state : Drive} {scene : Scene} {stop : Nat} {forced unwind : Bool}
    (hstep : scan.Step state (.matched scene stop forced unwind)) :
    ∃ pattern groups captures scopes,
      scan.Covers state scene stop pattern groups captures scopes := by
  cases hstep with
  | close pattern groups hclosing hfinds =>
    exact ⟨pattern, groups, _, _, .closing hclosing, hfinds, rfl,
      Or.inr ⟨_, scan.closed_emission groups (scan.approached state groups)⟩⟩
  | simple id rule pattern captures groups hid hrule hkind hfinds =>
    have hpattern : rule.pattern? = some pattern := by rw [Rule.pattern?, hkind]
    have hcaptures : rule.captures = captures := by rw [Rule.captures, hkind]
    refine ⟨pattern, groups, _, _, .rule hrule hpattern, hfinds, rfl, Or.inr ?_⟩
    rw [hcaptures]
    exact ⟨_, rfl⟩
  | refuse id rule region groups hid hrule hkind hfinds hrefuses =>
    rw [refuses, Bool.and_eq_true] at hrefuses
    exact ⟨region.opening, groups, _, _, .rule hrule (Rule.pattern?_of_region hkind), hfinds, rfl,
      Or.inl ⟨rfl, hrefuses.1⟩⟩
  | enter id rule region groups hid hrule hkind hfinds hrefuses =>
    have hcaptures : rule.captures = region.openingCaptures := by rw [Rule.captures, hkind]
    refine ⟨region.opening, groups, _, _, .rule hrule (Rule.pattern?_of_region hkind), hfinds, rfl,
      Or.inr ?_⟩
    rw [hcaptures]
    exact ⟨_, rfl⟩

/-- What a step that finds nothing gives out: it may remark on the rest of the line, and covers it. -/
theorem Step.unmatched_emission {state : Drive} {scene : Scene}
    (hstep : scan.Step state (.unmatched scene)) :
    scene = scan.leave state.cursor (scan.looked state.scene) := by
  cases hstep with
  | unmatched hnone => rfl

/-- After a step a scan goes on behind the match, unless that lies before the cursor. A character may be
covered by force, with the scopes of a frame that is left. -/
theorem settle_emission (scan : LineScan) (state : Drive) (scene : Scene) (stop : Nat)
    (forced unwind : Bool) :
    let next := scan.settle state scene stop forced unwind
    (next.scene.emission = scene.emission ∧ next.cursor = max state.cursor stop) ∨
      (next.scene.emission = scene.emission.produce next.cursor next.scene.stack.scopes ∧
        next.cursor = scan.line.next (max state.cursor stop)) := by
  have hforce (cursor : Nat) (unwind : Bool) (scene : Scene) :
      (scan.force cursor unwind scene).scene.emission = scene.emission.produce
        (scan.force cursor unwind scene).cursor (scan.force cursor unwind scene).scene.stack.scopes := by
    cases unwind with
    | false => rfl
    | true =>
      show (scene.unwind.cover (scan.line.next cursor)).emission = _
      rw [Scene.cover, Scene.unwind, (scene.dropRegions_frame _).2]
      rfl
  dsimp only
  rw [settle]
  split
  · next hlt =>
    rw [Nat.max_eq_right (Nat.le_of_lt hlt)]
    split
    · exact Or.inr ⟨hforce stop unwind { scene with settled := scene.stack.depth }, rfl⟩
    · exact Or.inl ⟨rfl, rfl⟩
  · next hge =>
    rw [Nat.max_eq_left (Nat.le_of_not_lt hge)]
    dsimp only
    split
    · exact Or.inr ⟨hforce _ _ scene, rfl⟩
    · exact Or.inl ⟨rfl, rfl⟩

end LineScan

end ScopeScanner
