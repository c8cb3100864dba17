import ScopeScanner.Proofs.Scanner.Step
import ScopeScanner.Proofs.Scanner.Tiling
import ScopeScanner.Proofs.Text.Boundary

/-!
# What a scan of a line gives out

All that a scan of a line does to its emission is a series of three kinds of moves: it covers the line
up to some position, it adds a remark, and its session learns something. `Emission.Grows` says which
positions, scopes and remarks may occur. For a scan of a line (`Emission.GrowsOver`) these are

* character boundaries of the line,
* scopes that begin with those of the bottom frame,
* remarks on what is left of the line, or of a part of it, from a character boundary on.

The main statement is **`scanLine_grows`**: this holds for every scan of a line, groups that are
scanned again included, and afterwards the line has been covered to its end. It is an induction on
how deep groups may still be entered; `drive_grows` is the case of one level.
-/

namespace ScopeScanner

namespace Emission

/-- One emission comes from another by covering more of the line, by remarks, and by what the session
learns, where all positions with their scopes are in `Cover` and all remarks in `Remark`. -/
inductive Grows (Cover : Nat → List String → Prop) (Remark : Diagnostic → Prop) :
    Emission → Emission → Prop where
  | refl (emission : Emission) : Grows Cover Remark emission emission
  | produce {emission emission' : Emission} (stop : Nat) (scopes : List String)
      (h : Grows Cover Remark emission emission') (hcover : Cover stop scopes) :
      Grows Cover Remark emission (emission'.produce stop scopes)
  | remark {emission emission' : Emission} (diagnostic : Diagnostic)
      (h : Grows Cover Remark emission emission') (hremark : Remark diagnostic) :
      Grows Cover Remark emission (emission'.remark diagnostic)
  | learn {emission emission' : Emission} (session : Session)
      (h : Grows Cover Remark emission emission') :
      Grows Cover Remark emission { emission' with session }

namespace Grows

variable {Cover : Nat → List String → Prop} {Remark : Diagnostic → Prop}
  {emission emission' emission'' : Emission}

theorem trans (h : Grows Cover Remark emission emission')
    (h' : Grows Cover Remark emission' emission'') : Grows Cover Remark emission emission'' := by
  induction h' with
  | refl => exact h
  | produce stop scopes _ hcover ih => exact .produce stop scopes ih hcover
  | remark diagnostic _ hremark ih => exact .remark diagnostic ih hremark
  | learn session _ ih => exact .learn session ih

theorem mono {Cover' : Nat → List String → Prop} {Remark' : Diagnostic → Prop}
    (h : Grows Cover Remark emission emission')
    (hcover : ∀ stop scopes, Cover stop scopes → Cover' stop scopes)
    (hremark : ∀ diagnostic, Remark diagnostic → Remark' diagnostic) :
    Grows Cover' Remark' emission emission' := by
  induction h with
  | refl => exact .refl _
  | produce stop scopes _ hin ih => exact .produce stop scopes ih (hcover _ _ hin)
  | remark diagnostic _ hin ih => exact .remark diagnostic ih (hremark _ hin)
  | learn session _ ih => exact .learn session ih

/-- The sink never goes back. -/
theorem position_le (h : Grows Cover Remark emission emission') :
    emission.sink.position ≤ emission'.sink.position := by
  induction h with
  | refl => exact Nat.le_refl _
  | produce stop scopes _ _ ih =>
    rw [Emission.produce, Sink.produce_position]
    omega
  | remark _ _ _ ih => exact ih
  | learn _ _ ih => exact ih

/-- The sink stays on its line. -/
theorem sink_line (h : Grows Cover Remark emission emission') :
    emission'.sink.lineStart = emission.sink.lineStart ∧
      emission'.sink.visible = emission.sink.visible := by
  induction h with
  | refl => exact ⟨rfl, rfl⟩
  | produce stop scopes _ _ ih =>
    rw [Emission.produce, Sink.produce_lineStart, Sink.produce_visible]
    exact ih
  | remark _ _ _ ih => exact ih
  | learn _ _ ih => exact ih

/-- Whether neighbouring tokens become one is settled once for all. -/
theorem sink_merge (h : Grows Cover Remark emission emission') :
    emission'.sink.merge = emission.sink.merge := by
  induction h with
  | refl => rfl
  | produce stop scopes _ _ ih =>
    rw [Emission.produce, Sink.produce_merge]
    exact ih
  | remark _ _ _ ih => exact ih
  | learn _ _ ih => exact ih

/-- Remarks that were there stay, and all others are among those that may be added. -/
theorem mem_diagnostics (h : Grows Cover Remark emission emission') {diagnostic : Diagnostic}
    (hmem : diagnostic ∈ emission'.diagnostics.toList) :
    diagnostic ∈ emission.diagnostics.toList ∨ Remark diagnostic := by
  induction h with
  | refl => exact Or.inl hmem
  | produce _ _ _ _ ih => exact ih hmem
  | remark added _ hremark ih =>
    rw [Emission.remark, Array.toList_push, List.mem_append, List.mem_singleton] at hmem
    rcases hmem with hmem | rfl
    · exact ih hmem
    · exact Or.inr hremark
  | learn _ _ ih => exact ih hmem

/-- A tiled line stays tiled, if what is visible up to each position in use ends on an edge. -/
theorem tiled {Edge : Nat → Prop} {earlier : List Token}
    (h : Grows Cover Remark emission emission') (htiled : emission.sink.Tiled Edge earlier)
    (hedge : ∀ stop scopes, Cover stop scopes →
      Edge (emission.sink.lineStart + min stop emission.sink.visible)) :
    emission'.sink.Tiled Edge earlier := by
  induction h with
  | refl => exact htiled
  | produce stop scopes h hcover ih =>
    obtain ⟨hlineStart, hvisible⟩ := h.sink_line
    apply ih.produce stop scopes
    rw [hlineStart, hvisible]
    exact hedge stop scopes hcover
  | remark _ _ _ ih => exact ih
  | learn _ _ ih => exact ih

end Grows

/-- A remark on what is left of a line, or of a beginning of it, from a character boundary on. -/
def Leftover (line : Line) (offset : Nat) (diagnostic : Diagnostic) : Prop :=
  ∃ stop cursor, line.Boundary stop ∧ line.Boundary cursor ∧
    ∃ rest, rest = Text.dropLineEnds ((line.take stop).drop cursor) ∧
      rest.any (!Unicode.isBlank ·) = true ∧
      diagnostic = .unmatchedInput (offset + cursor) (Line.byteCount rest)

/-- One emission comes from another by a scan of a line that starts at `offset`, with a stack whose
bottom carries the scopes `base`. -/
def GrowsOver (line : Line) (offset : Nat) (base : List String) : Emission → Emission → Prop :=
  Grows (fun stop scopes => line.Boundary stop ∧ base <+: scopes) (Leftover line offset)

namespace GrowsOver

variable {line : Line} {offset : Nat} {base : List String} {emission emission' emission'' : Emission}

theorem refl (emission : Emission) : GrowsOver line offset base emission emission :=
  Grows.refl emission

theorem trans (h : GrowsOver line offset base emission emission')
    (h' : GrowsOver line offset base emission' emission'') :
    GrowsOver line offset base emission emission'' :=
  Grows.trans h h'

theorem produce {stop : Nat} {scopes : List String}
    (h : GrowsOver line offset base emission emission') (hstop : line.Boundary stop)
    (hscopes : base <+: scopes) :
    GrowsOver line offset base emission (emission'.produce stop scopes) :=
  Grows.produce stop scopes h ⟨hstop, hscopes⟩

theorem learn (session : Session) (h : GrowsOver line offset base emission emission') :
    GrowsOver line offset base emission { emission' with session } :=
  Grows.learn session h

theorem position_le (h : GrowsOver line offset base emission emission') :
    emission.sink.position ≤ emission'.sink.position :=
  Grows.position_le h

/-- A scan of a part of the line is a scan of the line. -/
theorem of_take {stop : Nat} {base' : List String} (hstop : line.Boundary stop)
    (hbase : base <+: base')
    (h : GrowsOver (line.take stop) offset base' emission emission') :
    GrowsOver line offset base emission emission' := by
  apply Grows.mono h
  · rintro p scopes ⟨hp, hscopes⟩
    exact ⟨hstop.of_take hp, hbase.trans hscopes⟩
  · rintro diagnostic ⟨last, cursor, hlast, hcursor, rest, hrest, hany, rfl⟩
    refine ⟨last, cursor, hstop.of_take hlast, hstop.of_take hcursor, rest, ?_, hany, rfl⟩
    rw [hrest, Line.take_take hstop hlast]

end GrowsOver

end Emission

open Emission (GrowsOver)

/-! ## Groups -/

/-- All groups of a match lie on boundaries of the line. -/
def Groups.OnLine (groups : Groups) (line : Line) : Prop :=
  ∀ number span, groups.get? number = some span → line.Boundary span.start ∧ line.Boundary span.stop

namespace Groups

theorem ofIndices_onLine (line : Line) (spans : List (Option Span)) :
    (Groups.ofIndices line spans).OnLine line := by
  intro number span hget
  rw [get?, ofIndices, List.getElem?_map] at hget
  cases hspans : spans[number]? with
  | none => rw [hspans] at hget; cases hget
  | some entry =>
    cases entry with
    | none => rw [hspans] at hget; cases hget
    | some found =>
      rw [hspans] at hget
      obtain rfl := Option.some.inj hget
      exact ⟨line.offset_boundary _, line.offset_boundary _⟩

theorem OnLine.whole {groups : Groups} {line : Line} (h : groups.OnLine line) :
    line.Boundary groups.whole.start ∧ line.Boundary groups.whole.stop := by
  rw [Groups.whole]
  cases hget : groups.get? 0 with
  | none => exact ⟨line.zero_boundary, line.zero_boundary⟩
  | some span => exact h 0 span hget

end Groups

/-- What a pattern finds lies on boundaries of the line. -/
theorem Pattern.findAt_onLine {pattern : Pattern} {line : Line} {start : Nat} {atAnchor : Bool}
    {groups : Groups} (h : pattern.findAt line start atAnchor = .ok (some groups)) :
    groups.OnLine line := by
  have searched {regex : Regex} {first : Nat} {found : Groups}
      (hsearch : pattern.searchAt regex line first = .ok (some found)) : found.OnLine line := by
    rw [searchAt] at hsearch
    cases hresult : regex.search line.chars first pattern.budget with
    | error fault => rw [hresult] at hsearch; cases hsearch
    | ok spans =>
      cases spans with
      | none => rw [hresult] at hsearch; cases hsearch
      | some spans =>
        rw [hresult] at hsearch
        obtain rfl := Option.some.inj (Except.ok.inj hsearch)
        exact Groups.ofIndices_onLine line spans
  have later {first : Nat} (hlater : findAt.later pattern line first = .ok (some groups)) :
      groups.OnLine line := by
    rw [findAt.later] at hlater
    split at hlater
    · exact searched hlater
    · cases hlater
  rw [findAt] at h
  split at h
  · exact searched h
  · next attached _ =>
    cases hattached : pattern.searchAt attached line (line.index start) with
    | error fault => rw [hattached] at h; cases h
    | ok found =>
      rw [hattached] at h
      cases found with
      | none => exact later h
      | some found =>
        change (if found.whole.start = start then _ else _) = _ at h
        split at h
        · obtain rfl := Option.some.inj (Except.ok.inj h)
          exact searched hattached
        · exact later h

/-! ## Stacks -/

namespace ScopeStack

/-- The scopes of the bottom frame come first. -/
theorem bottom_prefix_scopes (stack : ScopeStack) : stack.bottom.nameScopes <+: stack.scopes := by
  rw [scopes, frames, List.flatMap_cons, Frame.scopes, List.append_assoc]
  exact List.prefix_append _ _

theorem bottom_prefix_delimiterScopes (stack : ScopeStack) :
    stack.bottom.nameScopes <+: stack.delimiterScopes := by
  rw [delimiterScopes]
  split
  · exact List.prefix_rfl
  · next top rest _ =>
    exact (bottom_prefix_scopes { stack with regions := rest }).trans (List.prefix_append _ _)

theorem bottom_of_pop {stack stack' : ScopeStack} {frame : Frame}
    (h : stack.pop? = some (frame, stack')) : stack'.bottom = stack.bottom := by
  rw [pop?] at h
  split at h
  · cases h
  · obtain rfl := (Prod.mk.inj (Option.some.inj h)).2
    rfl

end ScopeStack

namespace Scene

/-- Dropping regions changes the stack above its bottom, and the anchor. -/
theorem dropRegions_frame (count : Nat) (scene : Scene) :
    (scene.dropRegions count).stack.bottom = scene.stack.bottom ∧
      (scene.dropRegions count).emission = scene.emission := by
  induction count generalizing scene with
  | zero => exact ⟨rfl, rfl⟩
  | succ count ih =>
    rw [dropRegions]
    split
    · next frame stack hpop =>
      obtain ⟨hbottom, hemission⟩ := ih { scene with stack, anchor := frame.parentAnchor }
      exact ⟨hbottom.trans (ScopeStack.bottom_of_pop hpop), hemission⟩
    · exact ⟨rfl, rfl⟩

end Scene

/-! ## Captures -/

/-- Scanning the text of a group covers it to its end and gives out what a scan of it may. -/
def Reenter.Covers (reenter : Reenter) (offset : Nat) : Prop :=
  ∀ (line : Line) (start : Nat) (stack : ScopeStack) (emission : Emission),
    line.Boundary start → start ≤ emission.sink.position →
      GrowsOver line offset stack.bottom.nameScopes emission (reenter line start stack emission) ∧
        line.size ≤ (reenter line start stack emission).sink.position

section Captures

variable {line : Line} {offset : Nat} {base : List String}

/-- An open group ends on a boundary, and its scopes extend those of the bottom frame. -/
def OpenGroup.Proper (line : Line) (base : List String) (group : OpenGroup) : Prop :=
  line.Boundary group.stop ∧ base <+: group.scopes

theorem closeGroups_grows (offset position : Nat) {opened : List OpenGroup}
    (hopened : ∀ group ∈ opened, group.Proper line base) (emission : Emission) :
    (∀ group ∈ (closeGroups position opened emission).1, group.Proper line base) ∧
      GrowsOver line offset base emission (closeGroups position opened emission).2 := by
  induction opened generalizing emission with
  | nil => exact ⟨hopened, .refl _⟩
  | cons group rest ih =>
    rw [closeGroups]
    split
    · obtain ⟨hstop, hscopes⟩ := hopened group List.mem_cons_self
      obtain ⟨hrest, hgrows⟩ := ih (fun g hg => hopened g (List.mem_cons_of_mem _ hg))
        (emission.produce group.stop group.scopes)
      exact ⟨hrest, ((GrowsOver.refl emission).produce hstop hscopes).trans hgrows⟩
    · exact ⟨hopened, .refl _⟩

theorem closeAllGroups_grows {opened : List OpenGroup}
    (hopened : ∀ group ∈ opened, group.Proper line base) (emission : Emission) :
    GrowsOver line offset base emission (closeAllGroups opened emission) := by
  induction opened generalizing emission with
  | nil => exact .refl _
  | cons group rest ih =>
    obtain ⟨hstop, hscopes⟩ := hopened group List.mem_cons_self
    exact ((GrowsOver.refl emission).produce hstop hscopes).trans
      (ih (fun g hg => hopened g (List.mem_cons_of_mem _ hg)) _)

variable {reenter : Option Reenter} {groups : Groups} {scopes : List String}

/-- What a group spans of a match lies on boundaries and is not empty. -/
theorem Groups.OnLine.clipped (h : groups.OnLine line) {number : Nat} {span : Span}
    (hspan : groups.clipped? number = some span) :
    line.Boundary span.start ∧ line.Boundary span.stop ∧ span.start < span.stop := by
  rw [Groups.clipped?] at hspan
  obtain ⟨whole, hget, hclip⟩ := Option.bind_eq_some_iff.mp hspan
  obtain ⟨hstart, hstop⟩ := h number whole hget
  split at hclip
  · cases hclip
  · next hinside =>
    obtain rfl := Option.some.inj hclip
    simp only [Span.isEmpty, Bool.or_eq_true, decide_eq_true_eq, not_or, Nat.not_le] at hinside
    refine ⟨hstart, ?_, ?_⟩
    · rcases Nat.le_total whole.stop groups.whole.stop with hle | hle
      · show line.Boundary (min whole.stop groups.whole.stop)
        rw [Nat.min_eq_left hle]
        exact hstop
      · show line.Boundary (min whole.stop groups.whole.stop)
        rw [Nat.min_eq_right hle]
        exact h.whole.2
    · show whole.start < min whole.stop groups.whole.stop
      omega

theorem innermostScopes_prefix (hscopes : base <+: scopes) {opened : List OpenGroup}
    (hopened : ∀ group ∈ opened, group.Proper line base) :
    base <+: innermostScopes scopes opened := by
  cases opened with
  | nil => exact hscopes
  | cons group rest => exact (hopened group List.mem_cons_self).2

theorem enterGroup_grows (hreenter : ∀ f, reenter = some f → f.Covers offset) {span : Span}
    (hstart : line.Boundary span.start) (hstop : line.Boundary span.stop)
    (hlt : span.start < span.stop) (rule : Option RuleId) (hscopes : base <+: scopes)
    {opened : List OpenGroup} (hopened : ∀ group ∈ opened, group.Proper line base)
    {emission : Emission} (hposition : span.start ≤ emission.sink.position) :
    (∀ group ∈ (enterGroup reenter line span rule scopes opened emission).1,
        group.Proper line base) ∧
      GrowsOver line offset base emission
        (enterGroup reenter line span rule scopes opened emission).2 := by
  have opens : (∀ group ∈ (⟨span.stop, scopes⟩ :: opened : List OpenGroup),
      group.Proper line base) := by
    intro group hmem
    rcases List.mem_cons.mp hmem with rfl | hmem
    · exact ⟨hstop, hscopes⟩
    · exact hopened group hmem
  cases rule with
  | none => exact ⟨opens, .refl _⟩
  | some rule =>
    cases reenter with
    | none => exact ⟨opens, .refl _⟩
    | some f =>
      -- the group is scanned on a line of its own, which ends where the group does
      have hinside := hstop.take hstart (Nat.le_of_lt hlt)
      exact ⟨hopened, GrowsOver.of_take hstop hscopes
        (hreenter f rfl _ _ { bottom := { rule, nameScopes := scopes } } _ hinside hposition).1⟩

theorem resolveCapture_grows (hreenter : ∀ f, reenter = some f → f.Covers offset)
    (hgroups : groups.OnLine line) (hscopes : base <+: scopes) (number : Nat) (capture : Capture)
    {opened : List OpenGroup} (hopened : ∀ group ∈ opened, group.Proper line base)
    (emission : Emission) :
    (∀ group ∈ (resolveCapture reenter line groups scopes number capture opened emission).1,
        group.Proper line base) ∧
      GrowsOver line offset base emission
        (resolveCapture reenter line groups scopes number capture opened emission).2 := by
  rw [resolveCapture]
  split
  · exact ⟨hopened, .refl _⟩
  · next span hspan =>
    split
    · exact ⟨hopened, .refl _⟩
    obtain ⟨hstart, hstop, hlt⟩ := hgroups.clipped hspan
    -- groups that end before this one are closed first, then the text up to it is covered
    obtain ⟨hleft, hclosed⟩ := closeGroups_grows offset span.start hopened emission
    generalize closeGroups span.start opened emission = closed at hleft hclosed
    obtain ⟨left, closed⟩ := closed
    dsimp only at hleft hclosed ⊢
    have hparent := innermostScopes_prefix hscopes hleft
    have happroach := hclosed.produce hstart hparent
    have hposition :
        span.start ≤ (closed.produce span.start (innermostScopes scopes left)).sink.position := by
      rw [Emission.produce, Sink.produce_position]
      exact Nat.le_max_right _ _
    obtain ⟨hopens, henter⟩ := enterGroup_grows hreenter hstart hstop hlt capture.rule
      (hparent.trans (List.prefix_append _ capture.scopes)) hleft hposition
    exact ⟨hopens, happroach.trans henter⟩

theorem resolveEach_grows (hreenter : ∀ f, reenter = some f → f.Covers offset)
    (hgroups : groups.OnLine line) (hscopes : base <+: scopes) (captures : CaptureMap)
    {opened : List OpenGroup} (hopened : ∀ group ∈ opened, group.Proper line base)
    (emission : Emission) :
    (∀ group ∈ (resolveEach reenter line groups scopes captures opened emission).1,
        group.Proper line base) ∧
      GrowsOver line offset base emission
        (resolveEach reenter line groups scopes captures opened emission).2 := by
  induction captures generalizing opened emission with
  | nil => exact ⟨hopened, .refl _⟩
  | cons entry rest ih =>
    obtain ⟨number, capture⟩ := entry
    obtain ⟨hopens, hgrows⟩ :=
      resolveCapture_grows hreenter hgroups hscopes number capture hopened emission
    obtain ⟨hrest, hgrows'⟩ := ih hopens _
    exact ⟨hrest, hgrows.trans hgrows'⟩

/-- Covering a match with tokens covers it to its end. -/
theorem resolveCaptures_grows (hreenter : ∀ f, reenter = some f → f.Covers offset)
    (hgroups : groups.OnLine line) (hscopes : base <+: scopes) (captures : CaptureMap)
    (emission : Emission) :
    GrowsOver line offset base emission
        (resolveCaptures reenter line groups captures scopes emission) ∧
      groups.whole.stop ≤
        (resolveCaptures reenter line groups captures scopes emission).sink.position := by
  have hnone : ∀ group ∈ ([] : List OpenGroup), group.Proper line base := by
    intro group hmem
    cases hmem
  rw [resolveCaptures]
  obtain ⟨hopens, hgrows⟩ :=
    resolveEach_grows hreenter hgroups hscopes captures hnone emission
  generalize resolveEach reenter line groups scopes captures [] emission = resolved at hopens hgrows
  obtain ⟨left, resolved⟩ := resolved
  dsimp only at hopens hgrows ⊢
  refine ⟨(hgrows.trans (closeAllGroups_grows hopens _)).produce hgroups.whole.2 hscopes, ?_⟩
  rw [Emission.produce, Sink.produce_position]
  exact Nat.le_max_right _ _

end Captures

/-! ## Scans of a line -/

namespace LineScan

variable {scan : LineScan}

/-- What a scan of a line from one emission on keeps: the bottom of the stack stays, and the line has
been covered up to the cursor, which is on a boundary. -/
structure Onward (scan : LineScan) (bottom : Frame) (origin : Emission) (state : Drive) : Prop where
  bottom_eq : state.scene.stack.bottom = bottom
  boundary : scan.line.Boundary state.cursor
  covered : state.cursor ≤ state.scene.emission.sink.position
  grows : GrowsOver scan.line scan.offset bottom.nameScopes origin state.scene.emission

/-- A scene in which the line has been covered up to `stop`. -/
structure Reached (scan : LineScan) (bottom : Frame) (origin : Emission) (stop : Nat)
    (scene : Scene) : Prop where
  bottom_eq : scene.stack.bottom = bottom
  covered : stop ≤ scene.emission.sink.position
  grows : GrowsOver scan.line scan.offset bottom.nameScopes origin scene.emission

namespace Reached

variable {bottom : Frame} {origin : Emission} {stop : Nat} {scene : Scene}

/-- Covering more of the line with the scopes of the innermost frame. -/
theorem cover (h : scan.Reached bottom origin stop scene) {last : Nat}
    (hlast : scan.line.Boundary last) : scan.Reached bottom origin last (scene.cover last) where
  bottom_eq := h.bottom_eq
  covered := by
    show last ≤ (scene.emission.sink.produce last scene.stack.scopes).position
    rw [Sink.produce_position]
    exact Nat.le_max_right _ _
  grows := h.grows.produce hlast (h.bottom_eq ▸ scene.stack.bottom_prefix_scopes)

/-- Covering a match, with scopes that extend those of the bottom frame. -/
theorem capture (h : scan.Reached bottom origin stop scene)
    (hreenter : ∀ f, scan.reenter = some f → f.Covers scan.offset) {groups : Groups}
    (hgroups : groups.OnLine scan.line) {scopes : List String} (hscopes : bottom.nameScopes <+: scopes)
    (captures : CaptureMap) :
    scan.Reached bottom origin groups.whole.stop (scan.capture groups captures scopes scene) := by
  obtain ⟨hgrows, hcovered⟩ :=
    resolveCaptures_grows hreenter hgroups hscopes captures scene.emission
  exact ⟨h.bottom_eq, hcovered, h.grows.trans hgrows⟩

theorem mono (h : scan.Reached bottom origin stop scene) {first : Nat} (hle : first ≤ stop) :
    scan.Reached bottom origin first scene :=
  ⟨h.bottom_eq, Nat.le_trans hle h.covered, h.grows⟩

theorem unwind (h : scan.Reached bottom origin stop scene) :
    scan.Reached bottom origin stop scene.unwind := by
  obtain ⟨hbottom, hemission⟩ :=
    scene.dropRegions_frame (scene.stack.depth - scene.settled)
  refine ⟨hbottom.trans h.bottom_eq, ?_, ?_⟩
  · rw [Scene.unwind, hemission]
    exact h.covered
  · rw [Scene.unwind, hemission]
    exact h.grows

end Reached

namespace Onward

variable {bottom : Frame} {origin : Emission} {state : Drive}

theorem looked (h : scan.Onward bottom origin state) :
    scan.Reached bottom origin state.cursor (scan.looked state.scene) :=
  ⟨h.bottom_eq, h.covered, h.grows.learn _⟩

theorem approached (h : scan.Onward bottom origin state) {groups : Groups}
    (hgroups : groups.OnLine scan.line) :
    scan.Reached bottom origin groups.whole.start (scan.approached state groups) :=
  h.looked.cover hgroups.whole.1

end Onward

/-- Leaving the line covers it to its end. -/
theorem leave_reached {bottom : Frame} {origin : Emission} {scene : Scene} {cursor : Nat}
    (h : scan.Reached bottom origin cursor scene) (hcursor : scan.line.Boundary cursor) :
    scan.Reached bottom origin scan.line.size (scan.leave cursor scene) := by
  rw [leave]
  refine Reached.cover (?_ : scan.Reached bottom origin cursor _) scan.line.size_boundary
  split
  · next hany =>
    refine ⟨h.bottom_eq, h.covered, .remark _ h.grows ?_⟩
    refine ⟨scan.line.size, cursor, scan.line.size_boundary, hcursor, _, ?_, hany, rfl⟩
    rw [scan.line.drop_take_size]
  · exact h

/-- Ending the innermost region covers the match. -/
theorem closed_reached {bottom : Frame} {origin : Emission} {scene : Scene} {stop : Nat}
    (h : scan.Reached bottom origin stop scene)
    (hreenter : ∀ f, scan.reenter = some f → f.Covers scan.offset) {groups : Groups}
    (hgroups : groups.OnLine scan.line) :
    scan.Reached bottom origin groups.whole.stop (scan.closed groups scene) := by
  have hscopes : bottom.nameScopes <+: scene.stack.delimiterScopes :=
    h.bottom_eq ▸ scene.stack.bottom_prefix_delimiterScopes
  have hcapture := h.capture hreenter hgroups hscopes (scan.closingCaptures scene.stack.top.rule)
  rw [closed]
  split
  · next frame stack hpop =>
    exact ⟨(ScopeStack.bottom_of_pop hpop).trans hcapture.bottom_eq, hcapture.covered,
      hcapture.grows⟩
  · exact ⟨hcapture.bottom_eq, hcapture.covered, hcapture.grows⟩

/-- Beginning a region covers the match. -/
theorem entered_reached {bottom : Frame} {origin : Emission} {scene : Scene} {stop : Nat}
    (rule : Rule) (region : Region) (h : scan.Reached bottom origin stop scene)
    (hreenter : ∀ f, scan.reenter = some f → f.Covers scan.offset) {groups : Groups}
    (hgroups : groups.OnLine scan.line) :
    scan.Reached bottom origin groups.whole.stop (scan.entered rule region groups scene) := by
  have hscopes : bottom.nameScopes <+: scene.stack.scopes :=
    h.bottom_eq ▸ scene.stack.bottom_prefix_scopes
  have hcapture := h.capture hreenter hgroups
    (hscopes.trans (List.prefix_append _ rule.scopes)) region.openingCaptures
  exact ⟨hcapture.bottom_eq, hcapture.covered, hcapture.grows.learn _⟩

/-- A step that finds a match covers the line up to its end. -/
theorem Step.reached {bottom : Frame} {origin : Emission} {state : Drive} {scene : Scene}
    {stop : Nat} {forced unwind : Bool} (hstep : scan.Step state (.matched scene stop forced unwind))
    (h : scan.Onward bottom origin state)
    (hreenter : ∀ f, scan.reenter = some f → f.Covers scan.offset) :
    scan.line.Boundary stop ∧ scan.Reached bottom origin stop scene := by
  cases hstep with
  | close pattern groups hclosing hfinds =>
    have hgroups := Pattern.findAt_onLine hfinds
    exact ⟨hgroups.whole.2, closed_reached (h.approached hgroups) hreenter hgroups⟩
  | simple id rule pattern captures groups hid hrule hkind hfinds =>
    have hgroups := Pattern.findAt_onLine hfinds
    have happroached := h.approached hgroups
    refine ⟨hgroups.whole.2, happroached.capture hreenter hgroups ?_ captures⟩
    exact (happroached.bottom_eq ▸ ScopeStack.bottom_prefix_scopes _).trans (List.prefix_append _ _)
  | refuse id rule region groups hid hrule hkind hfinds hrefuses =>
    have hgroups := Pattern.findAt_onLine hfinds
    simp only [refuses, Bool.and_eq_true, Span.isEmpty, decide_eq_true_eq] at hrefuses
    exact ⟨hgroups.whole.2, (h.approached hgroups).mono hrefuses.1⟩
  | enter id rule region groups hid hrule hkind hfinds hrefuses =>
    have hgroups := Pattern.findAt_onLine hfinds
    exact ⟨hgroups.whole.2, entered_reached rule region (h.approached hgroups) hreenter hgroups⟩

/-- What has been covered before a step stays covered. -/
theorem Step.covered {bottom : Frame} {origin : Emission} {state : Drive} {scene : Scene}
    {stop : Nat} {forced unwind : Bool} (hstep : scan.Step state (.matched scene stop forced unwind))
    (h : scan.Onward bottom origin state)
    (hreenter : ∀ f, scan.reenter = some f → f.Covers scan.offset) :
    state.cursor ≤ scene.emission.sink.position := by
  -- the same state, seen from its own emission: all that is given out is given out by the step
  have hself : scan.Onward bottom state.scene.emission state :=
    ⟨h.bottom_eq, h.boundary, h.covered, .refl _⟩
  exact Nat.le_trans h.covered (hstep.reached hself hreenter).2.grows.position_le

/-- A step that finds nothing covers the line to its end. -/
theorem Step.reached_end {bottom : Frame} {origin : Emission} {state : Drive} {scene : Scene}
    (hstep : scan.Step state (.unmatched scene)) (h : scan.Onward bottom origin state) :
    scan.Reached bottom origin scan.line.size scene := by
  cases hstep with
  | unmatched hnone => exact leave_reached h.looked h.boundary

/-- Covering one character by force, after the regions opened in this place have been dropped. -/
theorem force_onward {bottom : Frame} {origin : Emission} {scene : Scene} {cursor : Nat}
    (h : scan.Reached bottom origin cursor scene) (unwind : Bool) :
    scan.Onward bottom origin (scan.force cursor unwind scene) := by
  have hready : scan.Reached bottom origin cursor (if unwind then scene.unwind else scene) := by
    cases unwind with
    | true => exact h.unwind
    | false => exact h
  have hcover := hready.cover (scan.line.next_boundary cursor)
  exact ⟨hcover.bottom_eq, scan.line.next_boundary cursor, hcover.covered, hcover.grows⟩

/-- After a step the line has been covered up to the new cursor. -/
theorem settle_onward {bottom : Frame} {origin : Emission} {state : Drive} {scene : Scene}
    {stop : Nat} {forced unwind : Bool} (hcursor : scan.line.Boundary state.cursor)
    (hstop : scan.line.Boundary stop) (h : scan.Reached bottom origin stop scene)
    (hcovered : state.cursor ≤ scene.emission.sink.position) :
    scan.Onward bottom origin (scan.settle state scene stop forced unwind) := by
  have hold : scan.Reached bottom origin state.cursor scene := ⟨h.bottom_eq, hcovered, h.grows⟩
  rw [settle]
  split
  · split
    · have hmoved : scan.Reached bottom origin stop { scene with settled := scene.stack.depth } :=
        ⟨h.bottom_eq, h.covered, h.grows⟩
      exact force_onward hmoved unwind
    · exact ⟨h.bottom_eq, hstop, h.covered, h.grows⟩
  · dsimp only
    split
    · exact force_onward hold _
    · exact ⟨h.bottom_eq, hcursor, hcovered, h.grows⟩

/-- A scan covers the line from the cursor to its end and keeps the bottom of the stack. -/
theorem drive_grows (scan : LineScan) (state : Drive)
    (hreenter : ∀ f, scan.reenter = some f → f.Covers scan.offset)
    (hcursor : scan.line.Boundary state.cursor)
    (hcovered : state.cursor ≤ state.scene.emission.sink.position) :
    scan.Reached state.scene.stack.bottom state.scene.emission scan.line.size (scan.drive state) := by
  -- by induction on the run: `Onward` from the first emission is kept by every step
  refine drive_induct (scan.Onward state.scene.stack.bottom state.scene.emission) ?_ ?_ ?_
    state ⟨rfl, hcursor, hcovered, .refl _⟩
  · intro last h hend
    exact ⟨h.bottom_eq, Nat.le_trans hend h.covered, h.grows⟩
  · intro last scene h _ hstep
    exact hstep.reached_end h
  · intro last scene stop forced unwind h _ hstep
    obtain ⟨hstop, hreached⟩ := hstep.reached h hreenter
    exact settle_onward h.boundary hstop hreached (hstep.covered h hreenter)

end LineScan

/-- What a scan of a line does, however deep groups may be entered: it keeps the bottom of the stack
and covers the line to its end, with positions, scopes and remarks as they should be. -/
theorem scanLine_grows (repository : Repository) (stallLimit offset levels : Nat) (line : Line)
    (start : Nat) (anchor : Option Nat) (stack : ScopeStack) (emission : Emission)
    (hstart : line.Boundary start) (hcovered : start ≤ emission.sink.position) :
    let result := scanLine repository stallLimit offset levels line start anchor stack emission
    result.1.bottom = stack.bottom ∧
      line.size ≤ result.2.sink.position ∧
      GrowsOver line offset stack.bottom.nameScopes emission result.2 := by
  induction levels generalizing line start anchor stack emission with
  | zero =>
    rw [scanLine_eq]
    obtain ⟨hbottom, hsize, hgrows⟩ := LineScan.drive_grows
      { repository, stallLimit, line, offset, reenter := none }
      (.begin start anchor stack emission) (by intro f hf; cases hf) hstart hcovered
    exact ⟨hbottom, hsize, hgrows⟩
  | succ levels ih =>
    -- entering a group is a scan with one level less
    have hreenter : ∀ f, reentry repository stallLimit offset (levels + 1) = some f →
        f.Covers offset := by
      intro f hf
      cases hf
      intro line start stack emission hstart hcovered
      obtain ⟨_, hsize, hgrows⟩ := ih line start none stack emission hstart hcovered
      exact ⟨hgrows, hsize⟩
    rw [scanLine_eq]
    obtain ⟨hbottom, hsize, hgrows⟩ := LineScan.drive_grows
      { repository, stallLimit, line, offset
        reenter := reentry repository stallLimit offset (levels + 1) }
      (.begin start anchor stack emission) hreenter hstart hcovered
    exact ⟨hbottom, hsize, hgrows⟩

/-- What a scan of the next line of a buffer does. -/
theorem Repository.scanNextLine_grows (repository : Repository) (stallLimit : Nat)
    (progress : ScanProgress) (chars : List Char) :
    let next := repository.scanNextLine stallLimit progress chars
    let bottom := progress.stack.clearAnchors.bottom
    next.stack.bottom = bottom ∧
      (Line.ofChars (terminated chars)).size ≤ next.emission.sink.position ∧
      GrowsOver (Line.ofChars (terminated chars)) progress.offset bottom.nameScopes
        { progress.emission with
          sink := progress.emission.sink.beginLine progress.offset (Line.byteCount chars) }
        next.emission :=
  scanLine_grows repository stallLimit progress.offset maxReentry (Line.ofChars (terminated chars)) 0
    (if progress.stack.clearAnchors.top.beganAtLineEnd then some 0 else none)
    progress.stack.clearAnchors
    { progress.emission with
      sink := progress.emission.sink.beginLine progress.offset (Line.byteCount chars) }
    (Line.zero_boundary _) (Nat.zero_le _)

end ScopeScanner
