import ScopeScanner.Proofs.Scanner.Extent
import ScopeScanner.Proofs.Scanner.Stalling

/-!
# Groups that are scanned again

The text of a group with rules of its own is scanned again: on the line cut off where the group ends, from
where the group starts, with a stack of its own, but with the emission of the match. What such a scan can
do is compared for two rules of the group:

* **`LineScan.drive_beyond`**: if matches do not lie before the search that finds them, a scan remarks on
  nothing before its start.
* **`scanGroup_confined`**: the scan of a group adds bytes of the group, and remarks that end in it.
* **`Emission.Apart.coupling`**: from there on the match is covered alike, so two emissions that differ in
  such a part differ in nothing else.
* **`resolveCaptures_confined`**: hence the rule of a group matters to the bytes of the group only, and to
  the remarks on its text.

Where a match lies before the search, by `\\K` in a lookbehind, one of its groups may lie before the group
that is being scanned. Rules of such a group are applied to text outside.
-/

namespace ScopeScanner

open Emission (Grows Yields Paints)

/-! ## Remarks from the start of a scan on -/

/-- A remark on unmatched text at or after a place. -/
def Diagnostic.Beyond (place : Nat) : Diagnostic → Prop
  | .unmatchedInput offset _ => place ≤ offset
  | .unterminatedRegion _ _ _ => False

theorem Diagnostic.Beyond.mono {place place' : Nat} (hle : place ≤ place') {diagnostic : Diagnostic}
    (h : diagnostic.Beyond place') : diagnostic.Beyond place := by
  cases diagnostic with
  | unmatchedInput offset length => exact Nat.le_trans hle h
  | unterminatedRegion rule scopes start => exact h

/-- Scanning the text of a group remarks on nothing before the group. -/
def Reenter.Onwards (repository : Repository) (offset : Nat) (reenter : Reenter) : Prop :=
  ∀ line start bottom emission, bottom.closing = none →
    Yields (Session.Sound repository) (fun _ _ => True) (Diagnostic.Beyond (offset + start)) emission
      (reenter line start { bottom } emission)

namespace LineScan

variable {scan : LineScan}

/-- What applies to a match does not match before the search. -/
theorem Applies.forward (hforward : scan.repository.Forward) {stack : ScopeStack}
    (hends : stack.EndsWith Pattern.Forward) {pattern : Pattern} {captures : CaptureMap}
    {scopes : List String} (h : scan.Applies stack pattern captures scopes) : pattern.Forward := by
  cases h with
  | closing hclosing => exact (hends.top hclosing).1
  | rule hrule hpattern => exact hforward.rules _ _ _ hrule hpattern

/-- A step remarks on nothing before the cursor. -/
theorem Covers.beyond (hforward : scan.repository.Forward)
    (hreenter : ∀ f, scan.reenter = some f → f.Onwards scan.repository scan.offset) {state : Drive}
    (hsound : state.scene.Sound scan.repository)
    (hends : state.scene.stack.EndsWith Pattern.Forward) (hinside : state.cursor < scan.line.size)
    {scene : Scene} {stop : Nat} {pattern : Pattern} {groups : Groups} {captures : CaptureMap}
    {scopes : List String} (h : scan.Covers state scene stop pattern groups captures scopes) :
    Grows (fun _ _ => True) (Diagnostic.Beyond (scan.offset + state.cursor)) state.scene.emission
      scene.emission := by
  have hstart : state.cursor ≤ groups.whole.start :=
    (h.applies.forward hforward hends _ _ _ _ (Nat.le_of_lt hinside) h.finds).1
  have happroached : Grows (fun _ _ => True) (Diagnostic.Beyond (scan.offset + state.cursor))
      state.scene.emission (scan.approached state groups).emission :=
    .produce _ _ (.learn _ (.refl _)) trivial
  rcases h.emission with ⟨hsame, _⟩ | ⟨session, hcovered⟩
  · rw [hsame]
    exact happroached
  · rw [hcovered]
    -- a group that is scanned again starts inside the match
    have henters : ∀ entry ∈ captures, ∀ span, groups.Spans entry.1 span →
        entry.2.Enters (Session.Sound scan.repository) (fun _ _ => True)
          (Diagnostic.Beyond (scan.offset + state.cursor)) (fun _ => True) scan.reenter scan.line
          span := by
      rintro entry _ span ⟨_, _, _, hfrom, _, rfl⟩ f rule hf _ nameScopes _ emission _ hsession
      obtain ⟨hgrows, hsession'⟩ :=
        hreenter f hf _ _ { rule, nameScopes } emission rfl hsession
      exact ⟨hgrows.mono (fun _ _ _ => trivial) fun _ => .mono (by dsimp only; omega), hsession'⟩
    have hlooked : (scan.approached state groups).emission.session.Sound scan.repository :=
      (hsound.rules state.scene.stack.top.rule).2
    exact .learn session (happroached.trans
      (resolveCaptures_yields (fun _ _ _ _ => trivial) (fun _ _ _ _ => trivial) henters trivial _
        hlooked).1)

/-- **A scan remarks on nothing before its start.** By induction on the run, with the ends that the stack
waits for as part of the invariant. -/
theorem drive_beyond (hforward : scan.repository.Forward) (hscan : scan.KeepsSound)
    (hreenter : ∀ f, scan.reenter = some f → f.Onwards scan.repository scan.offset) (first : Drive)
    (hsound : first.scene.Sound scan.repository)
    (hends : first.scene.stack.EndsWith Pattern.Forward) :
    Grows (fun _ _ => True) (Diagnostic.Beyond (scan.offset + first.cursor)) first.scene.emission
      (scan.drive first).emission := by
  refine drive_induct_of_sound hscan
    (fun state => first.cursor ≤ state.cursor ∧ state.scene.stack.EndsWith Pattern.Forward ∧
      Grows (fun _ _ => True) (Diagnostic.Beyond (scan.offset + first.cursor)) first.scene.emission
        state.scene.emission)
    (fun scene => Grows (fun _ _ => True) (Diagnostic.Beyond (scan.offset + first.cursor))
      first.scene.emission scene.emission)
    ?_ ?_ ?_ first ⟨Nat.le_refl _, hends, .refl _⟩ hsound
  · exact fun state h _ => h.2.2
  · rintro state scene ⟨hcursor, _, hgrows⟩ _ _ hstep
    rw [hstep.unmatched_emission, leave]
    split
    · exact .produce _ _ (.remark _ (.learn _ hgrows) (Nat.add_le_add_left hcursor _)) trivial
    · exact .produce _ _ (.learn _ hgrows) trivial
  · rintro state scene stop forced unwind ⟨hcursor, hends, hgrows⟩ hsound hinside hstep
    refine ⟨Nat.le_trans hcursor ?_, settle_endsWith scan
      (hstep.endsWith hscan (hforward.ends _) hsound hends) state stop forced unwind, ?_⟩
    · rcases scan.settle_progress state scene stop forced unwind hinside with hlt | ⟨heq, _⟩
      · exact Nat.le_of_lt hlt
      · exact Nat.le_of_eq heq.symm
    · obtain ⟨pattern, groups, captures, scopes, hcovers⟩ := hstep.covers
      have hstepped := hgrows.trans
        ((hcovers.beyond hforward hreenter hsound hends hinside).mono (fun _ _ _ => trivial)
          fun _ => .mono (Nat.add_le_add_left hcursor _))
      rcases scan.settle_emission state scene stop forced unwind with ⟨hsame, _⟩ | ⟨hforced, _⟩
      · rw [hsame]
        exact hstepped
      · rw [hforced]
        exact .produce _ _ hstepped trivial

end LineScan

/-- However deep groups nest, their scans remark on nothing before them. -/
theorem reentry_onwards {repository : Repository} (hforward : repository.Forward)
    (stallLimit offset levels : Nat) :
    ∀ f, reentry repository stallLimit offset levels = some f → f.Onwards repository offset := by
  induction levels with
  | zero => intro f hf; cases hf
  | succ levels ih =>
    rintro f hf line start bottom emission hbottom hsession
    cases hf
    dsimp only
    rw [scanLine_eq]
    let scan : LineScan := {
      repository, stallLimit, line, offset, reenter := reentry repository stallLimit offset levels }
    have hkeeps : scan.KeepsSound := reentry_keepsSound repository stallLimit offset levels line
    have hbegin : (Drive.begin start none { bottom } emission).scene.Sound repository := hsession
    exact ⟨LineScan.drive_beyond hforward hkeeps ih _ hbegin (.plain hbottom),
      LineScan.drive_sound hkeeps hbegin⟩

/-! ## One group -/

/-- What the scan of a group gives out lies in the group: its bytes carry scopes that begin with the given
ones, and its remarks end there. If matches do not lie before the search, they also start there. -/
structure Confined (repository : Repository) (lineStart offset : Nat) (part : Span)
    (scopes : List String) (bytes : List (Nat × List String)) (remarks : List Diagnostic) : Prop where
  bytes : ∀ byte ∈ bytes, lineStart + part.start ≤ byte.1 ∧ byte.1 < lineStart + part.stop ∧
    scopes <+: byte.2
  remarks : ∀ diagnostic ∈ remarks, ∃ place length,
    diagnostic = .unmatchedInput (offset + place) length ∧ place + length ≤ part.stop ∧
      (repository.Forward → part.start ≤ place)

theorem Confined.nothing (repository : Repository) (lineStart offset : Nat) (part : Span)
    (scopes : List String) : Confined repository lineStart offset part scopes [] [] :=
  ⟨by simp, by simp⟩

/-- A remark on what is left of a line ends on the line. -/
theorem Emission.Leftover.exists_place {line : Line} {offset : Nat} {diagnostic : Diagnostic}
    (h : Leftover line offset diagnostic) :
    ∃ place length, diagnostic = .unmatchedInput (offset + place) length ∧
      place + length ≤ line.size := by
  obtain ⟨before, part, after, hline, rfl, _⟩ := h.exists_part
  refine ⟨_, _, rfl, ?_⟩
  rw [Line.size_eq_byteCount, hline, Line.byteCount_append, Line.byteCount_append]
  omega

/-- The places of the bytes that are added when the line gets covered up to a position. -/
def Sink.placesUpTo (sink : Sink) (stop : Nat) : List Nat :=
  (List.range' sink.position (min stop sink.visible - sink.position)).map (sink.lineStart + ·)

/-- What the scan of a group makes of an emission. -/
structure Emission.Scanned (repository : Repository) (offset : Nat) (part : Span) (scopes : List String)
    (added : List (Nat × List String)) (remarks : List Diagnostic) (emission emission' : Emission) :
    Prop where
  position : emission'.sink.position = max emission.sink.position part.stop
  lineStart : emission'.sink.lineStart = emission.sink.lineStart
  visible : emission'.sink.visible = emission.sink.visible
  bytes : emission'.sink.bytes = emission.sink.bytes ++ added
  places : added.map Prod.fst = emission.sink.placesUpTo (max emission.sink.position part.stop)
  diagnostics : emission'.diagnostics.toList = emission.diagnostics.toList ++ remarks
  confined : Confined repository emission.sink.lineStart offset part scopes added remarks
  sound : emission'.session.Sound repository

/-- **The scan of a group is confined to it.** -/
theorem scanGroup_confined (repository : Repository) (stallLimit offset levels : Nat) {line : Line}
    {part : Span} (hstart : line.Boundary part.start) (hstop : line.Boundary part.stop)
    (hlt : part.start < part.stop) (rule : RuleId) (scopes : List String) {emission : Emission}
    (hsession : emission.session.Sound repository) (hposition : part.start ≤ emission.sink.position) :
    ∃ added remarks, Emission.Scanned repository offset part scopes added remarks emission
      (scanLine repository stallLimit offset levels (line.take part.stop) part.start none
        { bottom := { rule, nameScopes := scopes } } emission).2 := by
  have hinside := hstop.take hstart (Nat.le_of_lt hlt)
  have hsize : (line.take part.stop).size = part.stop := by
    obtain ⟨before, after, hline, hbefore⟩ := mem_boundaries_iff.mp hstop
    rw [Nat.zero_add] at hbefore
    rw [hbefore, line.take_of_append hline, Line.size_eq_byteCount, Line.chars_ofChars]
  obtain ⟨_, hend, hgrows⟩ := scanLine_grows repository stallLimit offset levels (line.take part.stop)
    part.start none { bottom := { rule, nameScopes := scopes } } emission hinside hposition
  -- a scan of the group is what entering it with one level more comes to
  have hreentry : reentry repository stallLimit offset (levels + 1) =
      some fun line start stack emission =>
        (scanLine repository stallLimit offset levels line start none stack emission).2 := rfl
  have hsound := reentry_keepsSound repository stallLimit offset (levels + 1) line
  rw [hreentry] at hsound
  cases hsound with
  | some hsound =>
  have hsound' := (hsound part.stop part.start rule scopes emission emission ⟨rfl, hsession⟩).sound
  have hbeyond (hforward : repository.Forward) :=
    (reentry_onwards hforward stallLimit offset (levels + 1) _ hreentry (line.take part.stop) part.start
      { rule, nameScopes := scopes } emission rfl hsession).1
  dsimp only at hbeyond hsound'
  generalize (scanLine repository stallLimit offset levels (line.take part.stop) part.start none
    { bottom := { rule, nameScopes := scopes } } emission).2 = result at hend hgrows hsound' hbeyond
  have hlimit := hgrows.position_le_max fun stop _ hcover => hsize ▸ hcover.1.le_size
  have hmoved := hgrows.position_le
  have hreached : result.sink.position = max emission.sink.position part.stop := by omega
  obtain ⟨hlineStart, hvisible⟩ := hgrows.sink_line
  obtain ⟨carried, hbytes, hcarried⟩ :=
    hgrows.exists_stretch fun _ names (hcover : _ ∧ scopes <+: names) => hcover.2
  obtain ⟨remarks, hremarks, hleft⟩ := hgrows.exists_remarks
  refine ⟨_, remarks, hreached, hlineStart, hvisible, hbytes, ?_, hremarks, ⟨?_, ?_⟩, hsound'⟩
  · rw [Sink.stretch, List.map_map, hreached]
    rfl
  · intro byte hmem
    obtain ⟨place, hplace, rfl⟩ := List.mem_map.mp hmem
    have hbounds := List.mem_range'_1.mp hplace
    have hprefix := hcarried place hbounds.1 (by omega)
    exact ⟨by dsimp only; omega, by dsimp only; omega, hprefix⟩
  · intro diagnostic hmem
    obtain ⟨place, length, rfl, hle⟩ := (hleft diagnostic hmem).exists_place
    rw [hsize] at hle
    refine ⟨place, length, rfl, hle, fun hforward => ?_⟩
    obtain ⟨remarks', hremarks', hall⟩ := (hbeyond hforward).exists_remarks
    obtain rfl := List.append_cancel_left (hremarks.symm.trans hremarks')
    exact Nat.le_of_add_le_add_left (hall _ hmem)

/-! ## Two rules for one group -/

/-- Two emissions that differ in a part of their bytes, and in a part of their remarks. -/
structure Emission.Apart (repository : Repository) (first inner inner' : List (Nat × List String))
    (early said said' : List Diagnostic) (emission emission' : Emission) : Prop where
  position : emission.sink.position = emission'.sink.position
  lineStart : emission.sink.lineStart = emission'.sink.lineStart
  visible : emission.sink.visible = emission'.sink.visible
  bytes : ∃ last, emission.sink.bytes = first ++ inner ++ last ∧
    emission'.sink.bytes = first ++ inner' ++ last
  diagnostics : ∃ later, emission.diagnostics.toList = early ++ said ++ later ∧
    emission'.diagnostics.toList = early ++ said' ++ later
  sound : emission.session.Sound repository
  sound' : emission'.session.Sound repository

namespace Emission.Apart

variable {repository : Repository} {first inner inner' : List (Nat × List String)}
  {early said said' : List Diagnostic} {emission emission' : Emission}

/-- What is covered alike is added alike. -/
theorem produce (h : Apart repository first inner inner' early said said' emission emission')
    (stop : Nat) (scopes : List String) :
    Apart repository first inner inner' early said said' (emission.produce stop scopes)
      (emission'.produce stop scopes) := by
  obtain ⟨last, hbytes, hbytes'⟩ := h.bytes
  have hpaints := Paints.produce emission stop scopes
  have hpaints' := Paints.produce emission' stop scopes
  refine ⟨?_, ?_, ?_, ⟨last ++ emission.sink.stretch emission.sink.position stop fun _ => scopes, ?_, ?_⟩,
    h.diagnostics, h.sound, h.sound'⟩
  · rw [hpaints.position, hpaints'.position, h.position]
  · rw [hpaints.lineStart, hpaints'.lineStart, h.lineStart]
  · rw [hpaints.visible, hpaints'.visible, h.visible]
  · rw [hpaints.bytes, hbytes, List.append_assoc]
  · rw [hpaints'.bytes, hbytes', List.append_assoc, h.position,
      Sink.stretch_congr_sink h.lineStart h.visible]

/-- Two scans that go on from such emissions stay in step. -/
theorem coupling (repository : Repository) (offset : Nat)
    (first inner inner' : List (Nat × List String)) (early said said' : List Diagnostic) :
    Coupling repository (0 + offset) offset (Apart repository first inner inner' early said said') := by
  apply Coupling.of_sound
  · exact fun h => ⟨h.sound, h.sound'⟩
  · exact fun h _ _ hsound hsound' =>
      ⟨h.position, h.lineStart, h.visible, h.bytes, h.diagnostics, hsound, hsound'⟩
  · exact fun h => h.produce
  · intro emission emission' h p length
    obtain ⟨later, hremarks, hremarks'⟩ := h.diagnostics
    refine ⟨h.position, h.lineStart, h.visible, h.bytes,
      ⟨later ++ [.unmatchedInput (offset + p) length], ?_, ?_⟩, h.sound, h.sound'⟩
    · rw [Emission.remark, Array.toList_push, hremarks, Nat.zero_add, List.append_assoc]
    · rw [Emission.remark, Array.toList_push, hremarks', List.append_assoc]

/-- Equal emissions in sound sessions do not differ. -/
theorem same (hsession : emission.session.Sound repository) :
    Apart repository emission.sink.bytes [] [] emission.diagnostics.toList [] [] emission emission :=
  ⟨rfl, rfl, rfl, ⟨[], by simp, by simp⟩, ⟨[], by simp, by simp⟩, hsession, hsession⟩

end Emission.Apart

/-- An emission with bytes and remarks added. -/
structure Emission.Adds (emission : Emission) (added : List (Nat × List String))
    (remarks : List Diagnostic) (emission' : Emission) : Prop where
  bytes : emission'.sink.bytes = emission.sink.bytes ++ added
  diagnostics : emission'.diagnostics.toList = emission.diagnostics.toList ++ remarks

theorem Emission.Adds.nothing (emission : Emission) : emission.Adds [] [] emission :=
  ⟨(List.append_nil _).symm, (List.append_nil _).symm⟩

/-- The scan of the text of a group, if groups are scanned again at all. -/
def scanGroup (reenter : Option Reenter) (line : Line) (part : Span) (scopes : List String)
    (emission : Emission) (rule : RuleId) : Emission :=
  match reenter with
  | none => emission
  | some reenter =>
    reenter (line.take part.stop) part.start { bottom := { rule, nameScopes := scopes } } emission

/-- From an emission with which a group is entered, the two scans of the group add something in the group,
and `emission` and `emission'` differ in what they add. -/
def Differs (repository : Repository) (lineStart offset : Nat) (part : Span) (scopes : List String)
    (entered scanned scanned' emission emission' : Emission) : Prop :=
  ∃ inner inner' said said', entered.Adds inner said scanned ∧ entered.Adds inner' said' scanned' ∧
    Emission.Apart repository entered.sink.bytes inner inner' entered.diagnostics.toList said said'
      emission emission' ∧
    inner.map Prod.fst = inner'.map Prod.fst ∧
    Confined repository lineStart offset part scopes inner said ∧
    Confined repository lineStart offset part scopes inner' said'

section Groups

variable {repository : Repository} {line : Line} {groups : Groups} {emission : Emission}

/-- A group is opened, whatever its rule, or scanned with either rule. -/
theorem enterGroup_differs (stallLimit offset levels : Nat) {part : Span} (hstart : line.Boundary part.start)
    (hstop : line.Boundary part.stop) (hlt : part.start < part.stop)
    (hsession : emission.session.Sound repository) (hposition : part.start ≤ emission.sink.position)
    (rule rule' : RuleId) (scopes : List String) (opened : List OpenGroup) :
    let reenter := reentry repository stallLimit offset levels
    let enter (rule : RuleId) := enterGroup reenter line part (some rule) scopes opened emission
    let scanned := scanGroup reenter line part scopes emission
    (enter rule).1 = (enter rule').1 ∧
      Differs repository emission.sink.lineStart offset part scopes emission (scanned rule)
        (scanned rule') (enter rule).2 (enter rule').2 := by
  cases levels with
  | zero =>
    exact ⟨rfl, [], [], [], [], .nothing _, .nothing _, .same hsession, rfl, .nothing _ _ _ _ _,
      .nothing _ _ _ _ _⟩
  | succ levels =>
    obtain ⟨inner, said, h⟩ := scanGroup_confined repository stallLimit offset levels hstart hstop hlt
      rule scopes hsession hposition
    obtain ⟨inner', said', h'⟩ := scanGroup_confined repository stallLimit offset levels hstart hstop hlt
      rule' scopes hsession hposition
    refine ⟨rfl, inner, inner', said, said', ⟨h.bytes, h.diagnostics⟩, ⟨h'.bytes, h'.diagnostics⟩, ?_,
      h.places.trans h'.places.symm, h.confined, h'.confined⟩
    exact ⟨h.position.trans h'.position.symm, h.lineStart.trans h'.lineStart.symm,
      h.visible.trans h'.visible.symm,
      ⟨[], h.bytes.trans (List.append_nil _).symm, h'.bytes.trans (List.append_nil _).symm⟩,
      ⟨[], h.diagnostics.trans (List.append_nil _).symm, h'.diagnostics.trans (List.append_nil _).symm⟩,
      h.sound, h'.sound⟩

/-- The emission with which a group is entered: the line is covered up to the group. -/
def approachGroup (scopes : List String) (part : Span) (opened : List OpenGroup) (emission : Emission) :
    Emission :=
  (closeGroups part.start opened emission).2.produce part.start (openScopes scopes opened part.start)

/-- A capture with a rule covers the text up to its group with the scopes that are open there, and enters
the group with its own on top of them. -/
theorem resolveCapture_enter {reenter : Option Reenter} {number : Nat} {part : Span}
    (hpart : groups.Spans number part) (own : List String) (rule : RuleId) (scopes : List String)
    (opened : List OpenGroup) :
    resolveCapture reenter line groups scopes number { scopes := own, rule := some rule } opened emission =
      enterGroup reenter line part (some rule) (openScopes scopes opened part.start ++ own)
        (opened.dropWhile (·.stop ≤ part.start)) (approachGroup scopes part opened emission) := by
  rw [resolveCapture, Groups.clipped?_eq_some_iff.mpr hpart]
  dsimp only
  rw [Option.isNone_some, Bool.and_false, if_neg Bool.false_ne_true, closeGroups_fst]
  rfl

theorem resolveCapture_differs (stallLimit offset levels : Nat) (hgroups : groups.OnLine line)
    (hsession : emission.session.Sound repository) (rule rule' : RuleId) (scopes own : List String)
    {number : Nat} {part : Span} (hpart : groups.Spans number part) (opened : List OpenGroup) :
    let reenter := reentry repository stallLimit offset levels
    let resolve (rule : RuleId) := resolveCapture reenter line groups scopes number
      { scopes := own, rule := some rule } opened emission
    let inside := openScopes scopes opened part.start ++ own
    let entered := approachGroup scopes part opened emission
    let scanned := scanGroup reenter line part inside entered
    (resolve rule).1 = (resolve rule').1 ∧
      Differs repository emission.sink.lineStart offset part inside entered (scanned rule)
        (scanned rule') (resolve rule).2 (resolve rule').2 := by
  obtain ⟨hstart, hstop, hlt⟩ := hgroups.clipped (Groups.clipped?_eq_some_iff.mpr hpart)
  -- up to the group both do the same
  have hpaints := closeGroups_paints scopes part.start opened emission
  have hdiffers := enterGroup_differs stallLimit offset levels hstart hstop hlt (hpaints.session ▸ hsession) (hpaints.position ▸ Nat.le_max_right _ _) rule rule'
    (openScopes scopes opened part.start ++ own) (opened.dropWhile (·.stop ≤ part.start))
  rw [hpaints.lineStart] at hdiffers
  dsimp only
  rw [resolveCapture_enter hpart, resolveCapture_enter hpart]
  exact hdiffers

/-- The captures of a match, one part after the other. -/
theorem resolveEach_append (reenter : Option Reenter) (line : Line) (groups : Groups)
    (scopes : List String) (first second : CaptureMap) (opened : List OpenGroup) (emission : Emission) :
    resolveEach reenter line groups scopes (first ++ second) opened emission =
      let resolved := resolveEach reenter line groups scopes first opened emission
      resolveEach reenter line groups scopes second resolved.1 resolved.2 := by
  induction first generalizing opened emission with
  | nil => rfl
  | cons entry rest ih => exact ih _ _

/-- Covering captures leaves the session sound, and the sink on its line. -/
theorem resolveEach_sound (stallLimit offset levels : Nat) (hgroups : groups.OnLine line)
    (hsession : emission.session.Sound repository) (scopes : List String) (captures : CaptureMap) :
    let resolved := (resolveEach (reentry repository stallLimit offset levels) line groups scopes captures
      [] emission).2
    resolved.session.Sound repository ∧ resolved.sink.lineStart = emission.sink.lineStart := by
  have hscans : Option.Rel (Reenter.Renumbered id line (Emission.SameSound repository))
      (reentry repository stallLimit offset levels) (reentry repository stallLimit offset levels) :=
    reentry_keepsSound repository stallLimit offset levels line
  have hsame := (resolveEach_renumbered (Emission.SameSound.coupling repository offset).produce hscans
    groups scopes captures [] ⟨rfl, hsession⟩).2
  have hcovers : ∀ f, reentry repository stallLimit offset levels = some f → f.Covers offset := by
    rintro f hf line start stack emission hstart hposition
    cases levels with
    | zero => cases hf
    | succ levels =>
      cases hf
      obtain ⟨_, hsize, hgrows⟩ := scanLine_grows repository stallLimit offset levels line start none
        stack emission hstart hposition
      exact ⟨hgrows, hsize⟩
  have hgrows := (resolveEach_grows hcovers hgroups (List.nil_prefix : [] <+: scopes) captures
    (List.forall_mem_nil _) emission).2
  exact ⟨hsame.sound, hgrows.sink_line.1⟩

/-- From emissions that differ in a group, the rest of the match is covered alike. -/
theorem Differs.resolveRest {lineStart offset : Nat} {part : Span} {scopes : List String}
    {entered scanned scanned' emission emission' : Emission}
    (h : Differs repository lineStart offset part scopes entered scanned scanned' emission emission')
    (stallLimit levels : Nat)
    (line : Line) (groups : Groups) (around : List String) (captures : CaptureMap)
    (opened : List OpenGroup) :
    let reenter := reentry repository stallLimit offset levels
    let rest (emission : Emission) :=
      let resolved := resolveEach reenter line groups around captures opened emission
      (closeAllGroups resolved.1 resolved.2).produce groups.whole.stop around
    Differs repository lineStart offset part scopes entered scanned scanned' (rest emission)
      (rest emission') := by
  obtain ⟨inner, inner', said, said', hadds, hadds', hapart, hdiffers⟩ := h
  have hcoupling := Emission.Apart.coupling repository offset entered.sink.bytes inner inner'
    entered.diagnostics.toList said said'
  have hscans := reentry_inStep hcoupling stallLimit levels line
  rw [Nat.zero_add] at hscans
  have hrenumbered : Option.Rel (Reenter.Renumbered id line
      (Emission.Apart repository entered.sink.bytes inner inner' entered.diagnostics.toList said said'))
      (reentry repository stallLimit offset levels) (reentry repository stallLimit offset levels) := hscans
  obtain ⟨hopened, hresolved⟩ := resolveEach_renumbered hcoupling.produce hrenumbered groups around
    captures opened hapart
  rw [CaptureMap.renumbered_id] at hopened hresolved
  dsimp only
  rw [← hopened]
  exact ⟨inner, inner', said, said', hadds, hadds',
    hcoupling.produce (closeAllGroups_related hcoupling.produce _ hresolved) _ _, hdiffers⟩

end Groups

/-! ## The stack around a group -/

/-- Two emissions, both in sound sessions. -/
structure Emission.BothSound (repository : Repository) (emission emission' : Emission) : Prop where
  first : emission.session.Sound repository
  second : emission'.session.Sound repository

theorem Emission.BothSound.coupling (repository : Repository) (offset : Nat) :
    Coupling repository offset offset (BothSound repository) where
  produce h _ _ := ⟨h.first, h.second⟩
  remark h _ _ := ⟨h.first, h.second⟩
  rules h id :=
    ⟨(h.first.rules id).1, (h.second.rules id).1, (h.first.rules id).2, (h.second.rules id).2⟩
  closing h closing groups line := by
    have hfirst := h.first.closing closing groups line
    have hsecond := h.second.closing closing groups line
    exact ⟨hfirst.1.trans hsecond.1.symm, hfirst.2, hsecond.2⟩

/-- A way to scan the text of a group that leaves sessions sound. -/
def Reenter.LeavesSound (repository : Repository) (reenter : Reenter) : Prop :=
  ∀ line start stack emission, emission.session.Sound repository →
    (reenter line start stack emission).session.Sound repository

/-- **What scans of groups open never reaches the stack around them**: whatever else is done in their
place, the line leaves the same stack. -/
theorem scanLine_stack_eq (repository : Repository) (stallLimit offset levels : Nat) (line : Line)
    {reenter : Reenter} (hreenter : reenter.LeavesSound repository) (start : Nat) (anchor : Option Nat)
    (stack : ScopeStack) {emission : Emission} (hsession : emission.session.Sound repository) :
    (scanLine repository stallLimit offset (levels + 1) line start anchor stack emission).1 =
      (LineScan.drive { repository, stallLimit, line, offset, reenter := some reenter }
        (.begin start anchor stack emission)).stack := by
  have hscans : Option.Rel (Reenter.Coupled line (Emission.BothSound repository))
      (reentry repository stallLimit offset (levels + 1)) (some reenter) := by
    have hsound := reentry_keepsSound repository stallLimit offset (levels + 1) line
    rw [reentry] at hsound ⊢
    cases hsound with
    | some hsound =>
      refine .some fun stop start rule nameScopes emission emission' h => ⟨?_, ?_⟩
      · exact (hsound stop start rule nameScopes _ _ ⟨rfl, h.first⟩).sound
      · exact hreenter _ _ _ _ h.second
  have hscan : LineScan.InStep Eq (Emission.BothSound repository)
      { repository, stallLimit, line, offset,
        reenter := reentry repository stallLimit offset (levels + 1) }
      { repository, stallLimit, line, offset, reenter := some reenter } :=
    ⟨rfl, rfl, hscans, .eq _ _ _, Emission.BothSound.coupling _ _⟩
  rw [scanLine_eq]
  exact (LineScan.drive_inStep hscan rfl ⟨rfl, rfl, rfl, rfl, rfl, rfl, hsession, hsession⟩).stack

/-! ## A match -/

/-- **The rule of a group matters to the group only.** A match is covered with two capture maps which
differ in the rule with which one group is scanned again, at any depth. If the group spans nothing of the
match the two come to the same. Otherwise each scan of the group adds bytes of the group, whose scopes
begin with those that are open there and those of the capture, and remarks that end in the group. These
start in the group as well, if matches do not lie before the search that finds them. In all else the two
come to the same: what is there before the group is entered, and what is added behind it. Nothing that is
opened inside reaches the stack of the line. -/
theorem resolveCaptures_confined (repository : Repository) (stallLimit offset levels : Nat) {line : Line}
    {groups : Groups} (hgroups : groups.OnLine line) {emission : Emission}
    (hsession : emission.session.Sound repository) (scopes : List String) (before after : CaptureMap)
    (number : Nat) (own : List String) (rule rule' : RuleId) :
    let reenter := reentry repository stallLimit offset levels
    let resolve (rule : RuleId) := resolveCaptures reenter line groups
      (before ++ (number, { scopes := own, rule := some rule }) :: after) scopes emission
    let covered := resolveEach reenter line groups scopes before [] emission
    let inside (part : Span) := openScopes scopes covered.1 part.start ++ own
    let entered (part : Span) := approachGroup scopes part covered.1 covered.2
    let scanned (part : Span) := scanGroup reenter line part (inside part) (entered part)
    (groups.clipped? number = none → resolve rule = resolve rule') ∧
      (∀ part, groups.clipped? number = some part → ∃ inner inner' said said',
        (entered part).Adds inner said (scanned part rule) ∧
        (entered part).Adds inner' said' (scanned part rule') ∧
        inner.map Prod.fst = inner'.map Prod.fst ∧
        (∀ byte ∈ inner ++ inner', emission.sink.lineStart + part.start ≤ byte.1 ∧
          byte.1 < emission.sink.lineStart + part.stop ∧ inside part <+: byte.2) ∧
        (∀ diagnostic ∈ said ++ said', ∃ place length,
          diagnostic = .unmatchedInput (offset + place) length ∧ place + length ≤ part.stop ∧
            (repository.Forward → part.start ≤ place)) ∧
        (resolve rule).sink.position = (resolve rule').sink.position ∧
        (∃ last, (resolve rule).sink.bytes = (entered part).sink.bytes ++ inner ++ last ∧
          (resolve rule').sink.bytes = (entered part).sink.bytes ++ inner' ++ last) ∧
        ∃ later, (resolve rule).diagnostics.toList =
            (entered part).diagnostics.toList ++ said ++ later ∧
          (resolve rule').diagnostics.toList =
            (entered part).diagnostics.toList ++ said' ++ later) ∧
      ∀ reenter, reenter.LeavesSound repository → ∀ start anchor stack,
        (scanLine repository stallLimit offset (levels + 1) line start anchor stack emission).1 =
          (LineScan.drive { repository, stallLimit, line, offset, reenter := some reenter }
            (.begin start anchor stack emission)).stack := by
  dsimp only
  simp only [resolveCaptures, resolveEach_append, resolveEach]
  refine ⟨fun hnone => ?_, fun part hpart => ?_, fun reenter hreenter start anchor stack =>
    scanLine_stack_eq repository stallLimit offset levels line hreenter start anchor stack hsession⟩
  · simp only [resolveCapture, hnone]
  · -- what comes before the capture is covered alike, and leaves the session sound
    obtain ⟨hsound, hlineStart⟩ := resolveEach_sound stallLimit offset levels hgroups hsession scopes before
    generalize resolveEach (reentry repository stallLimit offset levels) line groups scopes before []
      emission = covered at hsound hlineStart ⊢
    obtain ⟨hopened, hcapture⟩ := resolveCapture_differs stallLimit offset levels hgroups hsound rule rule'
      scopes own (Groups.clipped?_eq_some_iff.mp hpart) covered.1
    have hdiffers := hcapture.resolveRest stallLimit levels line groups scopes after
      (resolveCapture (reentry repository stallLimit offset levels) line groups scopes number
        { scopes := own, rule := some rule } covered.1 covered.2).1
    dsimp only at hopened hdiffers
    rw [← hopened, ← hlineStart]
    obtain ⟨inner, inner', said, said', hadds, hadds', hapart, hplaces, hinner, hinner'⟩ := hdiffers
    exact ⟨inner, inner', said, said', hadds, hadds', hplaces,
      List.forall_mem_append.mpr ⟨hinner.bytes, hinner'.bytes⟩,
      List.forall_mem_append.mpr ⟨hinner.remarks, hinner'.remarks⟩,
      hapart.position, hapart.bytes, hapart.diagnostics⟩

/-! ## A match that lies before its search -/

/-- How the text of a group is scanned, with the first steps spelt out. -/
def reentryWithin (repository : Repository) (stallLimit offset steps : Nat) : (levels : Nat) → Option Reenter
  | 0 => none
  | levels + 1 => some fun line start stack emission =>
    let scan : LineScan := {
      repository, stallLimit, line, offset
      reenter := reentryWithin repository stallLimit offset steps levels }
    (scan.driveWithin steps (.begin start none stack emission)).emission

theorem reentryWithin_eq (repository : Repository) (stallLimit offset steps levels : Nat) :
    reentryWithin repository stallLimit offset steps levels =
      reentry repository stallLimit offset levels := by
  induction levels with
  | zero => rfl
  | succ levels ih =>
    rw [reentryWithin, reentry, ih]
    simp only [LineScan.driveWithin_eq]
    congr 1
    funext line start stack emission
    rw [scanLine_eq]

/-- The group of the outer match holds `ab`. Inside, the rule `inner` matches at the start of it, with the
`x` before it as its group, since `\\K` lets a match begin where it stands. -/
def keptGrammar : Grammar where
  scopeName := "source.t"
  patterns := [{
    pattern := some "xx(..)"
    name := some "outer"
    captures := [("1", {
      name := some "cap"
      patterns := [{
        pattern := some "(?<=\\K(x))a"
        name := some "inner"
        captures := [("1", { name := some "deep", patterns := [{ pattern := some "q" }] })] }] })] }]

/-- The groups of the outer match in `xxab`. -/
def keptGroups : Groups :=
  ⟨[some ⟨0, 4⟩, some ⟨2, 4⟩]⟩

/-- Four bytes that have not been covered. -/
def uncoveredLine : Emission where
  sink := { merge := true, visible := 4 }

/-- The remarks on the match, if its group is scanned again with a rule. -/
def Repository.keptRemarks (repository : Repository) (rule : RuleId) : List Diagnostic :=
  (resolveCaptures (reentry repository 32 0 2) (.ofString "xxab") keptGroups
    [(1, { scopes := ["cap"], rule := some rule })] ["source.t", "outer"] uncoveredLine).diagnostics.toList

theorem keptGrammar_remarks :
    (match Repository.compile keptGrammar 1000 with
      | .ok repository =>
        let remarks (rule : RuleId) := (resolveCaptures (reentryWithin repository 32 0 8 2)
          (.ofString "xxab") keptGroups [(1, { scopes := ["cap"], rule := some rule })]
          ["source.t", "outer"] uncoveredLine).diagnostics.toList
        remarks 3 = [.unmatchedInput 1 1, .unmatchedInput 3 1] && remarks 1 = [.unmatchedInput 2 2]
      | .error _ => false) = true := by
  decide +kernel

/-- With the rules of the outer group the text before it is remarked on, where its own group is scanned
again; with those of the inner group it is not. So matches do lie before their searches here. -/
theorem resolveCaptures_confined_kept :
    ∃ repository, Repository.compile keptGrammar 1000 = .ok repository ∧
      keptGroups.OnLine (.ofString "xxab") ∧ Session.Sound repository {} ∧
      repository.keptRemarks 3 = [.unmatchedInput 1 1, .unmatchedInput 3 1] ∧
      repository.keptRemarks 1 = [.unmatchedInput 2 2] ∧ ¬ repository.Forward := by
  have hremarks := keptGrammar_remarks
  split at hremarks
  · next repository hcompile =>
    simp only [reentryWithin_eq, Bool.and_eq_true, decide_eq_true_eq] at hremarks
    obtain ⟨houter, hinner⟩ :
        repository.keptRemarks 3 = [.unmatchedInput 1 1, .unmatchedInput 3 1] ∧
          repository.keptRemarks 1 = [.unmatchedInput 2 2] := hremarks
    have honline : keptGroups.OnLine (.ofString "xxab") :=
      Groups.ofIndices_onLine (.ofString "xxab") [some ⟨0, 4⟩, some ⟨2, 4⟩]
    have hsession : uncoveredLine.session.Sound repository := .new repository
    have hconfined := (resolveCaptures_confined repository 32 0 2 honline hsession
      ["source.t", "outer"] [] [] 1 ["cap"] 3 1).2.1 ⟨2, 4⟩ rfl
    refine ⟨repository, hcompile, honline, .new repository, houter, hinner, fun hforward => ?_⟩
    obtain ⟨_, _, said, said', _, _, _, _, hplaces, _, _, later, hsaid, hsaid'⟩ := hconfined
    -- the remark on the second character is one of those that only the first rule makes
    have hmem : .unmatchedInput 1 1 ∈ said ++ later := by
      have hall : repository.keptRemarks 3 = said ++ later := hsaid
      rw [← hall, houter]
      exact List.mem_cons_self
    have hlater : .unmatchedInput 1 1 ∉ later := by
      intro hmem
      have hall : repository.keptRemarks 1 = said' ++ later := hsaid'
      have hboth := List.mem_append_right said' hmem
      rw [← hall, hinner] at hboth
      exact absurd hboth (by decide)
    have hsaid := (List.mem_append.mp hmem).resolve_right hlater
    obtain ⟨place, length, heq, _, hafter⟩ := hplaces _ (List.mem_append_left said' hsaid)
    injection heq with hplace _
    have hfrom : 2 ≤ place := hafter hforward
    omega
  · cases hremarks

end ScopeScanner
