import ScopeScanner.Proofs.Regex.Upright
import ScopeScanner.Proofs.Scanner.Extent
import ScopeScanner.Proofs.Scanner.MadeEnds
import ScopeScanner.Proofs.Scanner.Merging

/-!
# Remarks on unmatched input

A scan leaves a line with the first remark on it. Whether that is the last one depends on the groups that
are scanned again: these may remark on their own text.

* **`Emission.Reaches`**: an emission goes on to a position, with some bytes and some remarks.
* **`LineScan.drive_remarks`**: without groups to scan again the sink is where the cursor is at each step,
  so there is one remark at most, and from there on one list of scopes. This rests on matches that do not
  end before they start.
* `Repository.scan_part`: each remark is about a part of a line, whatever the repository.
* **`Repository.unmatched_wellFormed`**: both for a whole scan.
-/

namespace ScopeScanner

open Emission (Grows Yields)

namespace Emission

/-- One emission comes from another by covering the line up to a position, with scopes that depend on the
place, and by remarks. Its session may have learned something. -/
structure Reaches (carried : Nat → List String) (remarks : List Diagnostic) (stop : Nat)
    (emission emission' : Emission) : Prop where
  bytes : emission'.sink.bytes =
    emission.sink.bytes ++ emission.sink.stretch emission.sink.position stop carried
  position : emission'.sink.position = max emission.sink.position stop
  lineStart : emission'.sink.lineStart = emission.sink.lineStart
  visible : emission'.sink.visible = emission.sink.visible
  diagnostics : emission'.diagnostics.toList = emission.diagnostics.toList ++ remarks

namespace Reaches

variable {carried carried' : Nat → List String} {remarks remarks' : List Diagnostic}
  {middle stop : Nat} {emission emission' emission'' : Emission}

/-- A sink that stays has reached every position up to where it is. -/
theorem refl (emission : Emission) (h : stop ≤ emission.sink.position) :
    Reaches carried [] stop emission emission where
  bytes := by
    have hnone : min stop emission.sink.visible - emission.sink.position = 0 := by omega
    rw [Sink.stretch, hnone, List.range'_zero, List.map_nil, List.append_nil]
  position := (Nat.max_eq_left h).symm
  lineStart := rfl
  visible := rfl
  diagnostics := (List.append_nil _).symm

theorem produce (emission : Emission) (stop : Nat) (scopes : List String) :
    Reaches (fun _ => scopes) [] stop emission (emission.produce stop scopes) where
  bytes := Sink.bytes_produce _ _ _
  position := Sink.produce_position _ _ _
  lineStart := Sink.produce_lineStart _ _ _
  visible := Sink.produce_visible _ _ _
  diagnostics := (List.append_nil _).symm

theorem remark (h : Reaches carried remarks stop emission emission') (diagnostic : Diagnostic) :
    Reaches carried (remarks ++ [diagnostic]) stop emission (emission'.remark diagnostic) where
  bytes := h.bytes
  position := h.position
  lineStart := h.lineStart
  visible := h.visible
  diagnostics := by rw [Emission.remark, Array.toList_push, h.diagnostics, List.append_assoc]

/-- What a session learns does not matter. -/
theorem learn (h : Reaches carried remarks stop emission emission') (session : Session) :
    Reaches carried remarks stop emission { emission' with session } :=
  ⟨h.bytes, h.position, h.lineStart, h.visible, h.diagnostics⟩

/-- From one position on to another: up to the first, places keep their scopes. -/
theorem trans (h : Reaches carried remarks middle emission emission')
    (h' : Reaches carried' remarks' stop emission' emission'') :
    Reaches (fun place => if place < emission'.sink.position then carried place else carried' place)
      (remarks ++ remarks') (max middle stop) emission emission'' where
  bytes := by
    rw [h'.bytes, h.bytes, List.append_assoc, Sink.stretch_congr_sink h.lineStart h.visible,
      ← Sink.stretch_append, ← h.position]
    congr 2
    · exact Sink.stretch_congr _ fun place _ hto =>
        (if_pos (Nat.lt_of_lt_of_le hto (h.position ▸ Nat.le_max_right _ _))).symm
    · exact Sink.stretch_congr _ fun place hfrom _ => (if_neg (Nat.not_lt_of_le hfrom)).symm
  position := by rw [h'.position, h.position, Nat.max_assoc]
  lineStart := h'.lineStart.trans h.lineStart
  visible := h'.visible.trans h.visible
  diagnostics := by rw [h'.diagnostics, h.diagnostics, List.append_assoc]

end Reaches

/-- An emission that covers the line up to a limit, and that far, reaches the limit. -/
theorem Grows.reaches {Remark : Diagnostic → Prop} {limit : Nat} {emission emission' : Emission}
    (h : Grows (fun stop _ => stop ≤ limit) Remark emission emission')
    (hlimit : limit ≤ emission'.sink.position) :
    ∃ carried remarks, Reaches carried remarks limit emission emission' ∧
      ∀ diagnostic ∈ remarks, Remark diagnostic := by
  have hbound := h.position_le_max fun stop _ hle => hle
  have hmoved := h.position_le
  obtain ⟨hlineStart, hvisible⟩ := h.sink_line
  have hposition : emission'.sink.position = max emission.sink.position limit := by omega
  obtain ⟨carried, hbytes, _⟩ := h.exists_stretch fun _ _ (_ : _ ≤ limit) => trivial
  obtain ⟨remarks, hremarks, hall⟩ := h.exists_remarks
  refine ⟨carried, remarks, ⟨?_, hposition, hlineStart, hvisible, hremarks⟩, hall⟩
  rw [hbytes, hposition, Sink.stretch, Sink.stretch]
  congr 3
  omega

end Emission

/-! ## One line -/

/-- No group is scanned again. -/
def Repository.ScansNoGroup (repository : Repository) : Prop :=
  ∀ id rule, repository.rule? id = some rule →
    (∀ entry ∈ rule.captures, entry.2.rule = none) ∧
      ∀ region, rule.kind = .region region → ∀ entry ∈ region.closingCaptures, entry.2.rule = none

/-- The patterns of the rules do not end before they start, nor do the ends that are made of begins. -/
structure Repository.Upright (repository : Repository) : Prop where
  rules : ∀ id rule pattern, repository.rule? id = some rule → rule.pattern? = some pattern →
    pattern.Upright
  ends : ∀ line, repository.MakesEnds line Pattern.Upright

/-- The patterns of a compiled grammar do not end before they start. -/
theorem Repository.upright_of_compile {grammar : Grammar} {budget : Nat} {repository : Repository}
    (h : compile grammar budget = .ok repository) : repository.Upright := by
  have hall : grammar.All fun _ _ => True := grammar.all_of_forall fun _ _ => trivial
  constructor
  · intro id rule pattern hrule hpattern
    exact Pattern.upright_of_compile ((compile_fromSources hall h hrule).isCompiled hpattern)
  · intro line id rule region hrule hkind groups pattern hmade
    have hsources := compile_fromSources hall h hrule
    rw [hkind] at hsources
    cases hsources with
    | region _ _ _ hclosing =>
      exact Pattern.upright_of_compile (EndPattern.isCompiled_of_made? hclosing hmade)

/-- A match is covered to its end. -/
theorem resolveCaptures_position (reenter : Option Reenter) (line : Line) (groups : Groups)
    (captures : CaptureMap) (scopes : List String) (emission : Emission) :
    groups.whole.stop ≤
      (resolveCaptures reenter line groups captures scopes emission).sink.position := by
  have hlast (emission : Emission) :
      groups.whole.stop ≤ (emission.produce groups.whole.stop scopes).sink.position := by
    rw [Emission.produce, Sink.produce_position]
    exact Nat.le_max_right _ _
  exact hlast _

namespace LineScan

variable {scan : LineScan}

theorem Applies.upright (hupright : scan.repository.Upright) {stack : ScopeStack}
    (hends : stack.EndsWith Pattern.Upright) {pattern : Pattern} {captures : CaptureMap}
    {scopes : List String} (h : scan.Applies stack pattern captures scopes) : pattern.Upright := by
  cases h with
  | closing hclosing => exact (hends.top hclosing).1
  | rule hrule hpattern => exact hupright.rules _ _ _ hrule hpattern

theorem Applies.scansNoGroup (hplain : scan.repository.ScansNoGroup) {stack : ScopeStack}
    {pattern : Pattern} {captures : CaptureMap} {scopes : List String}
    (h : scan.Applies stack pattern captures scopes) : ∀ entry ∈ captures, entry.2.rule = none := by
  cases h with
  | closing hclosing =>
    rw [closingCaptures, Repository.kind?]
    cases hrule : scan.repository.rule? stack.top.rule with
    | none => simp
    | some rule =>
      rw [Option.map_some]
      split
      · next region hkind => exact (hplain _ _ hrule).2 region (Option.some.inj hkind)
      · simp
  | rule hrule hpattern => exact (hplain _ _ hrule).1

/-- **A step reaches the end of its match**, without a remark. -/
theorem Covers.reaches (hupright : scan.repository.Upright) (hplain : scan.repository.ScansNoGroup)
    {state : Drive} (hends : state.scene.stack.EndsWith Pattern.Upright) {scene : Scene} {stop : Nat}
    {pattern : Pattern} {groups : Groups} {captures : CaptureMap} {scopes : List String}
    (h : scan.Covers state scene stop pattern groups captures scopes) :
    ∃ carried, Emission.Reaches carried [] stop state.scene.emission scene.emission := by
  have hmatch := h.applies.upright hupright hends _ _ _ _ h.finds
  obtain rfl := h.stop_eq
  have happroached : Grows (fun stop _ => stop ≤ groups.whole.stop) (fun _ => False)
      state.scene.emission (scan.approached state groups).emission :=
    .produce _ _ (.learn _ (.refl _)) hmatch
  have hposition : groups.whole.start ≤ (scan.approached state groups).emission.sink.position := by
    rw [approached, Scene.cover, Emission.produce, Sink.produce_position]
    exact Nat.le_max_right _ _
  have hgrows : Grows (fun stop _ => stop ≤ groups.whole.stop) (fun _ => False)
      state.scene.emission scene.emission ∧ groups.whole.stop ≤ scene.emission.sink.position := by
    rcases h.emission with ⟨hsame, hempty⟩ | ⟨session, hcovered⟩
    · rw [hsame]
      simp only [Span.isEmpty, decide_eq_true_eq] at hempty
      exact ⟨happroached, by omega⟩
    · rw [hcovered]
      have hyields : Yields (fun _ => True) (fun stop _ => stop ≤ groups.whole.stop) (fun _ => False)
          (scan.approached state groups).emission
          (resolveCaptures scan.reenter scan.line groups captures scopes
            (scan.approached state groups).emission) := by
        refine resolveCaptures_yields (fun _ _ hle (_ : True) => hle) (fun _ _ _ _ => trivial) ?_
          trivial _
        intro entry hmem span _ f rule _ hrule
        rw [h.applies.scansNoGroup hplain entry hmem] at hrule
        cases hrule
      exact ⟨.learn session (happroached.trans (hyields trivial).1),
        resolveCaptures_position scan.reenter scan.line groups captures scopes _⟩
  obtain ⟨carried, remarks, hreaches, hnone⟩ := hgrows.1.reaches hgrows.2
  obtain rfl := List.eq_nil_iff_forall_not_mem.mpr hnone
  exact ⟨carried, hreaches⟩

/-- At most one remark on a line that starts at `offset`; from its place on all places of the line carry
one list of scopes. -/
inductive RemarksOnce (offset stop : Nat) (carried : Nat → List String) : List Diagnostic → Prop where
  | never : RemarksOnce offset stop carried []
  | once (cursor length : Nat) (scopes : List String)
      (hscopes : ∀ place, cursor ≤ place → place < stop → carried place = scopes) :
      RemarksOnce offset stop carried [.unmatchedInput (offset + cursor) length]

/-- A scan that has made no remark, with the sink where the cursor is. -/
structure Quiet (origin : Emission) (state : Drive) : Prop where
  ends : state.scene.stack.EndsWith Pattern.Upright
  position : state.scene.emission.sink.position = state.cursor
  reaches : ∃ carried, Emission.Reaches carried [] state.cursor origin state.scene.emission

/-- What a scan of a line has come to: it has reached the end, with one remark at most. -/
structure Told (scan : LineScan) (origin : Emission) (scene : Scene) : Prop where
  ends : scene.stack.EndsWith Pattern.Upright
  reaches : ∃ carried remarks stop, Emission.Reaches carried remarks stop origin scene.emission ∧
    scan.line.size ≤ stop ∧ RemarksOnce scan.offset scan.line.size carried remarks

namespace Quiet

variable {origin : Emission} {state : Drive}

/-- Where nothing matches the rest of the line is covered, and may be remarked on. -/
theorem unmatched (h : Quiet origin state) {scene : Scene}
    (hstep : scan.Step state (.unmatched scene)) : scan.Told origin scene := by
  obtain ⟨carried, hreaches⟩ := h.reaches
  have hlooked : Emission.Reaches carried [] state.cursor origin (scan.looked state.scene).emission :=
    hreaches.learn _
  have hcovers (emission : Emission) (hposition : emission.sink.position = state.cursor)
      (scopes : List String) (place : Nat) (hplace : state.cursor ≤ place) :
      (if place < emission.sink.position then carried place else scopes) = scopes := by
    rw [if_neg (by omega)]
  refine ⟨hstep.unmatched_stack.2 ▸ h.ends, ?_⟩
  rw [hstep.unmatched_emission, leave]
  split
  · -- the remark is made where the sink is, and then the line is covered with one list of scopes
    refine ⟨_, _, _, (hlooked.remark _).trans (.produce _ scan.line.size _), Nat.le_max_right _ _, ?_⟩
    exact .once state.cursor _ _ fun place hplace _ => hcovers _ h.position _ place hplace
  · exact ⟨_, _, _, hlooked.trans (.produce _ scan.line.size _), Nat.le_max_right _ _, .never⟩

/-- A step that finds a match, with what follows it, is quiet. -/
theorem settle (hupright : scan.repository.Upright) (hplain : scan.repository.ScansNoGroup)
    (hscan : scan.KeepsSound) (h : Quiet origin state) (hsound : state.scene.Sound scan.repository)
    (hinside : state.cursor < scan.line.size) {scene : Scene} {stop : Nat} {forced unwind : Bool}
    (hstep : scan.Step state (.matched scene stop forced unwind)) :
    Quiet origin (scan.settle state scene stop forced unwind) := by
  obtain ⟨pattern, groups, captures, scopes, hcovers⟩ := hstep.covers
  obtain ⟨carried, hbefore⟩ := h.reaches
  obtain ⟨carried', hmatched⟩ := hcovers.reaches hupright hplain h.ends
  have hreaches := hbefore.trans hmatched
  have hposition : scene.emission.sink.position = max state.cursor stop := by
    rw [hmatched.position, h.position]
  have hends := settle_endsWith scan (hstep.endsWith hscan (hupright.ends _) hsound h.ends) state stop
    forced unwind
  rcases scan.settle_emission state scene stop forced unwind with ⟨hsame, hcursor⟩ | ⟨hforced, hcursor⟩
  · refine ⟨hends, ?_, ?_⟩
    · rw [hsame, hposition, hcursor]
    · rw [hsame, hcursor]
      exact ⟨_, hreaches⟩
  · -- the character that is covered by force lies behind the match
    have hstop : stop ≤ scan.line.size := by
      rw [hcovers.stop_eq]
      exact (Pattern.findAt_onLine hcovers.finds).whole.2.le_size
    have hnext : max state.cursor stop ≤ scan.line.next (max state.cursor stop) := by
      rcases Nat.lt_or_ge (max state.cursor stop) scan.line.size with hlt | hge
      · exact Nat.le_of_lt (scan.line.lt_next hlt)
      · rw [scan.line.next_of_size_le hge]
        omega
    refine ⟨hends, ?_, ?_⟩
    · rw [hforced, Emission.produce, Sink.produce_position, hposition, hcursor]
      omega
    · have hpushed := hreaches.trans (.produce scene.emission
        (scan.settle state scene stop forced unwind).cursor
        (scan.settle state scene stop forced unwind).scene.stack.scopes)
      rw [← hforced, List.append_nil, hcursor, Nat.max_eq_right hnext] at hpushed
      rw [hcursor]
      exact ⟨_, hpushed⟩

end Quiet

/-- **A line is remarked on once at most**, if no group is scanned again. -/
theorem drive_remarks (hupright : scan.repository.Upright) (hplain : scan.repository.ScansNoGroup)
    (hscan : scan.KeepsSound) (first : Drive) (hsound : first.scene.Sound scan.repository)
    (hends : first.scene.stack.EndsWith Pattern.Upright)
    (hposition : first.scene.emission.sink.position = first.cursor) :
    scan.Told first.scene.emission (scan.drive first) := by
  have hfirst : Quiet first.scene.emission first :=
    ⟨hends, hposition, fun _ => [], .refl _ (Nat.le_of_eq hposition.symm)⟩
  refine drive_induct_of_sound hscan (Quiet first.scene.emission) (scan.Told first.scene.emission)
    ?_ ?_ ?_ first hfirst hsound
  · rintro state ⟨hends, _, carried, hreaches⟩ hend
    exact ⟨hends, carried, [], state.cursor, hreaches, hend, .never⟩
  · exact fun state scene h _ _ hstep => h.unmatched hstep
  · exact fun state scene stop forced unwind h hsound hinside hstep =>
      h.settle hupright hplain hscan hsound hinside hstep

end LineScan

/-! ## Parts of lines -/

/-- A remark is about a part of a line, which is not blank and does not end with a line end. -/
structure Diagnostic.About (lines before : List (List Char)) (first part rest : List Char)
    (after : List (List Char)) (diagnostic : Diagnostic) : Prop where
  lines_eq : lines = before ++ (first ++ part ++ rest) :: after
  remark_eq : diagnostic = .unmatchedInput
    (Line.byteCount before.flatten + Line.byteCount first) (Line.byteCount part)
  notBlank : part.any (!Unicode.isBlank ·) = true
  last : ∀ c, part.getLast? = some c → Text.isLineEnd c = false

namespace Diagnostic.About

variable {lines before : List (List Char)} {first part rest : List Char} {after : List (List Char)}
  {diagnostic : Diagnostic}

/-- The part takes up space on its line. -/
theorem byteCount_pos (h : diagnostic.About lines before first part rest after) :
    0 < Line.byteCount part := by
  refine Nat.pos_of_ne_zero fun hzero => ?_
  have hany := h.notBlank
  rw [Line.byteCount_eq_zero.mp hzero] at hany
  cases hany

/-- It is remarked on where it starts, -/
theorem offset_eq (h : diagnostic.About lines before first part rest after) {offset length : Nat}
    (hremark : diagnostic = .unmatchedInput offset length) :
    offset = Line.byteCount before.flatten + Line.byteCount first := by
  have hplace := hremark.symm.trans h.remark_eq
  injection hplace

/-- which is before the end of its line. -/
theorem offset_lt (h : diagnostic.About lines before first part rest after) {offset length : Nat}
    (hremark : diagnostic = .unmatchedInput offset length) :
    offset < Line.byteCount before.flatten + Line.byteCount (first ++ part ++ rest) := by
  have hpos := h.byteCount_pos
  rw [h.offset_eq hremark, Line.byteCount_append, Line.byteCount_append]
  omega

/-- It lies on boundaries of the text. -/
theorem isValid {text : String} (h : diagnostic.About (Text.lines text.toList) before first part rest after)
    {offset length : Nat} (hremark : diagnostic = .unmatchedInput offset length) :
    String.Pos.Raw.IsValid text ⟨offset⟩ ∧ String.Pos.Raw.IsValid text ⟨offset + length⟩ := by
  have hremark := h.remark_eq.symm.trans hremark
  injection hremark with hoffset hlength
  have htext := Text.eq_append_of_lines h.lines_eq
  refine ⟨isValid_of_mem_boundaries (mem_boundaries_iff.mpr
      ⟨before.flatten ++ first, part ++ rest ++ after.flatten, ?_, ?_⟩),
    isValid_of_mem_boundaries (mem_boundaries_iff.mpr
      ⟨before.flatten ++ first ++ part, rest ++ after.flatten, ?_, ?_⟩)⟩
  · rw [htext]
    simp only [List.append_assoc]
  · rw [Line.byteCount_append]
    omega
  · rw [htext]
    simp only [List.append_assoc]
  · rw [Line.byteCount_append, Line.byteCount_append]
    omega

end Diagnostic.About

/-- A remark on a line as it is matched is about a part of what the buffer holds of the line. -/
theorem Emission.Leftover.exists_about {chars : List Char} {diagnostic : Diagnostic}
    {before : List (List Char)} (after : List (List Char))
    (h : Leftover (Line.ofChars (terminated chars)) (Line.byteCount before.flatten) diagnostic) :
    ∃ first part rest, chars = first ++ part ++ rest ∧
      diagnostic.About (before ++ chars :: after) before first part rest after := by
  obtain ⟨first, part, rest, hline, hremark, hany, hlast⟩ := h.exists_part
  rw [Line.chars_ofChars, terminated] at hline
  split at hline
  · exact ⟨first, part, rest, hline, by rw [hline], hremark, hany, hlast⟩
  · -- the line feed that is put behind the line is no part of the part
    rcases List.eq_nil_or_concat rest with rfl | ⟨init, last, rfl⟩
    · have hne : part ≠ [] := by
        rintro rfl
        cases hany
      have hfeed := congrArg List.getLast? hline
      rw [List.append_nil, List.getLast?_concat, List.getLast?_append_of_ne_nil _ hne] at hfeed
      exact absurd (hlast '\n' hfeed.symm) (by decide)
    · rw [List.concat_eq_append, ← List.append_assoc] at hline
      obtain ⟨hchars, _⟩ := List.append_inj' hline rfl
      exact ⟨first, part, init, hchars, by rw [hchars], hremark, hany, hlast⟩

/-! ## Line after line -/

namespace Repository

variable (repository : Repository) (stallLimit : Nat)

/-- What the next line adds to the remarks is about parts of the line. -/
theorem scanNextLine_about {progress : ScanProgress} {done : List (List Char)}
    (hoffset : progress.offset = Line.byteCount done.flatten) (chars : List Char)
    (rest : List (List Char)) :
    ∃ remarks, (repository.scanNextLine stallLimit progress chars).emission.diagnostics.toList =
        progress.emission.diagnostics.toList ++ remarks ∧
      ∀ diagnostic ∈ remarks, ∃ first part more, chars = first ++ part ++ more ∧
        diagnostic.About (done ++ chars :: rest) done first part more rest := by
  obtain ⟨_, _, hgrows⟩ := repository.scanNextLine_grows stallLimit progress chars
  obtain ⟨remarks, hremarks, hleft⟩ := Emission.Grows.exists_remarks hgrows
  refine ⟨remarks, hremarks, fun diagnostic hmem => ?_⟩
  exact Emission.Leftover.exists_about rest (hoffset ▸ hleft diagnostic hmem)

/-- Line after line, remarks are about parts of lines. -/
theorem foldl_about (lines : List (List Char)) {done : List (List Char)} {progress : ScanProgress}
    (hoffset : progress.offset = Line.byteCount done.flatten)
    (h : ∀ diagnostic ∈ progress.emission.diagnostics.toList,
      ∃ before first part rest after, diagnostic.About (done ++ lines) before first part rest after) :
    ∀ diagnostic ∈ (lines.foldl (repository.scanNextLine stallLimit)
        progress).emission.diagnostics.toList,
      ∃ before first part rest after, diagnostic.About (done ++ lines) before first part rest after := by
  induction lines generalizing done progress with
  | nil => exact h
  | cons chars lines ih =>
    obtain ⟨remarks, hremarks, habout⟩ :=
      repository.scanNextLine_about stallLimit hoffset chars lines
    have hnext : (repository.scanNextLine stallLimit progress chars).offset =
        Line.byteCount (done ++ [chars]).flatten := by
      rw [List.flatten_append, Line.byteCount_append, ← hoffset, List.flatten_singleton]
      rfl
    have hlines : done ++ chars :: lines = done ++ [chars] ++ lines := by simp
    rw [hlines] at h habout ⊢
    refine ih hnext ?_
    rw [hremarks]
    refine List.forall_mem_append.mpr ⟨h, fun diagnostic hmem => ?_⟩
    obtain ⟨first, part, more, _, hpart⟩ := habout diagnostic hmem
    exact ⟨_, _, _, _, _, hpart⟩

/-- The next line of a buffer is covered, and remarked on once at most. -/
theorem scanNextLine_remarks (hupright : repository.Upright) (hplain : repository.ScansNoGroup)
    {progress : ScanProgress} (hsound : progress.emission.session.Sound repository)
    (hends : progress.stack.EndsWith Pattern.Upright) (chars : List Char) :
    let next := repository.scanNextLine stallLimit progress chars
    next.stack.EndsWith Pattern.Upright ∧ ∃ (carried : Nat → List String) (remarks : List Diagnostic),
      next.emission.sink.bytes = progress.emission.sink.bytes ++
        (List.range' progress.offset (Line.byteCount chars)).map (fun place => (place, carried place)) ∧
      next.emission.diagnostics.toList = progress.emission.diagnostics.toList ++ remarks ∧
      (remarks = [] ∨ ∃ cursor length scopes,
        remarks = [.unmatchedInput (progress.offset + cursor) length] ∧
          ∀ place, progress.offset + cursor ≤ place → place < progress.offset + Line.byteCount chars →
            carried place = scopes) := by
  have hends' : (progress.lineStart chars).scene.stack.EndsWith Pattern.Upright := hends.clearAnchors
  have hsound' : (progress.lineStart chars).scene.Sound repository := hsound
  obtain ⟨hends, carried, remarks, stop, hreaches, hstop, honce⟩ := LineScan.drive_remarks hupright hplain
    (repository.lineScan_keepsSound stallLimit progress chars) (progress.lineStart chars) hsound' hends'
    rfl
  have hvisible := Nat.le_trans (visible_le_size chars) hstop
  rw [scanNextLine_eq]
  refine ⟨hends, fun place => carried (place - progress.offset), remarks, ?_, hreaches.diagnostics, ?_⟩
  · refine hreaches.bytes.trans ?_
    have hstretch : (progress.lineStart chars).scene.emission.sink.stretch 0 stop carried =
        (List.range' progress.offset (Line.byteCount chars)).map
          (fun place => (place, carried (place - progress.offset))) := by
      have hcount : min stop (Line.byteCount chars) - 0 = Line.byteCount chars := by omega
      rw [Sink.stretch, ← Nat.add_zero progress.offset, ← List.map_add_range', List.map_map]
      show (List.range' 0 (min stop (Line.byteCount chars) - 0)).map _ = _
      rw [hcount]
      refine List.map_congr_left fun place _ => ?_
      dsimp only [Function.comp_apply]
      rw [Nat.add_zero, Nat.add_sub_cancel_left]
      rfl
    exact congrArg _ hstretch
  · cases honce with
    | never => exact Or.inl rfl
    | once cursor length scopes hscopes =>
      refine Or.inr ⟨cursor, length, scopes, rfl, fun place hfrom hto => hscopes _ (by omega) ?_⟩
      exact Nat.lt_of_lt_of_le (by omega) (visible_le_size chars)

/-- The later of two remarks on unmatched text is behind the earlier one, and on a later line. -/
def IsLater (text : List Char) (first second : Diagnostic) : Prop :=
  ∀ offset length offset' length', first = .unmatchedInput offset length →
    second = .unmatchedInput offset' length' →
      offset < offset' ∧ Text.lineAt text offset < Text.lineAt text offset'

/-- From the place of a remark on, all bytes of its line carry one list of scopes. -/
def IsEven (bytes : List (Nat × List String)) (lines : List (List Char)) (diagnostic : Diagnostic) :
    Prop :=
  ∃ before first part rest after scopes, diagnostic.About lines before first part rest after ∧
    ∀ place, Line.byteCount before.flatten + Line.byteCount first ≤ place →
      place < Line.byteCount before.flatten + Line.byteCount (first ++ part ++ rest) →
        ∀ scopes', (place, scopes') ∈ bytes ↔ scopes' = scopes

/-- Bytes behind those that are there do not matter. -/
theorem IsEven.append {bytes added : List (Nat × List String)} {lines : List (List Char)} {limit : Nat}
    {diagnostic : Diagnostic} (h : IsEven bytes lines diagnostic)
    (hbytes : ∀ place scopes, (place, scopes) ∈ bytes → place < limit)
    (hadded : ∀ place scopes, (place, scopes) ∈ added → limit ≤ place) :
    IsEven (bytes ++ added) lines diagnostic := by
  obtain ⟨before, first, part, rest, after, scopes, hpart, heven⟩ := h
  refine ⟨before, first, part, rest, after, scopes, hpart, fun place hfrom hto scopes' => ?_⟩
  have hcarries := heven place hfrom hto
  have hplace := hbytes place scopes ((hcarries scopes).mpr rfl)
  rw [List.mem_append, ← hcarries scopes']
  exact or_iff_left fun hmem => absurd (hadded place scopes' hmem) (Nat.not_le_of_lt hplace)

/-- From a remark on the next line on, the bytes of the line carry one list of scopes if these do not
depend on the place. -/
theorem IsEven.of_next {bytes : List (Nat × List String)} {lines done rest : List (List Char)}
    {first part more : List Char} {diagnostic : Diagnostic} {carried : Nat → List String}
    {scopes : List String} (hbytes : ∀ place scopes, (place, scopes) ∈ bytes →
      place < Line.byteCount done.flatten)
    (hpart : diagnostic.About lines done first part more rest)
    (hscopes : ∀ place, Line.byteCount done.flatten + Line.byteCount first ≤ place →
      place < Line.byteCount done.flatten + Line.byteCount (first ++ part ++ more) →
        carried place = scopes) :
    IsEven (bytes ++ (List.range' (Line.byteCount done.flatten)
      (Line.byteCount (first ++ part ++ more))).map fun place => (place, carried place)) lines
      diagnostic := by
  refine ⟨done, first, part, more, rest, scopes, hpart, fun place hfrom hto scopes' => ?_⟩
  rw [List.mem_append, mem_carried, hscopes place hfrom hto]
  constructor
  · rintro (hold | ⟨_, rfl⟩)
    · exact absurd (hbytes place scopes' hold) (by omega)
    · rfl
  · rintro rfl
    exact Or.inr ⟨⟨by omega, hto⟩, rfl⟩

/-- What is known of a scan between two lines, if no group is scanned again. -/
structure Tidy (text : List Char) (lines done : List (List Char)) (progress : ScanProgress) : Prop where
  offset : progress.offset = Line.byteCount done.flatten
  sound : progress.emission.session.Sound repository
  ends : progress.stack.EndsWith Pattern.Upright
  places : progress.emission.sink.bytes.map Prod.fst = List.range progress.offset
  even : ∀ diagnostic ∈ progress.emission.diagnostics.toList,
    IsEven progress.emission.sink.bytes lines diagnostic
  behind : ∀ diagnostic ∈ progress.emission.diagnostics.toList, ∀ offset length,
    diagnostic = .unmatchedInput offset length → offset < progress.offset
  ordered : progress.emission.diagnostics.toList.Pairwise (IsLater text)

/-- The bytes that have been covered lie before the next line. -/
theorem Tidy.lt_of_mem_bytes {text : List Char} {lines done : List (List Char)} {progress : ScanProgress}
    (h : repository.Tidy text lines done progress) (place : Nat) (scopes : List String)
    (hmem : (place, scopes) ∈ progress.emission.sink.bytes) : place < progress.offset := by
  have hplace := List.mem_map_of_mem (f := Prod.fst) hmem
  rw [h.places] at hplace
  exact List.mem_range.mp hplace

/-- **The next line keeps the remarks tidy.** -/
theorem scanNextLine_tidy (hupright : repository.Upright) (hplain : repository.ScansNoGroup)
    {text : List Char} {lines done : List (List Char)} {progress : ScanProgress}
    (h : repository.Tidy text lines done progress) {chars : List Char} {rest : List (List Char)}
    (htext : Text.lines text = lines) (hlines : lines = done ++ chars :: rest) :
    repository.Tidy text lines (done ++ [chars]) (repository.scanNextLine stallLimit progress chars) := by
  obtain ⟨hends, carried, remarks, hbytes, hremarks, honce⟩ :=
    repository.scanNextLine_remarks stallLimit hupright hplain h.sound h.ends chars
  obtain ⟨remarks', hremarks', habout⟩ := repository.scanNextLine_about stallLimit h.offset chars rest
  obtain rfl := List.append_cancel_left (hremarks.symm.trans hremarks')
  have hoffset : (repository.scanNextLine stallLimit progress chars).offset =
      progress.offset + Line.byteCount chars := rfl
  have hnext : (done ++ [chars]).flatten = done.flatten ++ chars := by simp
  refine ⟨?_, repository.scanNextLine_sound stallLimit h.sound chars, hends, ?_, ?_, ?_, ?_⟩
  · rw [hoffset, h.offset, hnext, Line.byteCount_append]
  · rw [hbytes, List.map_append, h.places, List.map_map, hoffset, List.range_eq_range',
      List.range_eq_range']
    show _ ++ (List.range' progress.offset (Line.byteCount chars)).map id = _
    rw [List.map_id, ← List.range'_append_1, Nat.zero_add]
  · rw [hremarks, hbytes]
    refine List.forall_mem_append.mpr ⟨fun diagnostic hmem => ?_, fun diagnostic hmem => ?_⟩
    · exact (h.even diagnostic hmem).append h.lt_of_mem_bytes fun place scopes hadded =>
        (mem_carried.mp hadded).1.1
    · obtain ⟨first, part, more, rfl, hpart⟩ := habout diagnostic hmem
      rcases honce with rfl | ⟨cursor, length, scopes, rfl, hscopes⟩
      · cases hmem
      have hplace := hpart.offset_eq (List.mem_singleton.mp hmem)
      have hbefore := h.lt_of_mem_bytes
      rw [hplace] at hscopes
      rw [h.offset] at hscopes hbefore ⊢
      exact IsEven.of_next hbefore (hlines ▸ hpart) hscopes
  · rw [hremarks, hoffset]
    refine List.forall_mem_append.mpr ⟨fun diagnostic hmem offset length hremark => ?_,
      fun diagnostic hmem offset length hremark => ?_⟩
    · exact Nat.lt_add_right _ (h.behind diagnostic hmem offset length hremark)
    · obtain ⟨first, part, more, rfl, hpart⟩ := habout diagnostic hmem
      rw [h.offset]
      exact hpart.offset_lt hremark
  · rw [hremarks, List.pairwise_append]
    refine ⟨h.ordered, ?_, fun first hfirst second hsecond => ?_⟩
    · rcases honce with rfl | ⟨_, _, _, rfl, _⟩
      · exact .nil
      · exact List.pairwise_singleton _ _
    · rintro offset length offset' length' hearlier hlater
      have hlt := h.behind first hfirst offset length hearlier
      rw [h.offset] at hlt
      obtain ⟨ahead, part, more, rfl, hpart⟩ := habout second hsecond
      have hplace := hpart.offset_eq hlater
      have hsplit := htext.trans hlines
      have hline : Text.lineAt text offset' = done.flatten.count '\n' :=
        Text.lineAt_of_lines hsplit (by omega) (hpart.offset_lt hlater)
      refine ⟨by omega, ?_⟩
      rw [hline]
      exact Text.lineAt_lt_of_lines hsplit hlt

theorem foldl_tidy (hupright : repository.Upright) (hplain : repository.ScansNoGroup) {text : List Char}
    (rest : List (List Char)) {done : List (List Char)} {progress : ScanProgress}
    (h : repository.Tidy text (Text.lines text) done progress)
    (hlines : Text.lines text = done ++ rest) :
    repository.Tidy text (Text.lines text) (Text.lines text)
      (rest.foldl (repository.scanNextLine stallLimit) progress) := by
  induction rest generalizing done progress with
  | nil =>
    rw [List.append_nil] at hlines
    rw [← hlines] at h
    exact h
  | cons chars rest ih =>
    exact ih (repository.scanNextLine_tidy stallLimit hupright hplain h rfl hlines)
      (by rw [hlines, List.append_assoc, List.singleton_append])

/-- **Remarks on unmatched input.** Whatever the repository, the session and the stack to start with, each
one is about a part of a line between two boundaries of the text, which is not blank and does not end
with a line end. If the grammar has been compiled, and so have the ends that the stack waits for, and no
group is scanned again, then each remark is behind those before it and on a later line, and from its place
to the end of its line all bytes carry one list of scopes. -/
theorem unmatched_wellFormed (settings : ScannerSettings) (session : Session) (text : String)
    (state : Option ScopeStack) :
    let output := (repository.scan settings session text state).1
    let lines := Text.lines text.toList
    (∀ offset length, .unmatchedInput offset length ∈ output.diagnostics →
      String.Pos.Raw.IsValid text ⟨offset⟩ ∧ String.Pos.Raw.IsValid text ⟨offset + length⟩ ∧
        ∃ before first part rest after,
          (Diagnostic.unmatchedInput offset length).About lines before first part rest after) ∧
      ∀ grammar budget, compile grammar budget = .ok repository → session.Sound repository →
        (state.getD (.fresh repository)).EndsWith
          (fun pattern => ∃ source budget, Pattern.compile source budget = .ok pattern) →
        repository.ScansNoGroup →
          output.diagnostics.Pairwise (IsLater text.toList) ∧
            ∀ offset length, .unmatchedInput offset length ∈ output.diagnostics →
              IsEven (output.tokens.flatMap Token.bytes) lines (.unmatchedInput offset length) := by
  have hopen (stack : ScopeStack) (diagnostic : Diagnostic)
      (hmem : diagnostic ∈ stack.regions.reverse.map repository.unterminated) (offset length : Nat) :
      diagnostic ≠ .unmatchedInput offset length := by
    obtain ⟨frame, _, rfl⟩ := List.mem_map.mp hmem
    exact Diagnostic.noConfusion
  dsimp only
  rw [scan_eq, reached]
  refine ⟨fun offset length hmem => ?_, fun grammar budget hcompile hsession hends hplain => ?_⟩
  · have hmade := (List.mem_append.mp hmem).resolve_right fun hmem =>
      hopen _ _ hmem offset length rfl
    have hbegin : (ScanProgress.begin settings session (state.getD (.fresh repository))).offset =
        Line.byteCount ([] : List (List Char)).flatten := rfl
    obtain ⟨before, first, part, rest, after, hpart⟩ := repository.foldl_about settings.stallLimit
      (Text.lines text.toList) hbegin (by simp [ScanProgress.begin]) _ hmade
    exact ⟨(hpart.isValid rfl).1, (hpart.isValid rfl).2, before, first, part, rest, after, hpart⟩
  · have hbegin : repository.Tidy text.toList (Text.lines text.toList) []
        (.begin settings session (state.getD (.fresh repository))) := by
      refine ⟨rfl, hsession, ⟨hends.bottom, fun frame hmem pattern hclosing => ?_⟩, rfl,
        by simp [ScanProgress.begin], by simp [ScanProgress.begin], by simp [ScanProgress.begin]⟩
      obtain ⟨source, budget, hsource⟩ := hends.regions frame hmem pattern hclosing
      exact Pattern.upright_of_compile hsource
    have htidy := repository.foldl_tidy settings.stallLimit (upright_of_compile hcompile) hplain
      (Text.lines text.toList) hbegin rfl
    refine ⟨List.pairwise_append.mpr ⟨htidy.ordered, ?_, ?_⟩, fun offset length hmem => ?_⟩
    · exact List.pairwise_of_forall_mem_list fun first _ second hsecond offset length offset' length' _
        hlater => absurd hlater (hopen _ _ hsecond offset' length')
    · intro first _ second hsecond offset length offset' length' _ hlater
      exact absurd hlater (hopen _ _ hsecond offset' length')
    · exact htidy.even _ ((List.mem_append.mp hmem).resolve_right fun hmem =>
        hopen _ _ hmem offset length rfl)

/-- Words of letters `a` and `b`, with the letter at the start of a word in a group. -/
def wordsGrammar : Grammar where
  scopeName := "source.t"
  patterns := [{
    pattern := some "(a)b*"
    name := some "word"
    captures := [("1", { name := some "letter" })] }]

theorem wordsGrammar_remarks :
    (match compile wordsGrammar 1000 with
      | .ok repository =>
        let progress := (Text.lines "abc\r\n\nb".toList).foldl (repository.scanNextLineWithin 32 8)
          (.begin {} {} (.fresh repository))
        progress.emission.diagnostics.toList = [.unmatchedInput 2 1, .unmatchedInput 6 1] &&
          progress.stack.regions.isEmpty && (repository.rules.toList.all fun rule =>
            rule.captures.all (·.2.rule.isNone) && !rule.isRegion)
      | .error _ => false) = true := by
  decide +kernel

/-- Two lines of three are remarked on. -/
theorem unmatched_wellFormed_words :
    ∃ repository, compile wordsGrammar 1000 = .ok repository ∧ Session.Sound repository {} ∧
      (ScopeStack.fresh repository).EndsWith
        (fun pattern => ∃ source budget, Pattern.compile source budget = .ok pattern) ∧
      repository.ScansNoGroup ∧
      let output := (repository.scan {} {} "abc\r\n\nb" none).1
      output.diagnostics = [.unmatchedInput 2 1, .unmatchedInput 6 1] ∧
        output.diagnostics.Pairwise (IsLater "abc\r\n\nb".toList) ∧
        IsEven (output.tokens.flatMap Token.bytes) (Text.lines "abc\r\n\nb".toList)
          (.unmatchedInput 2 1) := by
  have hremarks := wordsGrammar_remarks
  split at hremarks
  · next repository hcompile =>
    simp only [scanNextLineWithin_eq, Bool.and_eq_true, decide_eq_true_eq, List.all_eq_true] at hremarks
    obtain ⟨⟨hdiagnostics, hregions⟩, hrules⟩ := hremarks
    have hsession : Session.Sound repository {} := .new repository
    have hends : (ScopeStack.fresh repository).EndsWith
        (fun pattern => ∃ source budget, Pattern.compile source budget = .ok pattern) := .plain rfl
    have hplain : repository.ScansNoGroup := by
      intro id rule hrule
      obtain ⟨hcaptures, hkind⟩ := hrules rule (mem_rules hrule)
      refine ⟨fun entry hmem => Option.isNone_iff_eq_none.mp (hcaptures entry hmem),
        fun region hregion => ?_⟩
      rw [Rule.isRegion, hregion] at hkind
      cases hkind
    have houtput : (repository.scan {} {} "abc\r\n\nb" none).1.diagnostics =
        [.unmatchedInput 2 1, .unmatchedInput 6 1] := by
      rw [scan_eq, reached, Option.getD_none]
      dsimp only
      rw [hdiagnostics, List.isEmpty_iff.mp hregions]
      rfl
    obtain ⟨hordered, heven⟩ := (unmatched_wellFormed repository {} {} "abc\r\n\nb" none).2
      wordsGrammar 1000 hcompile hsession hends hplain
    exact ⟨repository, hcompile, hsession, hends, hplain, houtput, hordered,
      heven 2 1 (houtput ▸ List.mem_cons_self)⟩
  · cases hremarks

end Repository

end ScopeScanner
