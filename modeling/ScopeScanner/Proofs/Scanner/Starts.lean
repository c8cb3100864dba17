import ScopeScanner.Proofs.Scanner.Anchoring
import ScopeScanner.Proofs.Scanner.LineByLine
import ScopeScanner.Proofs.Scanner.Merging

/-!
# Where regions begin

The frame of a region remembers where in the buffer its begin has matched. A last line without a line
feed is matched as if it had one, so a begin may match behind a line feed that the buffer does not hold.
Tokens are cut off at the end of the buffer, but starts are not.

* **`LineScan.BeginsWith`**: a region begins with a match that wins in some state of the scan of a line.
* **`Repository.exists_origin`**: after a scan of a text, every open region has begun in this way on one
  of the lines, and its start is the start of the match.
* **`Repository.starts_valid_iff`**: hence starts are character boundaries of the text, but for those of
  regions that begin with empty text behind the line feed that the last line is given.
-/

namespace ScopeScanner

namespace LineScan

variable {scan : LineScan}

/-! ## Begins on a line -/

/-- A frame stands for a region that begins on the line: in a state that the scan gets to, a match of
its rule wins, and the frame remembers where. -/
def BeginsWith (scan : LineScan) (first : Drive) (frame : Frame) (groups : Groups) : Prop :=
  ∃ state id rule region, scan.Reaches first state ∧ state.cursor < scan.line.size ∧
    scan.winner? state = some ⟨.rule id, groups⟩ ∧ scan.repository.rule? id = some rule ∧
    rule.kind = .region region ∧ scan.Finds state region.opening groups ∧
    frame.rule = rule.id ∧ frame.start = scan.offset + groups.whole.start

namespace BeginsWith

variable {first : Drive} {frame : Frame} {groups : Groups}

/-- A begin lies on boundaries of the line. -/
theorem onLine (h : scan.BeginsWith first frame groups) : groups.OnLine scan.line := by
  obtain ⟨_, _, _, _, _, _, _, _, _, hfinds, _, _⟩ := h
  exact Pattern.findAt_onLine hfinds

theorem start_eq (h : scan.BeginsWith first frame groups) :
    frame.start = scan.offset + groups.whole.start := by
  obtain ⟨_, _, _, _, _, _, _, _, _, _, _, hstart⟩ := h
  exact hstart

/-- What begins later on the way begins on the way. -/
theorem of_step {state : Drive} {scene : Scene} {stop : Nat} {forced unwind : Bool}
    (hinside : state.cursor < scan.line.size)
    (hresponse : scan.respond state = .matched scene stop forced unwind)
    (h : scan.BeginsWith (scan.settle state scene stop forced unwind) frame groups) :
    scan.BeginsWith state frame groups := by
  obtain ⟨last, id, rule, region, hreaches, hrest⟩ := h
  exact ⟨last, id, rule, region, .step hinside hresponse hreaches, hrest⟩

/-- A begin is known by the rule and the start of its frame. -/
theorem congr {frame' : Frame} (h : scan.BeginsWith first frame groups)
    (hrule : frame'.rule = frame.rule) (hstart : frame'.start = frame.start) :
    scan.BeginsWith first frame' groups := by
  obtain ⟨state, id, rule, region, hreaches, hinside, hwinner, hfound, hkind, hfinds, hsame, hplace⟩ := h
  exact ⟨state, id, rule, region, hreaches, hinside, hwinner, hfound, hkind, hfinds,
    hrule.trans hsame, hstart.trans hplace⟩

end BeginsWith

/-- A turn leaves regions that were open, and one that begins. -/
theorem Turn.mem_or_beginsWith {state : Drive} {scene : Scene} {stop : Nat} {unwind : Bool}
    (hturn : scan.Turn state scene stop unwind) (hinside : state.cursor < scan.line.size)
    {frame : Frame} (hmem : frame ∈ scene.stack.regions) :
    frame ∈ state.scene.stack.regions ∨ ∃ groups, scan.BeginsWith state frame groups := by
  cases hturn with
  | keeps hregions hsettled hunwind => exact Or.inl (hregions ▸ hmem)
  | ends pattern groups hwinner hclosing hfinds hregions hsettled hunwind =>
    exact Or.inl (List.mem_of_mem_tail (hregions ▸ hmem))
  | begins id rule region groups begun hwinner hrule hkind hfinds hrefuses hframe hstart hstop hregions
      hsettled hunwind =>
    rw [hregions] at hmem
    rcases List.mem_cons.mp hmem with rfl | hmem
    · exact Or.inr ⟨groups, state, id, rule, region, .refl state, hinside, hwinner, hrule, hkind, hfinds,
        hframe, hstart⟩
    · exact Or.inl hmem

/-- Along a run all open regions were open at first, or have begun. -/
theorem Reaches.mem_or_beginsWith {first last : Drive} (h : scan.Reaches first last) {frame : Frame}
    (hmem : frame ∈ last.scene.stack.regions) :
    frame ∈ first.scene.stack.regions ∨ ∃ groups, scan.BeginsWith first frame groups := by
  induction h with
  | refl state => exact Or.inl hmem
  | @step state last scene stop forced unwind hinside hresponse _ ih =>
    rcases ih hmem with hnext | ⟨groups, hbegins⟩
    · -- what follows the match drops regions at most
      obtain ⟨count, _, hregions⟩ := scan.settle_stack state scene stop forced unwind
      rw [hregions] at hnext
      exact (respond_turn hresponse).mem_or_beginsWith hinside (List.mem_of_mem_drop hnext)
    · exact Or.inr ⟨groups, hbegins.of_step hinside hresponse⟩

/-- After the scan of a line all open regions were open at its start, or have begun on it. -/
theorem drive_mem_or_beginsWith (scan : LineScan) (first : Drive) {frame : Frame}
    (hmem : frame ∈ (scan.drive first).stack.regions) :
    frame ∈ first.scene.stack.regions ∨ ∃ groups, scan.BeginsWith first frame groups := by
  obtain ⟨visit, hlast, hstack⟩ := scan.exists_last_visit first []
  have hreaches : scan.Reaches first visit.1 :=
    (mem_visits_iff first visit.1 []).mp ⟨visit, List.mem_of_mem_getLast? hlast, rfl⟩
  exact hreaches.mem_or_beginsWith (hstack ▸ hmem)

end LineScan

/-! ## Begins in a text -/

namespace Repository

variable (repository : Repository)

/-- A frame stands for a region that has begun with a match on the line `chars` of a text, which has been
scanned from a fresh stack. -/
structure Origin (settings : ScannerSettings) (session : Session) (lines : List (List Char))
    (frame : Frame) (before : List (List Char)) (chars : List Char) (after : List (List Char))
    (groups : Groups) : Prop where
  lines_eq : lines = before ++ chars :: after
  begins :
    let progress := before.foldl (repository.scanNextLine settings.stallLimit)
      (.begin settings session (.fresh repository))
    (repository.lineScan settings.stallLimit progress chars).BeginsWith (progress.lineStart chars) frame
      groups

variable {repository} {settings : ScannerSettings} {session : Session}

namespace Origin

variable {lines before after : List (List Char)} {frame : Frame} {chars : List Char} {groups : Groups}

/-- A begin in the first lines is a begin in the text. -/
theorem append (h : repository.Origin settings session lines frame before chars after groups)
    (more : List (List Char)) :
    repository.Origin settings session (lines ++ more) frame before chars (after ++ more) groups where
  lines_eq := by rw [h.lines_eq, List.append_assoc, List.cons_append]
  begins := h.begins

/-- The start of a region is that of its begin, behind all lines before. -/
theorem start_eq (h : repository.Origin settings session lines frame before chars after groups) :
    frame.start = Line.byteCount before.flatten + groups.whole.start := by
  have hoffset := (repository.foldl_scanNextLine_frame settings.stallLimit before
    (.begin settings session (.fresh repository))).1
  refine h.begins.start_eq.trans ?_
  rw [lineScan, hoffset]
  exact congrArg (· + _) (Nat.zero_add _)

end Origin

/-- **After a scan every open region has begun on one of the lines.** -/
theorem exists_origin (settings : ScannerSettings) (session : Session) (lines : List (List Char))
    {frame : Frame}
    (hmem : frame ∈ (lines.foldl (repository.scanNextLine settings.stallLimit)
      (.begin settings session (.fresh repository))).stack.regions) :
    ∃ before chars after groups,
      repository.Origin settings session lines frame before chars after groups := by
  induction lines using List.reverseRecOn generalizing frame with
  | nil => cases hmem
  | append_singleton lines chars ih =>
    rw [List.foldl_append, List.foldl_cons, List.foldl_nil, scanNextLine_eq] at hmem
    rcases LineScan.drive_mem_or_beginsWith _ _ hmem with hold | ⟨groups, hbegins⟩
    · -- the region was open before the line, with an anchor that has been forgotten
      obtain ⟨carried, hcarried, rfl⟩ := List.mem_map.mp hold
      obtain ⟨before, line, after, groups, horigin⟩ := ih hcarried
      have hlonger := horigin.append [chars]
      exact ⟨before, line, after ++ [chars], groups, hlonger.lines_eq, hlonger.begins.congr rfl rfl⟩
    · exact ⟨lines, chars, [], groups, rfl, hbegins⟩

/-- A begin lies behind the line feed that the last line of a text is given. -/
def BehindFeed (chars : List Char) (after : List (List Char)) (groups : Groups) : Prop :=
  after = [] ∧ chars.getLast? ≠ some '\n' ∧ groups.whole.start = Line.byteCount chars + 1

namespace Origin

variable {text : String} {before after : List (List Char)} {frame : Frame} {chars : List Char}
  {groups : Groups}

/-- A begin behind the line feed of the last line lies behind the text, and is empty. -/
theorem of_behindFeed
    (h : repository.Origin settings session (Text.lines text.toList) frame before chars after groups)
    (hbehind : BehindFeed chars after groups) :
    frame.start = text.utf8ByteSize + 1 ∧ groups.whole.isEmpty = true := by
  obtain ⟨rfl, hfeed, hstart⟩ := hbehind
  have htext := Text.eq_append_of_lines h.lines_eq
  rw [List.flatten_nil, List.append_nil] at htext
  have hsize : text.utf8ByteSize = Line.byteCount before.flatten + Line.byteCount chars := by
    rw [← Line.byteCount_append, ← htext, Line.byteCount_eq_utf8ByteSize, String.ofList_toList]
  refine ⟨by rw [h.start_eq, hstart, hsize, Nat.add_assoc], decide_eq_true ?_⟩
  -- the line as it is matched ends here
  have hstop : groups.whole.stop ≤ (Line.ofChars (terminated chars)).size :=
    h.begins.onLine.whole.2.le_size
  rw [Line.size_eq_byteCount, Line.chars_ofChars, terminated, if_neg hfeed, Line.byteCount_append,
    show Line.byteCount ['\n'] = 1 from rfl] at hstop
  omega

/-- Any other begin lies on a character boundary of the text. -/
theorem isValid
    (h : repository.Origin settings session (Text.lines text.toList) frame before chars after groups)
    (hbehind : ¬ BehindFeed chars after groups) : String.Pos.Raw.IsValid text ⟨frame.start⟩ := by
  have hboundary : (Line.ofChars (terminated chars)).Boundary groups.whole.start :=
    h.begins.onLine.whole.1
  -- it does not lie beyond what the buffer holds of the line
  have hinside : groups.whole.start ≤ Line.byteCount chars := by
    by_contra hbeyond
    have hle := hboundary.le_size
    rw [Line.size_eq_byteCount, Line.chars_ofChars, terminated] at hle
    split at hle
    · exact hbeyond hle
    · next hfeed =>
      rw [Line.byteCount_append, show Line.byteCount ['\n'] = 1 from rfl] at hle
      refine hbehind ⟨?_, hfeed, by omega⟩
      by_contra hafter
      exact hfeed (Text.getLast?_of_lines h.lines_eq hafter)
  have hvisible := visible_boundary hboundary (Line.byteCount before.flatten)
  rw [Nat.min_eq_left hinside, ← h.start_eq] at hvisible
  apply isValid_of_mem_boundaries
  rw [Text.eq_append_of_lines h.lines_eq]
  apply mem_boundaries_append
  rw [Nat.zero_add]
  exact Or.inr (mem_boundaries_append (Or.inl hvisible))

/-- A start is a character boundary of the text, unless the begin lies behind the line feed that the last
line is given. -/
theorem isValid_iff
    (h : repository.Origin settings session (Text.lines text.toList) frame before chars after groups) :
    String.Pos.Raw.IsValid text ⟨frame.start⟩ ↔ ¬ BehindFeed chars after groups := by
  refine ⟨fun hvalid hbehind => ?_, h.isValid⟩
  have hle : frame.start ≤ text.utf8ByteSize := hvalid.le_rawEndPos
  rw [(h.of_behindFeed hbehind).1] at hle
  omega

end Origin

/-- The regions that a scan reports as not terminated are those that are open at its end. -/
theorem mem_unterminated_iff (repository : Repository) (settings : ScannerSettings) (session : Session)
    (text : String) (state : Option ScopeStack) (rule : String) (scopes : List String) (start : Nat) :
    let output := (repository.scan settings session text state).1
    .unterminatedRegion rule scopes start ∈ output.diagnostics ↔
      ∃ frame ∈ output.endState.regions,
        repository.unterminated frame = .unterminatedRegion rule scopes start := by
  dsimp only
  rw [scan_eq]
  dsimp only
  have hmade := repository.isUnmatched_of_mem_foldl settings (Text.lines text.toList)
    (.begin settings session (state.getD (.fresh repository))) (by simp [ScanProgress.begin])
  simp only [List.mem_append, List.mem_map, List.mem_reverse]
  constructor
  · rintro (hremark | hopen)
    · cases hmade _ hremark
    · exact hopen
  · exact Or.inr

/-- **Where the open regions of a text have begun.** Take any scan from a fresh stack. The frame of the
grammar starts at 0. Each other frame, and with it each region that is reported as not terminated, has
begun with a match of its rule on one of the lines. Its start is a character boundary of the text, unless
that match lies behind the line feed that the last line is given for want of one; then the match is empty
and the start is one more than the size of the text. -/
theorem starts_valid_iff (repository : Repository) (settings : ScannerSettings) (session : Session)
    (text : String) :
    let output := (repository.scan settings session text none).1
    output.endState.bottom.start = 0 ∧
    (∀ frame ∈ output.endState.regions, ∃ before chars after groups,
      repository.Origin settings session (Text.lines text.toList) frame before chars after groups ∧
      frame.start = Line.byteCount before.flatten + groups.whole.start ∧
      (String.Pos.Raw.IsValid text ⟨frame.start⟩ ↔ ¬ BehindFeed chars after groups) ∧
      (BehindFeed chars after groups →
        frame.start = text.utf8ByteSize + 1 ∧ groups.whole.isEmpty = true)) ∧
    ∀ rule scopes start, .unterminatedRegion rule scopes start ∈ output.diagnostics ↔
      ∃ frame ∈ output.endState.regions,
        repository.unterminated frame = .unterminatedRegion rule scopes start := by
  refine ⟨?_, fun frame hmem => ?_, repository.mem_unterminated_iff settings session text none⟩
  · rw [(repository.scan_rooted settings session text Continues.fresh.bottom_eq).1]
    rfl
  · obtain ⟨before, chars, after, groups, horigin⟩ := exists_origin settings session _ hmem
    exact ⟨before, chars, after, groups, horigin, horigin.start_eq, horigin.isValid_iff,
      horigin.of_behindFeed⟩

/-- A region that begins behind a line feed. -/
def behindGrammar : Grammar where
  scopeName := "source.t"
  patterns := [{ opening := some "(?<=\\n)", closing := some "z", name := some "region" }]

theorem behindGrammar_starts :
    (match compile behindGrammar 1000 with
      | .ok repository =>
        decide (((Text.lines "ab".toList).foldl (repository.scanNextLineWithin 32 8)
          (.begin {} {} (.fresh repository))).stack.regions.map repository.unterminated =
            [.unterminatedRegion "region" ["region"] 3])
      | .error _ => false) = true := by
  decide +kernel

/-- In two bytes of text without a line feed it begins at 3. -/
theorem starts_valid_iff_behind :
    ∃ repository, compile behindGrammar 1000 = .ok repository ∧
      let output := (repository.scan {} {} "ab" none).1
      .unterminatedRegion "region" ["region"] 3 ∈ output.diagnostics ∧
      ∃ frame ∈ output.endState.regions, ¬ String.Pos.Raw.IsValid "ab" ⟨frame.start⟩ ∧
        ∃ before chars after groups,
          repository.Origin {} {} (Text.lines "ab".toList) frame before chars after groups ∧
          BehindFeed chars after groups := by
  have hstarts := behindGrammar_starts
  split at hstarts
  · next repository hcompile =>
    simp only [scanNextLineWithin_eq, decide_eq_true_eq] at hstarts
    obtain ⟨_, horigins, hreported⟩ := starts_valid_iff repository {} {} "ab"
    have hremark : Diagnostic.unterminatedRegion "region" ["region"] 3 ∈
        (repository.scan {} {} "ab" none).1.diagnostics := by
      rw [scan_eq]
      dsimp only
      rw [List.map_reverse]
      refine List.mem_append_right _ (List.mem_reverse.mpr ?_)
      rw [Option.getD_none, reached, hstarts]
      exact List.mem_cons_self
    obtain ⟨frame, hmem, hframe⟩ := (hreported _ _ _).mp hremark
    have hthree : frame.start = 3 := by
      injection hframe
    have hbeyond : ¬ String.Pos.Raw.IsValid "ab" ⟨frame.start⟩ := by
      intro hvalid
      have hle : frame.start ≤ "ab".utf8ByteSize := hvalid.le_rawEndPos
      rw [hthree] at hle
      exact absurd hle (by decide)
    obtain ⟨before, chars, after, groups, horigin, _, hvalid, _⟩ := horigins frame hmem
    exact ⟨repository, hcompile, hremark, frame, hmem, hbeyond, before, chars, after, groups, horigin,
      Classical.not_not.mp (mt hvalid.mpr hbeyond)⟩
  · cases hstarts

end Repository

end ScopeScanner
