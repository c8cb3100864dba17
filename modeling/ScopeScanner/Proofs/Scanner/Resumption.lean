import ScopeScanner.Proofs.Scanner.Displacement

/-!
# Resuming a scan

A text that ends a line may be scanned first, and what follows it later, from the stack that the first
scan ended with. The tokens are those of one scan of both texts, except for one thing: a stack
remembers where its regions began in the buffer of the scan that met their begins, and the repeat of an
empty begin is refused by comparing these places with places in the present buffer.

* **`Repository.scan_append_rebased`**: if the places on the stack are counted from the start of the
  second text (`ScopeStack.rebased`), the tokens are those of one scan, without exception.
* **`Repository.resume_iff`**: hence a scan resumed from the stack as it is agrees with one scan
  exactly if it does not matter from where the places are counted, and it does so whenever no rule of an
  open region can begin with an empty match where its place seems to be.
-/

namespace ScopeScanner

/-- If the first text ends a line, the lines of both are those of each. -/
theorem Text.lines_append {first : List Char} (h : first.getLast? = some '\n')
    (second : List Char) : lines (first ++ second) = lines first ++ lines second := by
  induction first with
  | nil => cases h
  | cons c rest ih =>
    cases rest with
    | nil =>
      obtain rfl : c = '\n' := by simpa using h
      simp [lines]
    | cons d rest =>
      have hrest := ih (by simpa using h)
      rw [List.cons_append, lines, lines, hrest]
      split
      · rfl
      · cases hlines : lines (d :: rest) with
        | nil =>
          have hflat := lines_flatten (d :: rest)
          rw [hlines] at hflat
          cases hflat
        | cons line more => rfl

/-! ## Places counted from further on -/

/-- The frame with its place counted from `shift` bytes on. A place before that is put beyond the
text, where no region begins. -/
def Frame.rebased (shift : Nat) (text : String) (frame : Frame) : Frame :=
  { frame with
    start := if shift ≤ frame.start then frame.start - shift else text.utf8ByteSize + 2 }

/-- The stack with all places counted from `shift` bytes on. -/
def ScopeStack.rebased (shift : Nat) (text : String) (stack : ScopeStack) : ScopeStack :=
  { stack with regions := stack.regions.map (Frame.rebased shift text) }

/-- No open region belongs to a rule that begins with an empty match where the region seems to have
begun, be its place counted from the start of the text or from `shift` bytes before. -/
def ScopeStack.Harmless (repository : Repository) (text : String) (shift : Nat)
    (stack : ScopeStack) : Prop :=
  ∀ frame ∈ stack.regions, ∀ p, repository.BeginsEmptyIn text.toList frame.rule p →
    frame.start ≠ p ∧ frame.start ≠ shift + p

/-- An empty match lies in the text, or behind the line feed that its last line is matched with. -/
theorem Repository.BeginsEmptyIn.le {repository : Repository} {text : List Char} {id : RuleId}
    {p : Nat} (h : repository.BeginsEmptyIn text id p) : p ≤ Line.byteCount text + 1 := by
  obtain ⟨before, chars, after, q, hlines, ⟨_, _, _, _, _, groups, _, _, _, hfinds, _, rfl⟩, rfl⟩ := h
  have hsize := (Pattern.findAt_onLine hfinds).whole.1.le_size
  have hfeed : Line.byteCount ['\n'] = 1 := by decide
  have hline : Line.byteCount (terminated chars) ≤ Line.byteCount chars + 1 := by
    rw [terminated]
    split
    · omega
    · rw [Line.byteCount_append]
      omega
  rw [Line.size_eq_byteCount, Line.chars_ofChars] at hsize
  have htext := congrArg Line.byteCount (Text.lines_flatten text)
  rw [hlines, List.flatten_append, List.flatten_cons, Line.byteCount_append,
    Line.byteCount_append] at htext
  omega

namespace CarriedOver

variable {repository : Repository} {text : String} {shift : Nat}

/-- With the places counted anew the same begins are refused. -/
theorem rebased (regions : List Frame) :
    CarriedOver repository text.toList shift regions (regions.map (Frame.rebased shift text)) where
  unplaced := by
    rw [List.map_map]
    rfl
  begun := by
    intro count id p hbegins
    have hp := hbegins.le
    rw [Line.byteCount_eq_utf8ByteSize, String.ofList_toList] at hp
    rw [← List.map_drop]
    generalize regions.drop count = regions
    induction regions with
    | nil => rfl
    | cons frame rest ih =>
      -- a place before the second text is put beyond it, where no match can be
      have hplace : frame.start = shift + p ↔ (frame.rebased shift text).start = p := by
        rw [Frame.rebased]
        dsimp only
        split
        · omega
        · omega
      rw [List.map_cons, begunAt_cons, begunAt_cons, ih, decide_eq_decide.mpr hplace]
      rfl

/-- A harmless stack refuses no empty begin on either side. -/
theorem of_harmless {stack : ScopeStack} (h : stack.Harmless repository text shift) :
    CarriedOver repository text.toList shift stack.regions stack.regions where
  unplaced := rfl
  begun := by
    intro count id p hbegins
    have hframes : ∀ frame ∈ stack.regions.drop count, frame.rule = id →
        frame.start ≠ p ∧ frame.start ≠ shift + p := by
      rintro frame hmem rfl
      exact h frame (List.mem_of_mem_drop hmem) p hbegins
    rw [begunAt_eq_false fun frame hmem hrule => (hframes frame hmem hrule).2,
      begunAt_eq_false fun frame hmem hrule => (hframes frame hmem hrule).1]

end CarriedOver

/-! ## One scan or two -/

namespace Repository

variable (repository : Repository)

/-- Scanning lines moves on by their size and leaves the way of collecting tokens as it is. -/
theorem foldl_scanNextLine_frame (stallLimit : Nat) (lines : List (List Char))
    (progress : ScanProgress) :
    (lines.foldl (repository.scanNextLine stallLimit) progress).offset =
        progress.offset + Line.byteCount lines.flatten ∧
      (lines.foldl (repository.scanNextLine stallLimit) progress).emission.sink.merge =
        progress.emission.sink.merge := by
  induction lines generalizing progress with
  | nil => exact ⟨rfl, rfl⟩
  | cons chars rest ih =>
    obtain ⟨hoffset, hmerge⟩ := ih (repository.scanNextLine stallLimit progress chars)
    obtain ⟨_, _, hgrows⟩ := scanLine_grows repository stallLimit progress.offset maxReentry
      (Line.ofChars (terminated chars)) 0
      (if progress.stack.clearAnchors.top.beganAtLineEnd then some 0 else none)
      progress.stack.clearAnchors
      { progress.emission with
        sink := progress.emission.sink.beginLine progress.offset (Line.byteCount chars) }
      (Line.zero_boundary _) (Nat.zero_le _)
    rw [List.foldl_cons, hoffset, hmerge, List.flatten_cons, Line.byteCount_append]
    refine ⟨?_, hgrows.sink_merge⟩
    show progress.offset + Line.byteCount chars + _ = _
    omega

variable {first second : String} {whole front rest : Session}

/-- The tokens of one scan are those of two, if the second starts from a stack that refuses the same
empty begins. -/
theorem scan_append_of_moved (settings : ScannerSettings)
    (hfirst : first.toList.getLast? = some '\n') (hwhole : whole.Sound repository)
    (hfront : front.Sound repository) (hrest : rest.Sound repository) (state : Option ScopeStack)
    (stack : ScopeStack)
    (hstack : (repository.scan settings front first state).1.endState.Moved first.utf8ByteSize
      (CarriedOver repository second.toList first.utf8ByteSize) stack) :
    (repository.scan settings whole (first ++ second) state).1.tokens =
      (repository.scan settings front first state).1.tokens ++
        (repository.scan settings rest second (some stack)).1.tokens.map
          (Token.shifted first.utf8ByteSize) := by
  rw [repository.scan_of_sound settings hwhole hfront, scan_eq, scan_eq, scan_eq]
  dsimp only
  rw [scan_eq] at hstack
  dsimp only at hstack
  generalize state.getD (.fresh repository) = start at hstack ⊢
  obtain ⟨hoffset, hmerge⟩ := repository.foldl_scanNextLine_frame settings.stallLimit
    (Text.lines first.toList) (.begin settings front start)
  have hsplit : repository.reached settings front (first ++ second) start =
      (Text.lines second.toList).foldl (repository.scanNextLine settings.stallLimit)
        (repository.reached settings front first start) := by
    rw [reached, String.toList_append, Text.lines_append hfirst, List.foldl_append]
    rfl
  -- where the first text ends, the one scan and the fresh one differ by the size of that text
  have hbegun : (repository.reached settings front first start).Displaced repository
      first.utf8ByteSize
      (ScopeStack.Moved first.utf8ByteSize
        (CarriedOver repository second.toList first.utf8ByteSize))
      (repository.reached settings front first start).tokens
      (repository.reached settings front first start).emission.diagnostics.toList
      (.begin settings rest stack) := by
    refine ⟨?_, hstack, hmerge, ?_, ?_, ?_, hrest⟩
    · rw [Text.lines_flatten, Line.byteCount_eq_utf8ByteSize, String.ofList_toList] at hoffset
      exact hoffset.trans (Nat.add_comm _ _)
    · simp [ScanProgress.begin]
    · simp [ScanProgress.begin]
    · exact (repository.reached_of_sound settings hfront hfront first start).sound
  have hdisplaced := repository.foldl_displaced settings.stallLimit
    (.moved repository second.toList first.utf8ByteSize) (Text.lines second.toList)
    (List.nil_append _).symm rfl hbegun
  rw [hsplit]
  exact hdisplaced.tokens

/-- **With the places counted from the start of the second text, the tokens are those of one scan.** -/
theorem scan_append_rebased (settings : ScannerSettings)
    (hfirst : first.toList.getLast? = some '\n') (hwhole : whole.Sound repository)
    (hfront : front.Sound repository) (hrest : rest.Sound repository) (state : Option ScopeStack) :
    (repository.scan settings whole (first ++ second) state).1.tokens =
      (repository.scan settings front first state).1.tokens ++
        (repository.scan settings rest second
          (some ((repository.scan settings front first state).1.endState.rebased first.utf8ByteSize
            second))).1.tokens.map (Token.shifted first.utf8ByteSize) :=
  repository.scan_append_of_moved settings hfirst hwhole hfront hrest state _
    ⟨rfl, .carried (.rebased _)⟩

/-- **When a resumed scan agrees with one scan.** It does exactly if its tokens stay the same when the
places on the stack are counted from the start of the second text, and it does whenever the stack is
harmless. -/
theorem resume_iff (settings : ScannerSettings) (hfirst : first.toList.getLast? = some '\n')
    (hwhole : whole.Sound repository) (hfront : front.Sound repository)
    (hrest : rest.Sound repository) (state : Option ScopeStack) :
    let one := (repository.scan settings whole (first ++ second) state).1
    let before := (repository.scan settings front first state).1
    let resumed (stack : ScopeStack) := (repository.scan settings rest second (some stack)).1
    let two := before.tokens ++
      (resumed before.endState).tokens.map (Token.shifted first.utf8ByteSize)
    (one.tokens = two ↔
        (resumed before.endState).tokens =
          (resumed (before.endState.rebased first.utf8ByteSize second)).tokens) ∧
      (before.endState.Harmless repository second first.utf8ByteSize → one.tokens = two) := by
  dsimp only
  refine ⟨?_, ?_⟩
  · rw [repository.scan_append_rebased settings hfirst hwhole hfront hrest state,
      List.append_cancel_left_eq, List.map_inj_right (Token.shifted_injective _)]
    exact eq_comm
  · intro hharmless
    exact repository.scan_append_of_moved settings hfirst hwhole hfront hrest state _
      ⟨rfl, .carried (.of_harmless hharmless)⟩

/-! ## A stack that is not harmless -/

/-- A region `x` that begins at an `a` or, with empty text, before a `b` to which no anchor points. It
may hold another `x` and the letter `b`. -/
def nestingGrammar : Grammar where
  scopeName := "source.t"
  patterns := [{ reference := some "#x" }]
  repository := [("x", {
    opening := some "a|(?!\\G)(?=b)"
    closing := some "z"
    name := some "region"
    patterns := [{ reference := some "#x" }, { pattern := some "b", name := some "letter" }] })]

/-- Whether the tokens of a second text depend on from where the places on the stack are counted. -/
def dependsOnPlaces (repository : Repository) (first second : String) : Bool :=
  let lines (text : String) (stack : ScopeStack) : ScanProgress :=
    (Text.lines text.toList).foldl (repository.scanNextLineWithin 32 8) (.begin {} {} stack)
  let stack := (lines first (.fresh repository)).stack
  (lines second stack).tokens ≠ (lines second (stack.rebased first.utf8ByteSize second)).tokens

/-- The `x` that begins at the `a` begins in place 0, and so does the second text; there the begin of
the inner `x` is taken for a repeat. -/
theorem nesting_dependsOnPlaces :
    (match compile nestingGrammar 1000 with
      | .ok repository => dependsOnPlaces repository "a\n" "b\n"
      | .error _ => false) = true := by
  decide +kernel

/-- Scanned in one go, the inner `x` begins before the `b`; resumed, it does not. -/
theorem resume_iff_nesting :
    ∃ repository, compile nestingGrammar 1000 = .ok repository ∧
      "a\n".toList.getLast? = some '\n' ∧ Session.Sound repository {} ∧
      let before := (repository.scan {} {} "a\n" none).1
      (repository.scan {} {} ("a\n" ++ "b\n") none).1.tokens ≠
        before.tokens ++
          (repository.scan {} {} "b\n" (some before.endState)).1.tokens.map
            (Token.shifted "a\n".utf8ByteSize) := by
  have hdepends := nesting_dependsOnPlaces
  cases hcompile : compile nestingGrammar 1000 with
  | error fault =>
    rw [hcompile] at hdepends
    cases hdepends
  | ok repository =>
    rw [hcompile] at hdepends
    simp only [dependsOnPlaces, scanNextLineWithin_eq, decide_eq_true_eq] at hdepends
    have hfirst : "a\n".toList.getLast? = some '\n' := by decide
    refine ⟨repository, rfl, hfirst, .new repository, ?_⟩
    intro before heq
    exact hdepends ((resume_iff repository {} hfirst (.new repository) (.new repository)
      (.new repository) none).1.mp heq)

end Repository

end ScopeScanner
