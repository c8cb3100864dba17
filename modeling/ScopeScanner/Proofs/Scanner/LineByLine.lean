import ScopeScanner.Proofs.Scanner.Nesting
import ScopeScanner.Proofs.Scanner.Resumption

/-!
# Scanning line by line

An editor scans a text one line at a time: each line is the text of a call of its own, which goes on
from the stack that the call before it ended with (`Repository.scanParts`). If no rule that can begin
with an empty match leads to itself, nothing is lost by it:

* **`Repository.scan_eq_parts`**: the calls give out the tokens and the remarks on unmatched text of one
  scan, and they end with its stack but for the places where its regions began.

The stacks of the one scan and of the calls are `ScopeStack.Alike` from line to line.
-/

namespace ScopeScanner

/-- Whether a remark is about text that nothing matches. -/
def Diagnostic.isUnmatched : Diagnostic → Bool
  | unmatchedInput _ _ => true
  | unterminatedRegion _ _ _ => false

/-- The remarks on text that nothing matches. -/
def ScanOutput.unmatched (output : ScanOutput) : List Diagnostic :=
  output.diagnostics.filter Diagnostic.isUnmatched

/-- What the call for one line yields. -/
structure Part where
  /-- Where the line starts in the text. -/
  start : Nat
  output : ScanOutput

namespace Part

/-- The tokens of the line, placed in the text. -/
def tokens (part : Part) : List Token :=
  part.output.tokens.map (Token.shifted part.start)

/-- The remarks on unmatched text of the line, placed in the text. -/
def unmatched (part : Part) : List Diagnostic :=
  part.output.unmatched.map (Diagnostic.shifted part.start)

end Part

namespace Repository

variable (repository : Repository) (settings : ScannerSettings)

/-- Scans lines one call at a time. Each call goes on from the stack that the one before it ended
with. -/
def scanParts : (start : Nat) → Session → Option ScopeStack → List (List Char) → List Part
  | _, _, _, [] => []
  | start, session, state, line :: rest =>
    let text := String.ofList line
    let (output, session) := repository.scan settings session text state
    ⟨start, output⟩ ::
      scanParts (start + text.utf8ByteSize) session (some output.endState) rest

/-- The stack after the last of some calls, if the first one starts with `state`. -/
def endOfParts (state : Option ScopeStack) (parts : List Part) : ScopeStack :=
  (parts.getLast?.map fun part => part.output.endState).getD (state.getD (.fresh repository))

theorem endOfParts_cons (state : Option ScopeStack) (part : Part) (rest : List Part) :
    repository.endOfParts state (part :: rest) =
      repository.endOfParts (some part.output.endState) rest := by
  rw [endOfParts, endOfParts, List.getLast?_cons]
  cases rest.getLast? with
  | none => rfl
  | some last => rfl

/-! ## The remarks of a scan -/

/-- Until the end of the text only unmatched text is remarked on. -/
theorem isUnmatched_of_mem_foldl (lines : List (List Char)) (progress : ScanProgress)
    (h : ∀ diagnostic ∈ progress.emission.diagnostics.toList, diagnostic.isUnmatched = true) :
    ∀ diagnostic ∈ (lines.foldl (repository.scanNextLine settings.stallLimit)
        progress).emission.diagnostics.toList, diagnostic.isUnmatched = true := by
  induction lines generalizing progress with
  | nil => exact h
  | cons chars rest ih =>
    refine ih _ fun diagnostic hmem => ?_
    obtain ⟨_, _, hgrows⟩ := scanLine_grows repository settings.stallLimit progress.offset maxReentry
      (Line.ofChars (terminated chars)) 0
      (if progress.stack.clearAnchors.top.beganAtLineEnd then some 0 else none)
      progress.stack.clearAnchors
      { progress.emission with
        sink := progress.emission.sink.beginLine progress.offset (Line.byteCount chars) }
      (Line.zero_boundary _) (Nat.zero_le _)
    rcases hgrows.mem_diagnostics hmem with hold | ⟨_, _, _, _, _, _, _, rfl⟩
    · exact h diagnostic hold
    · rfl

/-- The remarks on unmatched text are those that a scan has made before it ends. -/
theorem scan_unmatched (session : Session) (text : String) (state : Option ScopeStack) :
    (repository.scan settings session text state).1.unmatched =
      (repository.reached settings session text
        (state.getD (.fresh repository))).emission.diagnostics.toList := by
  have hmade := repository.isUnmatched_of_mem_foldl settings (Text.lines text.toList)
    (.begin settings session (state.getD (.fresh repository))) (by simp [ScanProgress.begin])
  have hopen : ((repository.reached settings session text
      (state.getD (.fresh repository))).stack.regions.reverse.map repository.unterminated).filter
        Diagnostic.isUnmatched = [] := by
    simp [List.filter_map, Function.comp_def, unterminated, Diagnostic.isUnmatched]
  rw [scan_eq, ScanOutput.unmatched]
  dsimp only
  rw [List.filter_append, hopen, List.append_nil]
  exact List.filter_eq_self.mpr hmade

/-! ## One scan or one for each line -/

variable {repository}

/-- A line of the one scan and the call for it keep the stacks alike and give out the same. -/
theorem scanNextLine_part (hunnested : repository.Unnested) {session : Session}
    (hsession : session.Sound repository) {line : List Char} (hline : Text.lines line = [line])
    {progress : ScanProgress} {state : Option ScopeStack}
    (hmerge : progress.emission.sink.merge = settings.mergeTokens)
    (hsound : progress.emission.session.Sound repository)
    (hstack : ScopeStack.Alike repository progress.stack (state.getD (.fresh repository))) :
    let next := repository.scanNextLine settings.stallLimit progress line
    let part : Part :=
      ⟨progress.offset, (repository.scan settings session (String.ofList line) state).1⟩
    next.tokens = progress.tokens ++ part.tokens ∧
      next.emission.diagnostics.toList = progress.emission.diagnostics.toList ++ part.unmatched ∧
      next.emission.session.Sound repository ∧
      ScopeStack.Alike repository next.stack part.output.endState := by
  have hbegun : progress.Displaced repository progress.offset (ScopeStack.Alike repository)
      progress.tokens progress.emission.diagnostics.toList
      (.begin settings session (state.getD (.fresh repository))) :=
    ⟨rfl, hstack, hmerge, by simp [ScanProgress.begin], by simp [ScanProgress.begin], hsound,
      hsession⟩
  have hnext := repository.scanNextLine_displaced settings.stallLimit
    (.alike hunnested line progress.offset) (hline.trans (List.nil_append _).symm) rfl hbegun
  have hreached : repository.reached settings session (String.ofList line)
        (state.getD (.fresh repository)) =
      repository.scanNextLine settings.stallLimit
        (.begin settings session (state.getD (.fresh repository))) line := by
    rw [reached, String.toList_ofList, hline]
    rfl
  dsimp only
  rw [Part.tokens, Part.unmatched, scan_unmatched, scan_eq]
  dsimp only
  rw [hreached]
  exact ⟨hnext.tokens, hnext.diagnostics, hnext.sound, hnext.stack⟩

/-- The lines that are left, scanned in one go or in one call each. By induction on them: after each
line the stacks are alike again. -/
theorem foldl_parts (hunnested : repository.Unnested) {lines : List (List Char)}
    (hlines : ∀ line ∈ lines, Text.lines line = [line]) {session : Session}
    (hsession : session.Sound repository) (progress : ScanProgress) (state : Option ScopeStack)
    (hmerge : progress.emission.sink.merge = settings.mergeTokens)
    (hsound : progress.emission.session.Sound repository)
    (hstack : ScopeStack.Alike repository progress.stack (state.getD (.fresh repository))) :
    let finish := lines.foldl (repository.scanNextLine settings.stallLimit) progress
    let parts := repository.scanParts settings progress.offset session state lines
    finish.tokens = progress.tokens ++ parts.flatMap Part.tokens ∧
      finish.emission.diagnostics.toList =
        progress.emission.diagnostics.toList ++ parts.flatMap Part.unmatched ∧
      ScopeStack.Alike repository finish.stack (repository.endOfParts state parts) := by
  induction lines generalizing session progress state with
  | nil => exact ⟨by simp [scanParts], by simp [scanParts], hstack⟩
  | cons line rest ih =>
    obtain ⟨htokens, hremarks, hsound', hstack'⟩ := scanNextLine_part settings hunnested hsession
      (hlines line List.mem_cons_self) hmerge hsound hstack
    have hmerge' : (repository.scanNextLine settings.stallLimit progress line).emission.sink.merge =
        progress.emission.sink.merge :=
      (repository.foldl_scanNextLine_frame settings.stallLimit [line] progress).2
    have hplace : (repository.scanNextLine settings.stallLimit progress line).offset =
        progress.offset + (String.ofList line).utf8ByteSize := by
      rw [← Line.byteCount_eq_utf8ByteSize]
      rfl
    obtain ⟨hrest, hrestRemarks, hend⟩ := ih
      (fun other hmem => hlines other (List.mem_cons_of_mem _ hmem))
      (repository.scan_sound settings hsession (String.ofList line) state)
      (repository.scanNextLine settings.stallLimit progress line)
      (some (repository.scan settings session (String.ofList line) state).1.endState)
      (hmerge'.trans hmerge) hsound' hstack'
    rw [hplace] at hrest hrestRemarks hend
    dsimp only
    rw [scanParts]
    dsimp only
    rw [List.foldl_cons, List.flatMap_cons, List.flatMap_cons, endOfParts_cons, ← List.append_assoc,
      ← List.append_assoc, ← htokens, ← hremarks]
    exact ⟨hrest, hrestRemarks, hend⟩

/-- **Scanning line by line is scanning in one go.** If no rule that can begin with an empty match leads
to itself, the calls for the lines of a text give out the tokens and the remarks on unmatched text of
one scan, and the stack after the last call is that of the one scan but for places. -/
theorem scan_eq_parts (hunnested : repository.Unnested) {whole session : Session}
    (hwhole : whole.Sound repository) (hsession : session.Sound repository) (text : String) :
    let one := (repository.scan settings whole text none).1
    let parts := repository.scanParts settings 0 session none (Text.lines text.toList)
    one.tokens = parts.flatMap Part.tokens ∧
      one.unmatched = parts.flatMap Part.unmatched ∧
      one.endState.unplaced = (repository.endOfParts none parts).unplaced := by
  obtain ⟨htokens, hremarks, hend⟩ := foldl_parts settings hunnested
    (fun line hmem => Text.lines_of_mem_lines hmem) hsession
    (.begin settings whole (.fresh repository)) none rfl hwhole (.fresh repository)
  dsimp only
  rw [scan_unmatched, scan_eq]
  exact ⟨htokens, hremarks, hend.unplaced⟩

/-! ## A region over two lines -/

/-- Statements of letters. A statement begins, with empty text, before an `a`, and only letters
compete inside it. -/
def statementGrammar : Grammar where
  scopeName := "source.t"
  patterns := [{
    opening := some "(?=a)"
    closing := some ";"
    name := some "statement"
    patterns := [{ pattern := some "[a-c]", name := some "letter" }] }]

theorem statementGrammar_descends :
    (match compile statementGrammar 1000 with
      | .ok repository => repository.descends
      | .error _ => false) = true := by
  decide +kernel

/-- The statement begins in the first of two lines and ends in the second. -/
theorem scan_eq_parts_statement :
    ∃ repository, compile statementGrammar 1000 = .ok repository ∧ repository.Unnested ∧
      Session.Sound repository {} ∧
      let one := (repository.scan {} {} "ab\nc;\n" none).1
      let parts := repository.scanParts {} 0 {} none [['a', 'b', '\n'], ['c', ';', '\n']]
      parts.map Part.start = [0, 3] ∧
        one.tokens = parts.flatMap Part.tokens ∧
        one.unmatched = parts.flatMap Part.unmatched ∧
        one.endState.unplaced = (repository.endOfParts none parts).unplaced := by
  have hdescends := statementGrammar_descends
  cases hcompile : compile statementGrammar 1000 with
  | error fault =>
    rw [hcompile] at hdescends
    cases hdescends
  | ok repository =>
    rw [hcompile] at hdescends
    have hunnested := unnested_of_descends hdescends
    have hlines : Text.lines "ab\nc;\n".toList = [['a', 'b', '\n'], ['c', ';', '\n']] := by decide
    refine ⟨repository, rfl, hunnested, .new repository, rfl, ?_⟩
    rw [← hlines]
    exact scan_eq_parts {} hunnested (.new repository) (.new repository) "ab\nc;\n"

end Repository

end ScopeScanner
