import ScopeScanner.Proofs.Scanner.Coverage

/-!
# Tokens partition the text

Whatever the grammar, the settings, the session and the stack a scan starts with, its tokens cut the
text into pieces:

* **`Repository.scan_partition`**: the tokens follow one another from the start of the text to its
  end without gaps, none is empty, each begins and ends on a character boundary, and a line feed
  stands nowhere but at the end of a token.

The invariant is `Cut`, the same for the characters of the lines scanned so far. One line adds to it
what `scanLine_grows` says about the scan of the line (`Cut.scanNextLine`).
-/

namespace ScopeScanner

/-- The tokens cut the text into pieces, none of which crosses a line. -/
structure Partition (text : String) (tokens : List Token) : Prop where
  tiles : Tiles 0 tokens text.utf8ByteSize
  nil_iff : tokens = [] ↔ text = ""
  boundary : ∀ token ∈ tokens,
    String.Pos.Raw.IsValid text ⟨token.start⟩ ∧ String.Pos.Raw.IsValid text ⟨token.stop⟩
  line : ∀ token ∈ tokens, ∀ before after, text.toList = before ++ '\n' :: after →
    token.start ≤ Line.byteCount before → Line.byteCount before < token.stop →
      token.stop = Line.byteCount before + 1

/-- The tokens cut a row of characters into pieces. -/
structure Cut (chars : List Char) (tokens : List Token) : Prop where
  tiles : Tiles 0 tokens (Line.byteCount chars)
  stops : ∀ token ∈ tokens, token.stop ∈ boundaries 0 chars
  line : ∀ token ∈ tokens, ∀ before after, chars = before ++ '\n' :: after →
    token.start ≤ Line.byteCount before → Line.byteCount before < token.stop →
      token.stop = Line.byteCount before + 1

/-- Boundaries of what comes first, or of what is put behind it, are boundaries of the whole. -/
theorem mem_boundaries_append {start p : Nat} {first second : List Char} :
    p ∈ boundaries start first ∨ p ∈ boundaries (start + Line.byteCount first) second →
      p ∈ boundaries start (first ++ second) := by
  simp only [mem_boundaries_iff]
  rintro (⟨before, after, rfl, rfl⟩ | ⟨before, after, rfl, rfl⟩)
  · exact ⟨before, after ++ second, List.append_assoc _ _ _, rfl⟩
  · exact ⟨first ++ before, after, (List.append_assoc _ _ _).symm,
      by rw [Line.byteCount_append]; omega⟩

namespace Cut

variable {chars line : List Char} {tokens current : List Token}

/-- Tokens that tile one more line make the cut longer. -/
theorem append (h : Cut chars tokens)
    (hfeed : ∀ before after, line = before ++ '\n' :: after → after = [])
    (htiles : Tiles (Line.byteCount chars) current (Line.byteCount chars + Line.byteCount line))
    (hstops : ∀ token ∈ current, token.stop ∈ boundaries (Line.byteCount chars) line) :
    Cut (chars ++ line) (tokens ++ current) where
  tiles := by
    rw [Line.byteCount_append]
    exact h.tiles.append htiles
  stops := by
    intro token hmem
    apply mem_boundaries_append
    rw [Nat.zero_add]
    exact (List.mem_append.mp hmem).imp (h.stops token) (hstops token)
  line := by
    intro token hmem before after hchars hstart hstop
    rcases List.mem_append.mp hmem with hmem | hmem
    · -- the token ends within the first part, so the line feed stands there
      have hbound := (h.tiles.mem_bounds hmem).2
      rcases List.append_eq_append_iff.mp hchars with ⟨more, rfl, _⟩ | ⟨more, rfl, hmore⟩
      · rw [Line.byteCount_append] at hstop
        omega
      · cases more with
        | nil =>
          rw [List.append_nil] at hbound
          omega
        | cons c rest =>
          obtain ⟨rfl, _⟩ := List.cons.inj hmore
          exact h.line token hmem before rest rfl hstart hstop
    · -- the token lies in the line, where only the last character may be a line feed
      have hbounds := htiles.mem_bounds hmem
      have hline : ∃ more, before = chars ++ more ∧ line = more ++ '\n' :: after := by
        rcases List.append_eq_append_iff.mp hchars with ⟨more, hbefore, hmore⟩ | ⟨more, rfl, hmore⟩
        · exact ⟨more, hbefore, hmore⟩
        · rw [Line.byteCount_append] at hbounds
          obtain rfl : more = [] := Line.byteCount_eq_zero.mp (by omega)
          exact ⟨[], by simp, hmore.symm⟩
      obtain ⟨more, rfl, rfl⟩ := hline
      obtain rfl := hfeed more after rfl
      have hfeedSize : Line.byteCount ['\n'] = 1 := by decide
      rw [Line.byteCount_append, hfeedSize] at hbounds
      rw [Line.byteCount_append] at hstop ⊢
      omega

/-- A cut of the characters of a text is a partition of the text. -/
theorem partition {text : String} (h : Cut text.toList tokens) : Partition text tokens where
  tiles := by
    have htiles := h.tiles
    rw [Line.byteCount_eq_utf8ByteSize, String.ofList_toList] at htiles
    exact htiles
  nil_iff := by
    rw [h.tiles.nil_iff, eq_comm, Line.byteCount_eq_zero, String.toList_eq_nil_iff]
  boundary := by
    have hzero : 0 ∈ boundaries 0 text.toList :=
      mem_boundaries_iff.mpr ⟨[], text.toList, rfl, rfl⟩
    have hstarts := h.tiles.start_of_stops hzero h.stops
    intro token hmem
    exact ⟨isValid_of_mem_boundaries (hstarts token hmem),
      isValid_of_mem_boundaries (h.stops token hmem)⟩
  line := h.line

end Cut

/-- The boundaries of a line as it is matched are boundaries of what the buffer holds of it. -/
theorem visible_boundary {chars : List Char} {stop : Nat}
    (h : (Line.ofChars (terminated chars)).Boundary stop) (start : Nat) :
    start + min stop (Line.byteCount chars) ∈ boundaries start chars := by
  have hwhole : start + Line.byteCount chars ∈ boundaries start chars :=
    mem_boundaries_iff.mpr ⟨chars, [], by simp, rfl⟩
  rw [Line.Boundary, Line.chars_ofChars, mem_boundaries_iff] at h
  obtain ⟨before, after, hchars, rfl⟩ := h
  have hinside {rest : List Char} (heq : chars = before ++ rest) :
      start + min (0 + Line.byteCount before) (Line.byteCount chars) ∈ boundaries start chars := by
    refine mem_boundaries_iff.mpr ⟨before, rest, heq, ?_⟩
    rw [heq, Line.byteCount_append]
    omega
  rw [terminated] at hchars
  split at hchars
  · exact hinside hchars
  · rcases List.append_eq_append_iff.mp hchars with ⟨more, rfl, _⟩ | ⟨more, hbefore, _⟩
    · rw [Line.byteCount_append, Nat.min_eq_right (by omega)]
      exact hwhole
    · exact hinside hbefore

/-- A line as it is matched is at least as long as what the buffer holds of it. -/
theorem visible_le_size (chars : List Char) :
    Line.byteCount chars ≤ (Line.ofChars (terminated chars)).size := by
  rw [Line.size_eq_byteCount, Line.chars_ofChars, terminated]
  split
  · exact Nat.le_refl _
  · rw [Line.byteCount_append]
    omega

/-- The tokens that a scan between two lines has collected. -/
abbrev ScanProgress.tokens (progress : ScanProgress) : List Token :=
  progress.emission.sink.tokens.toList

namespace Repository

variable (repository : Repository) (stallLimit : Nat)

/-- Scanning a line that has just begun adds tokens that tile the visible part of it. -/
theorem scanLine_tokens (offset levels : Nat) (line : List Char) (anchor : Option Nat)
    (stack : ScopeStack) (emission : Emission) {earlier : List Token}
    (hlineStart : emission.sink.lineStart = offset)
    (hvisible : emission.sink.visible = Line.byteCount line)
    (htiled : emission.sink.Tiled (· ∈ boundaries offset line) earlier) :
    ∃ current,
      (scanLine repository stallLimit offset levels (Line.ofChars (terminated line)) 0 anchor stack
          emission).2.sink.tokens.toList = earlier ++ current ∧
        Tiles offset current (offset + Line.byteCount line) ∧
        ∀ token ∈ current, token.stop ∈ boundaries offset line := by
  obtain ⟨_, hsize, hgrows⟩ := scanLine_grows repository stallLimit offset levels
    (Line.ofChars (terminated line)) 0 anchor stack emission (Line.zero_boundary _) (Nat.zero_le _)
  obtain ⟨hstays, hkeeps⟩ := hgrows.sink_line
  have hedge : ∀ stop scopes,
      (Line.ofChars (terminated line)).Boundary stop ∧ stack.bottom.nameScopes <+: scopes →
        emission.sink.lineStart + min stop emission.sink.visible ∈ boundaries offset line := by
    rintro stop scopes ⟨hstop, _⟩
    rw [hlineStart, hvisible]
    exact visible_boundary hstop offset
  obtain ⟨_, current, htokens, htiles, hstops⟩ := hgrows.tiled htiled hedge
  rw [hstays, hkeeps, hlineStart, hvisible,
    Nat.min_eq_right (Nat.le_trans (visible_le_size line) hsize)] at htiles
  exact ⟨current, htokens, htiles, hstops⟩

/-- The next line of a buffer adds tokens that tile it. -/
theorem scanNextLine_tokens (progress : ScanProgress) (line : List Char) :
    ∃ current, (repository.scanNextLine stallLimit progress line).tokens = progress.tokens ++ current ∧
      Tiles progress.offset current (progress.offset + Line.byteCount line) ∧
      ∀ token ∈ current, token.stop ∈ boundaries progress.offset line :=
  repository.scanLine_tokens stallLimit progress.offset maxReentry line
    (if progress.stack.clearAnchors.top.beganAtLineEnd then some 0 else none)
    progress.stack.clearAnchors
    { progress.emission with
      sink := progress.emission.sink.beginLine progress.offset (Line.byteCount line) }
    rfl rfl (Sink.Tiled.beginLine _ _)

/-- One more line makes the cut longer by that line. -/
theorem scanNextLine_cut {chars line : List Char} {progress : ScanProgress}
    (hoffset : progress.offset = Line.byteCount chars) (h : Cut chars progress.tokens)
    (hfeed : ∀ before after, line = before ++ '\n' :: after → after = []) :
    (repository.scanNextLine stallLimit progress line).offset = Line.byteCount (chars ++ line) ∧
      Cut (chars ++ line) (repository.scanNextLine stallLimit progress line).tokens := by
  refine ⟨by rw [Line.byteCount_append, ← hoffset]; rfl, ?_⟩
  obtain ⟨current, htokens, htiles, hstops⟩ := repository.scanNextLine_tokens stallLimit progress line
  rw [htokens]
  rw [hoffset] at htiles hstops
  exact h.append hfeed htiles hstops

/-- The lines of a text one after the other are cut into pieces. -/
theorem foldl_scanNextLine_cut (lines : List (List Char)) (progress : ScanProgress)
    {chars : List Char} (hoffset : progress.offset = Line.byteCount chars)
    (h : Cut chars progress.tokens)
    (hfeed : ∀ line ∈ lines, ∀ before after, line = before ++ '\n' :: after → after = []) :
    Cut (chars ++ lines.flatten) (lines.foldl (repository.scanNextLine stallLimit) progress).tokens := by
  induction lines generalizing chars progress with
  | nil => simpa using h
  | cons line rest ih =>
    obtain ⟨hnext, hcut⟩ := repository.scanNextLine_cut stallLimit hoffset h
      (hfeed line List.mem_cons_self)
    rw [List.flatten_cons, ← List.append_assoc, List.foldl_cons]
    exact ih _ hnext hcut fun line hmem => hfeed line (List.mem_cons_of_mem _ hmem)

/-- **The tokens of a scan partition the text.** This holds for every repository, all settings, every
session and every stack to start with. -/
theorem scan_partition (settings : ScannerSettings) (session : Session) (text : String)
    (state : Option ScopeStack) :
    Partition text (repository.scan settings session text state).1.tokens := by
  apply Cut.partition
  rw [scan]
  dsimp only
  have hnothing : Cut [] [] := ⟨rfl, by simp, by simp⟩
  have hcut := repository.foldl_scanNextLine_cut settings.stallLimit (Text.lines text.toList)
    { stack := state.getD (.fresh repository)
      emission := { sink := { merge := settings.mergeTokens }, session } }
    rfl hnothing (fun line hmem before after => Text.eq_last_of_mem_lines hmem)
  rw [Text.lines_flatten, List.nil_append] at hcut
  exact hcut

end Repository

end ScopeScanner
