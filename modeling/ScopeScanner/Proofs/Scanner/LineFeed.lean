import ScopeScanner.Proofs.Scanner.Resumption
import ScopeScanner.Proofs.Scanner.Soundness

/-!
# A last line without a line feed

A last line that no line feed ends is matched as if it had one. So a text and the same text with the
line feed behind it are scanned by the same steps. The sinks differ: one is told that it may see the
line feed, the other is not.

* **`Sink.Clipped.produce`**: as long as a sink covers what both may see, it holds what the other one
  holds. The first call that goes beyond is the last one to change either sink, and what it leaves
  behind differs in the line feed alone.
* **`Repository.scan_line_feed`**: for a text that does not end a line, the remarks and the stack are
  those of the text with a line feed behind it, and so are the tokens, once they are clipped to the
  text.
-/

namespace ScopeScanner

/-! ## The lines of a text with a line feed behind it -/

/-- A character in front of a text begins its first line, or is a line of its own. -/
theorem Text.lines_cons (c : Char) (rest : List Char) (h : rest ≠ []) :
    lines (c :: rest) = if c = '\n' then [c] :: lines rest else
      (lines rest).modifyHead (c :: ·) := by
  rw [lines]
  split
  · rfl
  · cases hlines : lines rest with
    | nil =>
      have hflat := lines_flatten rest
      rw [hlines] at hflat
      exact absurd hflat.symm h
    | cons line more => rfl

/-- A line feed behind a text that does not end a line becomes part of its last line. -/
theorem Text.lines_concat {chars : List Char} (hne : chars ≠ [])
    (hlast : chars.getLast? ≠ some '\n') :
    ∃ before last, lines chars = before ++ [last] ∧
      lines (chars ++ ['\n']) = before ++ [last ++ ['\n']] ∧ last.getLast? ≠ some '\n' := by
  induction chars with
  | nil => exact absurd rfl hne
  | cons c rest ih =>
    by_cases hrest : rest = []
    · subst hrest
      have hc : c ≠ '\n' := by simpa using hlast
      refine ⟨[], [c], ?_, ?_, hlast⟩
      · simp [lines, hc]
      · simp [lines, hc]
    · have hsame : (c :: rest).getLast? = rest.getLast? := by
        rw [List.getLast?_cons, List.getLast?_eq_some_getLast hrest]
        rfl
      obtain ⟨before, last, hlines, hconcat, hend⟩ := ih hrest (hsame ▸ hlast)
      rw [List.cons_append, lines_cons c rest hrest, lines_cons c (rest ++ ['\n']) (by simp), hlines,
        hconcat]
      split
      · exact ⟨[c] :: before, last, rfl, rfl, hend⟩
      · cases before with
        | cons line before => exact ⟨(c :: line) :: before, last, rfl, rfl, hend⟩
        | nil =>
          -- the character begins the last line
          have hflat : last = rest := by
            rw [← lines_flatten rest, hlines]
            simp
          refine ⟨[], c :: last, rfl, rfl, ?_⟩
          rw [hflat, hsame, ← hflat]
          exact hend
/-- Both last lines are matched as the same line. -/
theorem terminated_concat {last : List Char} (h : last.getLast? ≠ some '\n') :
    terminated (last ++ ['\n']) = terminated last := by
  unfold terminated
  rw [if_pos List.getLast?_concat, if_neg h]

/-! ## Clipped tokens -/

namespace Token

/-- Tokens cut back to `limit`. A token that starts there or further on is dropped. -/
def clipped (limit : Nat) (tokens : List Token) : List Token :=
  (tokens.filter (·.start < limit)).map fun token =>
    { token with length := min token.length (limit - token.start) }

theorem clipped_append (limit : Nat) (first second : List Token) :
    clipped limit (first ++ second) = clipped limit first ++ clipped limit second := by
  simp [clipped]

theorem clipped_singleton {limit : Nat} {token : Token} (h : token.start < limit) :
    clipped limit [token] = [{ token with length := min token.length (limit - token.start) }] := by
  simp [clipped, h]

theorem clipped_singleton_of_le {limit : Nat} {token : Token} (h : limit ≤ token.start) :
    clipped limit [token] = [] := by
  simp [clipped, h]

/-- The token is not empty and ends at `limit` or before. -/
def EndsBy (limit : Nat) (token : Token) : Prop :=
  token.start < token.stop ∧ token.stop ≤ limit

theorem EndsBy.mono {limit limit' : Nat} {token : Token} (h : token.EndsBy limit)
    (hle : limit ≤ limit') : token.EndsBy limit' :=
  ⟨h.1, Nat.le_trans h.2 hle⟩

/-- Tokens that end by the limit are left as they are. -/
theorem clipped_of_endsBy {limit : Nat} {tokens : List Token}
    (h : ∀ token ∈ tokens, token.EndsBy limit) : clipped limit tokens = tokens := by
  induction tokens with
  | nil => rfl
  | cons token rest ih =>
    have ⟨hstart, hstop⟩ := h token List.mem_cons_self
    rw [Token.stop] at hstart hstop
    have hlength : min token.length (limit - token.start) = token.length := by omega
    have hrest := ih fun other hmem => h other (List.mem_cons_of_mem _ hmem)
    rw [← List.singleton_append, clipped_append, hrest, clipped_singleton (by omega), hlength]

end Token

open Token (clipped EndsBy)

/-! ## Sinks -/

namespace Sink

/-- The second sink may see one byte more of the present line than the first. Both have covered the
same. If that is no more than the first may see, they hold the same tokens. -/
structure Clipped (sink sink' : Sink) : Prop where
  merge : sink.merge = sink'.merge
  lineStart : sink.lineStart = sink'.lineStart
  earlier : sink.earlier = sink'.earlier
  position : sink.position = sink'.position
  visible : sink.visible + 1 = sink'.visible
  tokens :
    (sink.position ≤ sink.visible ∧ sink.tokens = sink'.tokens ∧
        ∀ token ∈ sink.tokens.toList, token.EndsBy (sink.lineStart + sink.position)) ∨
      (sink.visible < sink.position ∧
        sink.tokens.toList = clipped (sink.lineStart + sink.visible) sink'.tokens.toList)

/-- A token that ends where the sink has come to keeps all tokens within what is covered. -/
theorem add_endsBy {sink : Sink} {token : Token} {limit : Nat}
    (htokens : ∀ token ∈ sink.tokens.toList, token.EndsBy limit) (h : token.EndsBy limit) :
    ∀ other ∈ (sink.add token).tokens.toList, other.EndsBy limit := by
  refine forall_mem_add htokens h ?_
  -- a token that grows begins where it began and ends where the new one does
  intro last hlast hjoin
  simp only [EndsBy, Token.stop] at h hjoin hlast ⊢
  omega

/-- What two sinks with the same tokens add is the same up to the limit, if what one of them adds goes
up to the limit and what the other adds goes beyond. -/
theorem toList_add_clipped {sink sink' : Sink} (hmerge : sink.merge = sink'.merge)
    (hearlier : sink.earlier = sink'.earlier) (htokens : sink.tokens = sink'.tokens)
    {start length length' : Nat} {scopes : List String} (hlength : 0 < length)
    (hle : length ≤ length')
    (hends : ∀ token ∈ sink.tokens.toList, token.EndsBy (start + length)) :
    (sink.add ⟨start, length, scopes⟩).tokens.toList =
      clipped (start + length) (sink'.add ⟨start, length', scopes⟩).tokens.toList := by
  rcases List.eq_nil_or_concat sink.tokens.toList with hnil | ⟨before, last, hconcat⟩
  · have hsize : sink.tokens.size = 0 := by
      rw [← Array.length_toList, hnil]
      rfl
    rw [toList_add_of_no_current (by omega), toList_add_of_no_current (by rw [← htokens]; omega),
      ← htokens, hnil, List.nil_append, List.nil_append, Token.clipped_singleton (by simp; omega)]
    simp [hle]
  · rw [List.concat_eq_append] at hconcat
    rw [hconcat] at hends
    have hbefore : clipped (start + length) before = before :=
      Token.clipped_of_endsBy fun token hmem => hends token (List.mem_append_left _ hmem)
    have hlast : last.EndsBy (start + length) := hends last (by simp)
    -- whether the last token takes in more does not depend on how long that is
    have hjoins : sink.joins last ⟨start, length, scopes⟩ =
        sink'.joins last ⟨start, length', scopes⟩ := by
      unfold joins
      rw [hmerge, hearlier, htokens]
    rw [toList_add_of_concat hconcat, toList_add_of_concat (htokens ▸ hconcat), hjoins]
    split
    · next hjoin =>
      have hstop : last.stop = start := by
        simp only [joins, Bool.and_eq_true, decide_eq_true_eq] at hjoin
        exact hjoin.1.2
      simp only [EndsBy, Token.stop] at hlast hstop
      have hcut : min (last.length + length') (start + length - last.start) =
          last.length + length := by omega
      rw [Token.clipped_append, hbefore, Token.clipped_singleton (by dsimp only; omega)]
      dsimp only
      rw [hcut]
    · have hsame : clipped (start + length) [last] = [last] :=
        Token.clipped_of_endsBy fun token hmem => by rwa [List.mem_singleton.mp hmem]
      rw [Token.clipped_append, Token.clipped_append, hbefore, hsame,
        Token.clipped_singleton (by dsimp only; omega)]
      simp [hle]

/-- Nothing is left of what starts at the limit, be it a token of its own or the end of the last. -/
theorem clipped_toList_add {sink : Sink} {token : Token}
    (hends : ∀ other ∈ sink.tokens.toList, other.EndsBy token.start) :
    clipped token.start (sink.add token).tokens.toList = sink.tokens.toList := by
  have hsame := Token.clipped_of_endsBy hends
  rcases sink.toList_add token with hpush | ⟨before, last, hconcat, _, hjoin, hextend⟩
  · rw [hpush, Token.clipped_append, hsame, Token.clipped_singleton_of_le (Nat.le_refl _),
      List.append_nil]
  · rw [hconcat] at hends
    have hlast := hends last (by simp)
    have hbefore : clipped token.start before = before :=
      Token.clipped_of_endsBy fun other hmem => hends other (List.mem_append_left _ hmem)
    simp only [EndsBy, Token.stop] at hlast hjoin
    have hcut : min (last.length + token.length) (token.start - last.start) = last.length := by
      omega
    rw [hextend, hconcat, Token.clipped_append, hbefore,
      Token.clipped_singleton (by dsimp only; omega)]
    dsimp only
    rw [hcut]

namespace Clipped

variable {sink sink' : Sink}

/-- **One more call of both sinks leaves the first one clipped.** -/
theorem produce (h : Clipped sink sink') (stop : Nat) (scopes : List String) :
    Clipped (sink.produce stop scopes) (sink'.produce stop scopes) := by
  obtain ⟨merge, tokens, lineStart, visible, earlier, position⟩ := sink
  obtain ⟨merge', tokens', lineStart', visible', earlier', position'⟩ := sink'
  obtain ⟨rfl, rfl, rfl, rfl, rfl, htokens⟩ := h
  dsimp only at htokens
  unfold Sink.produce
  dsimp only
  split
  · exact ⟨rfl, rfl, rfl, rfl, rfl, htokens⟩
  · next hlt =>
    rcases htokens with ⟨hposition, rfl, hends⟩ | ⟨hposition, hclipped⟩
    · rw [Nat.min_eq_left hposition, Nat.min_eq_left (Nat.le_succ_of_le hposition)]
      rcases Nat.lt_or_ge visible stop with hbeyond | hwithin
      · -- the second sink covers its last byte, and the first one what is left before that
        have hgrows : ¬ visible + 1 ≤ position := by omega
        rw [Nat.min_eq_right (Nat.le_of_lt hbeyond), Nat.min_eq_right hbeyond, if_neg hgrows]
        split
        · obtain rfl : position = visible := by omega
          refine ⟨by simp, by simp, by simp, by simp, by simp, Or.inr ⟨hbeyond, ?_⟩⟩
          exact (@clipped_toList_add
            { merge, tokens, lineStart, visible := position + 1, earlier, position := stop }
            ⟨lineStart + position, position + 1 - position, scopes⟩ hends).symm
        · next hshort =>
          refine ⟨by simp, by simp, by simp, by simp, by simp, Or.inr ⟨by simpa using hbeyond, ?_⟩⟩
          have hlimit : lineStart + position + (visible - position) = lineStart + visible := by omega
          rw [add_lineStart, add_visible]
          dsimp only
          rw [← hlimit]
          apply toList_add_clipped
          · rfl
          · rfl
          · rfl
          · exact Nat.sub_pos_of_lt (Nat.lt_of_not_le hshort)
          · exact Nat.sub_le_sub_right (Nat.le_succ visible) position
          · exact fun token hmem => (hends token hmem).mono (Nat.le_add_right _ _)
      · -- both sinks add the same token
        rw [Nat.min_eq_left hwithin, Nat.min_eq_left (Nat.le_succ_of_le hwithin), if_neg hlt,
          if_neg hlt]
        refine ⟨by simp, by simp, by simp, by simp, by simp, Or.inl ⟨by simpa using hwithin, ?_, ?_⟩⟩
        · unfold add
          dsimp only
          repeat' split
          all_goals rfl
        · rw [add_lineStart, add_position]
          refine add_endsBy (fun token hmem => (hends token hmem).mono ?_) ?_
          · dsimp only
            omega
          · simp only [EndsBy, Token.stop]
            omega
    · -- both sinks have covered all they may see
      rw [if_pos (by omega), if_pos (by omega)]
      exact ⟨rfl, rfl, rfl, rfl, rfl, Or.inr ⟨by dsimp only; omega, hclipped⟩⟩

/-- Two sinks that begin the same line, which one of them sees the end of. -/
theorem beginLine (hmerge : sink.merge = sink'.merge) (htokens : sink.tokens = sink'.tokens)
    {lineStart : Nat} (hends : ∀ token ∈ sink.tokens.toList, token.EndsBy lineStart)
    (visible : Nat) :
    Clipped (sink.beginLine lineStart visible) (sink'.beginLine lineStart (visible + 1)) :=
  ⟨hmerge, rfl, by simp [Sink.beginLine, htokens], rfl, rfl, Or.inl ⟨Nat.zero_le _, htokens, hends⟩⟩

/-- At the end of the line the tokens of one sink are the other's, clipped. -/
theorem toList_eq (h : Clipped sink sink') (hend : sink.visible < sink.position) :
    sink.tokens.toList = clipped (sink.lineStart + sink.visible) sink'.tokens.toList := by
  rcases h.tokens with ⟨hle, _⟩ | ⟨_, htokens⟩
  · omega
  · exact htokens

end Clipped

end Sink

/-- Two emissions with remarks in common, the sink of the first one clipped. Both sessions are sound. -/
structure Emission.Clipped (repository : Repository) (emission emission' : Emission) : Prop where
  sink : Sink.Clipped emission.sink emission'.sink
  diagnostics : emission.diagnostics = emission'.diagnostics
  sound : emission.session.Sound repository
  sound' : emission'.session.Sound repository

theorem Emission.Clipped.coupling (repository : Repository) (offset : Nat) :
    Coupling repository (0 + offset) offset (Clipped repository) := by
  apply Coupling.of_sound
  · exact fun h => ⟨h.sound, h.sound'⟩
  · exact fun h _ _ hsound hsound' => ⟨h.sink, h.diagnostics, hsound, hsound'⟩
  · exact fun h stop scopes => ⟨h.sink.produce stop scopes, h.diagnostics, h.sound, h.sound'⟩
  · intro emission emission' h p length
    refine ⟨h.sink, ?_, h.sound, h.sound'⟩
    rw [remark, remark, h.diagnostics, Nat.zero_add]

/-! ## Whole buffers -/

namespace Repository

variable (repository : Repository) (stallLimit : Nat)

/-- Scans of the last line, of which the second one sees the line feed. -/
theorem scanNextLine_clipped {progress : ScanProgress} {last : List Char}
    (hlast : last.getLast? ≠ some '\n') (hsound : progress.emission.session.Sound repository)
    (hends : ∀ token ∈ progress.tokens, token.EndsBy progress.offset) :
    let next := repository.scanNextLine stallLimit progress last
    let next' := repository.scanNextLine stallLimit progress (last ++ ['\n'])
    next.stack = next'.stack ∧ next.emission.diagnostics = next'.emission.diagnostics ∧
      next.tokens = clipped (progress.offset + Line.byteCount last) next'.tokens := by
  have hsize : Line.byteCount (last ++ ['\n']) = Line.byteCount last + 1 := by
    rw [Line.byteCount_append]
    rfl
  have hstacks : ScopeStack.Coupling repository (Line.ofChars (terminated last))
      (0 + progress.offset) progress.offset Eq := by
    rw [Nat.zero_add]
    exact .eq repository _ _
  have hbegun : Emission.Clipped repository
      { progress.emission with
        sink := progress.emission.sink.beginLine progress.offset (Line.byteCount last) }
      { progress.emission with
        sink := progress.emission.sink.beginLine progress.offset (Line.byteCount last + 1) } :=
    ⟨.beginLine rfl rfl hends _, rfl, hsound, hsound⟩
  obtain ⟨hstack, hemission⟩ := scanLine_inStep stallLimit hstacks
    (Emission.Clipped.coupling repository progress.offset) maxReentry 0
    (if progress.stack.clearAnchors.top.beganAtLineEnd then some 0 else none)
    (Eq.refl progress.stack.clearAnchors) hbegun
  rw [Nat.zero_add] at hstack hemission
  have hnext : (repository.scanNextLine stallLimit progress last).stack =
        (repository.scanNextLine stallLimit progress (last ++ ['\n'])).stack ∧
      Emission.Clipped repository (repository.scanNextLine stallLimit progress last).emission
        (repository.scanNextLine stallLimit progress (last ++ ['\n'])).emission := by
    rw [scanNextLine, scanNextLine, terminated_concat hlast, hsize]
    exact ⟨hstack, hemission⟩
  -- the scan covers the line feed, so it goes beyond what the first sink may see
  obtain ⟨_, hcovered, hgrows⟩ := repository.scanNextLine_grows stallLimit progress last
  obtain ⟨hlineStart, hvisible⟩ := hgrows.sink_line
  have hbeyond : Line.byteCount last < (Line.ofChars (terminated last)).size := by
    rw [Line.size_eq_byteCount, Line.chars_ofChars, terminated, if_neg hlast, hsize]
    exact Nat.lt_succ_self _
  have htokens := hnext.2.sink.toList_eq
    (by rw [hvisible]; exact Nat.lt_of_lt_of_le hbeyond hcovered)
  rw [hlineStart, hvisible] at htokens
  exact ⟨hnext.1, hnext.2.diagnostics, htokens⟩

/-- Line after line the session stays sound. -/
theorem foldl_scanNextLine_sound (lines : List (List Char)) {progress : ScanProgress}
    (h : progress.emission.session.Sound repository) :
    (lines.foldl (repository.scanNextLine stallLimit) progress).emission.session.Sound
      repository := by
  induction lines generalizing progress with
  | nil => exact h
  | cons chars rest ih => exact ih (repository.scanNextLine_sound stallLimit h chars)

/-- Before the last line of a text all tokens end where that line starts at most. -/
theorem foldl_scanNextLine_endsBy (settings : ScannerSettings) (session : Session)
    (stack : ScopeStack) {text : List Char} {before : List (List Char)} {last : List Char}
    (hlines : Text.lines text = before ++ [last]) :
    let progress := before.foldl (repository.scanNextLine settings.stallLimit)
      (.begin settings session stack)
    progress.offset = Line.byteCount before.flatten ∧
      ∀ token ∈ progress.tokens, token.EndsBy progress.offset := by
  let start := ScanProgress.begin settings session stack
  have hnothing : Cut [] start.tokens := by
    refine ⟨rfl, ?_, ?_⟩
    · simp [start, ScanProgress.begin]
    · simp [start, ScanProgress.begin]
  have hcut : Cut before.flatten
      (before.foldl (repository.scanNextLine settings.stallLimit) start).tokens := by
    refine repository.foldl_scanNextLine_cut settings.stallLimit before start rfl hnothing ?_
    intro line hmem
    have hline : line ∈ Text.lines text := by
      rw [hlines]
      exact List.mem_append_left _ hmem
    exact fun _ _ => Text.eq_last_of_mem_lines hline
  obtain ⟨hoffset, _⟩ := repository.foldl_scanNextLine_frame settings.stallLimit before start
  have hstart : start.offset = 0 := rfl
  rw [hstart, Nat.zero_add] at hoffset
  refine ⟨hoffset, ?_⟩
  intro token hmem
  refine ⟨hcut.tiles.start_lt_stop hmem, ?_⟩
  rw [hoffset]
  exact (hcut.tiles.mem_bounds hmem).2

/-- **The line feed that a text lacks makes no difference but at its very end.** A text that does not
end a line has the remarks and the stack of the text with a line feed behind it, and its tokens, cut
back to the text. -/
theorem scan_line_feed (settings : ScannerSettings) {session session' : Session}
    (hsession : session.Sound repository) (hsession' : session'.Sound repository) {text : String}
    (hne : text ≠ "") (hlast : text.toList.getLast? ≠ some '\n') (state : Option ScopeStack) :
    let cut := (repository.scan settings session text state).1
    let whole := (repository.scan settings session' (text ++ "\n") state).1
    cut.diagnostics = whole.diagnostics ∧ cut.endState = whole.endState ∧
      cut.tokens = clipped text.utf8ByteSize whole.tokens := by
  obtain ⟨before, last, hlines, hconcat, hend⟩ :=
    Text.lines_concat (by rwa [ne_eq, String.toList_eq_nil_iff]) hlast
  have htext : before.flatten ++ last = text.toList := by
    rw [← Text.lines_flatten text.toList, hlines]
    simp
  have hfeed : (text ++ "\n").toList = text.toList ++ ['\n'] := by simp
  -- up to the last line both scans are one
  let start := ScanProgress.begin settings session (state.getD (.fresh repository))
  let progress := before.foldl (repository.scanNextLine settings.stallLimit) start
  obtain ⟨hoffset, hends⟩ := repository.foldl_scanNextLine_endsBy settings session
    (state.getD (.fresh repository)) hlines
  have hsound : progress.emission.session.Sound repository :=
    repository.foldl_scanNextLine_sound settings.stallLimit before hsession
  obtain ⟨hstack, hdiagnostics, htokens⟩ :=
    repository.scanNextLine_clipped settings.stallLimit hend hsound hends
  have hlimit : progress.offset + Line.byteCount last = text.utf8ByteSize := by
    rw [hoffset, ← Line.byteCount_append, htext, Line.byteCount_eq_utf8ByteSize,
      String.ofList_toList]
  rw [hlimit] at htokens
  dsimp only
  rw [repository.scan_of_sound settings hsession' hsession (text ++ "\n"), scan_eq, scan_eq, reached,
    reached, hfeed, hlines, hconcat, List.foldl_append, List.foldl_append]
  dsimp only [List.foldl_cons, List.foldl_nil]
  refine ⟨?_, hstack, htokens⟩
  rw [hdiagnostics, hstack]

/-- A `b` reaches over the end of its line. -/
def edgeGrammar : Grammar where
  scopeName := "source.t"
  patterns := [{ pattern := some "b\\s", name := some "edge" }]

theorem edgeGrammar_tokens :
    (match compile edgeGrammar 1000 with
      | .ok repository =>
        decide (((Text.lines "ab\n".toList).foldl (repository.scanNextLineWithin 32 8)
            (.begin {} {} (.fresh repository))).tokens =
          [⟨0, 1, ["source.t"]⟩, ⟨1, 2, ["source.t", "edge"]⟩])
      | .error _ => false) = true := by
  decide +kernel

/-- Without the line feed the last token is cut back to the `b`. -/
theorem scan_line_feed_edge :
    ∃ repository, compile edgeGrammar 1000 = .ok repository ∧ Session.Sound repository {} ∧
      "ab" ≠ "" ∧ "ab".toList.getLast? ≠ some '\n' ∧
      let cut := (repository.scan {} {} "ab" none).1
      let whole := (repository.scan {} {} ("ab" ++ "\n") none).1
      cut.diagnostics = whole.diagnostics ∧ cut.endState = whole.endState ∧
        whole.tokens = [⟨0, 1, ["source.t"]⟩, ⟨1, 2, ["source.t", "edge"]⟩] ∧
        cut.tokens = [⟨0, 1, ["source.t"]⟩, ⟨1, 1, ["source.t", "edge"]⟩] := by
  have hrun := edgeGrammar_tokens
  split at hrun
  · next repository hcompile =>
    have hsound := Session.Sound.new repository
    have hne : "ab" ≠ "" := by decide
    have hlast : "ab".toList.getLast? ≠ some '\n' := by decide
    have hwhole : (repository.scan {} {} ("ab" ++ "\n") none).1.tokens =
        [⟨0, 1, ["source.t"]⟩, ⟨1, 2, ["source.t", "edge"]⟩] := by
      rw [scanNextLineWithin_eq] at hrun
      exact of_decide_eq_true hrun
    obtain ⟨hdiagnostics, hstack, htokens⟩ := scan_line_feed repository {} hsound hsound hne hlast none
    refine ⟨repository, hcompile, hsound, hne, hlast, hdiagnostics, hstack, hwhole, ?_⟩
    rw [htokens, hwhole]
    decide
  · cases hrun

end Repository

end ScopeScanner
