import Mathlib.Algebra.GroupWithZero.Nat
import Mathlib.Data.List.SplitBy
import ScopeScanner.Proofs.Scanner.Displacement

/-!
# Merged tokens

A sink that merges does so token by token, while the line is being covered. What comes out in the end
can be said of the tokens of a sink that does not merge: each longest run of neighbouring tokens that
stand on one line and have equal scopes becomes one token.

* **`Sink.Merged.produce`**: one more call of both sinks keeps the present line of the one merged from
  that of the other, so whole lines stay in step (`Emission.Merged.coupling`).
* **`Repository.scan_merged`**: a scan that merges differs from one that does not in its tokens only,
  and those are the joined runs.

Runs are those of `List.splitBy`. On one line they depend on the scopes alone (`splitBy_of_line`), and
no run goes on from one line to the next, since each line but the last ends with a line feed.
-/

namespace ScopeScanner

/-! ## Positions and lines -/

namespace Text

/-- The line that a position of a text stands on: how many line feeds have ended by then. -/
def lineAt : List Char → (position : Nat) → Nat
  | [], _ => 0
  | c :: rest, position =>
    if position < c.utf8Size then 0
    else (if c = '\n' then 1 else 0) + lineAt rest (position - c.utf8Size)

/-- Behind a part of a text the line feeds of that part have ended. -/
theorem lineAt_append (first second : List Char) (position : Nat) :
    lineAt (first ++ second) (Line.byteCount first + position) =
      first.count '\n' + lineAt second position := by
  induction first with
  | nil => simp [Line.byteCount_nil]
  | cons c rest ih =>
    have hrest : Line.byteCount (c :: rest) + position - c.utf8Size =
        Line.byteCount rest + position := by
      rw [Line.byteCount_cons]
      omega
    rw [List.cons_append, lineAt, if_neg (by rw [Line.byteCount_cons]; omega), hrest, ih,
      List.count_cons, Nat.add_assoc, ← Nat.add_assoc, Nat.add_comm (if c = '\n' then 1 else 0)]
    by_cases hc : c = '\n'
    · simp [hc, Nat.add_assoc]
    · simp [hc]

/-- A line that begins a text holds its own positions, and no line feed has ended there. -/
theorem lineAt_of_lt {line : List Char} (rest : List Char) {position : Nat}
    (hfeed : ∀ before after, line = before ++ '\n' :: after → after = [])
    (h : position < Line.byteCount line) : lineAt (line ++ rest) position = 0 := by
  induction line generalizing position with
  | nil => simp [Line.byteCount_nil] at h
  | cons c more ih =>
    rw [List.cons_append, lineAt]
    split
    · rfl
    · next hge =>
      rw [Line.byteCount_cons] at h
      -- the position lies behind this character, so the line goes on and the character is no feed
      have hc : c ≠ '\n' := by
        rintro rfl
        obtain rfl := hfeed [] more rfl
        rw [Line.byteCount_nil] at h
        omega
      rw [if_neg hc, ih (fun before after hmore => hfeed (c :: before) after (by simp [hmore]))
        (by omega)]

/-- Before the end of a part that ends a line, not all of its line feeds have ended. -/
theorem lineAt_lt {first : List Char} (second : List Char) {position : Nat}
    (hlast : first.getLast? = some '\n') (h : position < Line.byteCount first) :
    lineAt (first ++ second) position < first.count '\n' := by
  induction first generalizing position with
  | nil => cases hlast
  | cons c rest ih =>
    rw [List.cons_append, lineAt]
    split
    · exact List.count_pos_iff.mpr (List.mem_of_getLast? hlast)
    · next hge =>
      rw [Line.byteCount_cons] at h
      have hne : rest ≠ [] := by
        rintro rfl
        rw [Line.byteCount_nil] at h
        omega
      have hrest : rest.getLast? = some '\n' := by
        obtain ⟨d, more, rfl⟩ := List.exists_cons_of_ne_nil hne
        simpa using hlast
      have hlt := ih hrest (show position - c.utf8Size < Line.byteCount rest by omega)
      rw [List.count_cons]
      by_cases hc : c = '\n'
      · simp only [hc, if_true, beq_self_eq_true] at hlt ⊢
        omega
      · simpa [hc] using hlt

/-- A line with another line behind it ends with a line feed. -/
theorem getLast?_of_lines {chars : List Char} {before after : List (List Char)} {line : List Char}
    (h : lines chars = before ++ line :: after) (hafter : after ≠ []) :
    line.getLast? = some '\n' := by
  induction chars generalizing before line after with
  | nil => simp [lines] at h
  | cons c rest ih =>
    rw [lines] at h
    split at h
    · next hc =>
      cases before with
      | nil =>
        obtain ⟨rfl, _⟩ := List.cons.inj h
        simp [hc]
      | cons first before => exact ih (List.cons.inj h).2 hafter
    · split at h
      · -- a text of one line has none behind it
        cases before with
        | nil => exact absurd (List.cons.inj h).2.symm hafter
        | cons first before => simp at h
      · next first more hcons =>
        cases before with
        | nil =>
          obtain ⟨rfl, rfl⟩ := List.cons.inj h
          have hfirst := ih (hcons.trans (List.nil_append _).symm) hafter
          have hne : first ≠ [] := by
            rintro rfl
            cases hfirst
          obtain ⟨d, others, rfl⟩ := List.exists_cons_of_ne_nil hne
          simpa using hfirst
        | cons other before =>
          have hrest : lines rest = (first :: before) ++ line :: after := by
            rw [hcons, (List.cons.inj h).2]
            rfl
          exact ih hrest hafter

section Lines

variable {text line : List Char} {before after : List (List Char)} {position : Nat}

theorem eq_append_of_lines (h : lines text = before ++ line :: after) :
    text = before.flatten ++ (line ++ after.flatten) := by
  rw [← lines_flatten text, h]
  simp

/-- A position on a line: the line feeds in front of the line have ended, and no others. -/
theorem lineAt_of_lines (h : lines text = before ++ line :: after)
    (hstart : Line.byteCount before.flatten ≤ position)
    (hstop : position < Line.byteCount before.flatten + Line.byteCount line) :
    lineAt text position = before.flatten.count '\n' := by
  have hfeed : ∀ first second, line = first ++ '\n' :: second → second = [] := fun _ _ =>
    eq_last_of_mem_lines (by rw [h]; simp)
  obtain ⟨place, rfl⟩ := Nat.exists_eq_add_of_le hstart
  rw [eq_append_of_lines h, lineAt_append, lineAt_of_lt _ hfeed (by omega), Nat.add_zero]

/-- A position in front of a line stands on an earlier line. -/
theorem lineAt_lt_of_lines (h : lines text = before ++ line :: after)
    (hstop : position < Line.byteCount before.flatten) :
    lineAt text position < before.flatten.count '\n' := by
  rw [eq_append_of_lines h]
  apply lineAt_lt _ ?_ hstop
  rcases List.eq_nil_or_concat before with rfl | ⟨init, last, rfl⟩
  · simp [Line.byteCount_nil] at hstop
  · rw [List.concat_eq_append, List.append_assoc] at h
    have hlast := getLast?_of_lines h (by simp)
    simp [List.getLast?_append, hlast]

end Lines

end Text

/-! ## Runs of tokens -/

namespace Token

/-- The token that covers what the tokens of a run cover, with the scopes of the first. -/
def joined (run : List Token) : Token where
  start := (run.headD default).start
  length := (run.map Token.length).sum
  scopes := (run.headD default).scopes

/-- Whether two tokens have equal scopes. -/
def sameScopes (first second : Token) : Bool :=
  first.scopes = second.scopes

/-- Whether two neighbouring tokens of a text belong together: they stand on one line and have equal
scopes. -/
def belongs (text : List Char) (first second : Token) : Bool :=
  Text.lineAt text first.start = Text.lineAt text second.start && first.sameScopes second

/-- The longest runs of tokens that belong together, each as one token. -/
def mergedBy (belong : Token → Token → Bool) (tokens : List Token) : List Token :=
  (tokens.splitBy belong).map joined

end Token

open Token (joined mergedBy sameScopes belongs)

/-- A run that goes on when one more element is put behind it. -/
theorem splitBy_concat {α : Type} {related : α → α → Bool} {elements run : List α}
    {runs : List (List α)} (h : elements.splitBy related = runs ++ [run]) {next : α}
    (hnext : ∀ last ∈ run.getLast?, related last next = true) :
    (elements ++ [next]).splitBy related = runs ++ [run ++ [next]] := by
  obtain ⟨hflat, hnil, hchain, hedges⟩ := List.splitBy_eq_iff.mp h
  rw [List.splitBy_eq_iff]
  refine ⟨by simp [hflat], ?_, ?_, ?_⟩
  · simp only [List.mem_append, List.mem_singleton, not_or] at hnil ⊢
    exact ⟨hnil.1, by simp⟩
  · intro other hmem
    rcases List.mem_append.mp hmem with hmem | hmem
    · exact hchain other (List.mem_append_left _ hmem)
    · rw [List.mem_singleton.mp hmem]
      refine List.IsChain.append (hchain run (by simp)) (by simp) ?_
      intro last hlast first hfirst
      obtain rfl : next = first := by simpa using hfirst
      exact hnext last hlast
  · -- the run begins where it began before, so the edge in front of it is the same
    rw [List.isChain_append] at hedges ⊢
    refine ⟨hedges.1, by simp, ?_⟩
    intro last hlast other hother
    obtain rfl : run ++ [next] = other := by simpa using hother
    obtain ⟨hne, hrun, hedge⟩ := hedges.2.2 last hlast run (by simp)
    exact ⟨hne, by simp, by rwa [List.head_append_of_ne_nil hrun]⟩

/-- In a row of tokens on one line, those belong together whose scopes are equal. -/
theorem splitBy_of_line {text : List Char} {tokens : List Token} {number : Nat}
    (h : ∀ token ∈ tokens, Text.lineAt text token.start = number) :
    tokens.splitBy (belongs text) = tokens.splitBy sameScopes := by
  have hsame (first second : Token) (hfirst : first ∈ tokens) (hsecond : second ∈ tokens) :
      belongs text first second = sameScopes first second := by
    rw [belongs, h first hfirst, h second hsecond]
    simp
  have hmem (run : List Token) (hrun : run ∈ tokens.splitBy sameScopes) (token : Token)
      (ht : token ∈ run) : token ∈ tokens := by
    rw [← List.flatten_splitBy sameScopes tokens]
    exact List.mem_flatten_of_mem hrun ht
  rw [List.splitBy_eq_iff]
  refine ⟨(List.flatten_splitBy _ _).symm, List.nil_notMem_splitBy _ _, ?_, ?_⟩
  · intro run hrun
    refine (List.isChain_of_mem_splitBy hrun).imp_of_mem_imp ?_
    intro first second hfirst hsecond hscopes
    rwa [hsame first second (hmem run hrun first hfirst) (hmem run hrun second hsecond)]
  · refine (List.isChain_getLast_head_splitBy sameScopes tokens).imp_of_mem_imp ?_
    rintro run next hrun hnext ⟨hne, hne', hedge⟩
    exact ⟨hne, hne', by
      rwa [hsame _ _ (hmem run hrun _ (List.getLast_mem hne)) (hmem next hnext _ (List.head_mem hne'))]⟩

/-- A run that tiles a stretch is joined to a token that covers the stretch. -/
theorem Tiles.joined {start stop : Nat} {run : List Token} (hne : run ≠ [])
    (h : Tiles start run stop) : (joined run).start = start ∧ (joined run).stop = stop := by
  have hsum : start + (run.map Token.length).sum = stop := by
    clear hne
    induction run generalizing start with
    | nil => simpa [Tiles] using h
    | cons token rest ih =>
      obtain ⟨hstart, _, hrest⟩ := h
      rw [List.map_cons, List.sum_cons, ← ih hrest, Token.stop]
      omega
  obtain ⟨token, rest, rfl⟩ := List.exists_cons_of_ne_nil hne
  have hfirst : (Token.joined (token :: rest)).start = start := h.1
  exact ⟨hfirst, by rw [Token.stop, hfirst]; exact hsum⟩

/-- What all neighbours of a run agree in, its first and its last token agree in. -/
theorem headD_of_run {β : Type} (property : Token → β) {run : List Token} {last : Token}
    (hrun : run.IsChain fun first second => property first = property second)
    (hlast : last ∈ run.getLast?) : property (run.headD default) = property last := by
  induction run with
  | nil => cases hlast
  | cons token rest ih =>
    cases rest with
    | nil =>
      obtain rfl : token = last := by simpa using hlast
      rfl
    | cons next rest =>
      obtain ⟨hsame, hrest⟩ := List.isChain_cons_cons.mp hrun
      exact hsame.trans (ih hrest (by simpa using hlast))

/-- A token with the scopes of the last run becomes a part of it. -/
theorem mergedBy_concat_of_same {tokens run : List Token} {runs : List (List Token)} {token : Token}
    (hruns : tokens.splitBy sameScopes = runs ++ [run])
    (hsame : ∀ last ∈ run.getLast?, sameScopes last token = true) (hne : run ≠ []) :
    mergedBy sameScopes (tokens ++ [token]) = runs.map joined ++
      [{ joined run with length := (joined run).length + token.length }] := by
  rw [mergedBy, splitBy_concat hruns hsame, List.map_append]
  congr 2
  obtain ⟨first, rest, rfl⟩ := List.exists_cons_of_ne_nil hne
  simp [joined, Nat.add_assoc]

/-- A token with other scopes than the last one is a run of its own. -/
theorem mergedBy_concat_of_other {tokens : List Token} {token : Token}
    (h : ∀ last ∈ tokens.getLast?, sameScopes last token = false) :
    mergedBy sameScopes (tokens ++ [token]) = mergedBy sameScopes tokens ++ [token] := by
  rw [mergedBy, List.splitBy_append_cons [] h, List.map_append, ← mergedBy]
  simp [List.splitBy, List.splitBy.loop, joined]

/-- **Neighbours among the merged tokens of a text do not belong together.** -/
theorem isChain_mergedBy (text : List Char) (tokens : List Token) :
    (mergedBy (belongs text) tokens).IsChain fun first second =>
      belongs text first second = false := by
  rw [mergedBy, List.isChain_map]
  refine (List.isChain_getLast_head_splitBy (belongs text) tokens).imp_of_mem_imp ?_
  rintro run next hrun _ ⟨hne, hne', hedge⟩
  have hchain := List.isChain_of_mem_splitBy hrun
  simp only [belongs, sameScopes, Bool.and_eq_true, decide_eq_true_eq] at hchain
  have hlast := List.getLast?_eq_some_getLast hne
  have hplace := headD_of_run (fun token => Text.lineAt text token.start)
    (hchain.imp fun _ _ h => h.1) hlast
  have hscopes := headD_of_run Token.scopes (hchain.imp fun _ _ h => h.2) hlast
  -- a joined token has the place and the scopes of its first part, and so those of its last
  have hhead : next.headD default = next.head hne' := by
    obtain ⟨first, rest, rfl⟩ := List.exists_cons_of_ne_nil hne'
    rfl
  simp only [belongs, sameScopes, joined, hplace, hscopes, hhead] at hedge ⊢
  exact hedge

/-- Two letters on one line and one on the next: only the first two are joined. -/
example :
    mergedBy (belongs ['a', 'b', '\n', 'a'])
        [⟨0, 1, ["source.t", "letter"]⟩, ⟨1, 1, ["source.t", "letter"]⟩, ⟨2, 1, ["source.t"]⟩,
          ⟨3, 1, ["source.t", "letter"]⟩] =
      [⟨0, 2, ["source.t", "letter"]⟩, ⟨2, 1, ["source.t"]⟩, ⟨3, 1, ["source.t", "letter"]⟩] := by
  decide

/-! ## Sinks -/

namespace Sink

theorem toList_add_of_plain {sink : Sink} (h : sink.merge = false) (token : Token) :
    (sink.add token).tokens.toList = sink.tokens.toList ++ [token] := by
  rw [add]
  split
  · simp [h]
  · simp

/-- Both sinks have covered the same, behind the tokens of earlier lines. Of the tokens of the present
line the first sink holds the runs that the second one's form. -/
structure Merged (earlier earlier' : List Token) (sink sink' : Sink) : Prop where
  merges : sink.merge = true
  plain : sink'.merge = false
  lineStart : sink.lineStart = sink'.lineStart
  visible : sink.visible = sink'.visible
  position : sink.position = sink'.position
  count : sink.earlier = earlier.length
  count' : sink'.earlier = earlier'.length
  tokens : ∃ current, sink.tokens.toList = earlier ++ mergedBy sameScopes current ∧
    sink'.tokens.toList = earlier' ++ current ∧
    Tiles sink'.lineStart current (sink'.lineStart + min sink'.position sink'.visible)

namespace Merged

variable {earlier earlier' current : List Token} {sink sink' : Sink} {token : Token}

/-- A token that starts where the tokens of the line end joins their last run, or begins a run. -/
theorem toList_add (hmerges : sink.merge = true) (hcount : sink.earlier = earlier.length)
    (htokens : sink.tokens.toList = earlier ++ mergedBy sameScopes current) {start : Nat}
    (htiles : Tiles start current token.start) :
    (sink.add token).tokens.toList = earlier ++ mergedBy sameScopes (current ++ [token]) := by
  have hsize := congrArg List.length htokens
  rw [Array.length_toList, List.length_append] at hsize
  rcases List.eq_nil_or_concat (current.splitBy sameScopes) with hnil | ⟨runs, run, hruns⟩
  · -- the line has no tokens yet
    obtain rfl := List.splitBy_eq_nil.mp hnil
    have hnone : ¬ sink.earlier < sink.tokens.size := by
      simp only [mergedBy, List.splitBy_nil, List.map_nil, List.length_nil] at hsize
      omega
    rw [toList_add_of_no_current hnone, htokens]
    simp [mergedBy, List.splitBy, List.splitBy.loop, joined]
  · rw [List.concat_eq_append] at hruns
    have hmem : run ∈ current.splitBy sameScopes := by simp [hruns]
    have hne := List.ne_nil_of_mem_splitBy hmem
    have hflat : current = runs.flatten ++ run := by
      have := List.flatten_splitBy sameScopes current
      simpa [hruns] using this.symm
    -- the joined run covers the last part of the line, so the token starts where it ends
    obtain ⟨middle, _, hrun⟩ := (hflat ▸ htiles).of_append
    have hstop := (Tiles.joined hne hrun).2
    have hscopes : (joined run).scopes = (run.getLast hne).scopes :=
      headD_of_run Token.scopes
        ((List.isChain_of_mem_splitBy hmem).imp fun _ _ hsame => of_decide_eq_true hsame)
        (List.getLast?_eq_some_getLast hne)
    have hconcat : sink.tokens.toList = (earlier ++ runs.map joined) ++ [joined run] := by
      rw [htokens, mergedBy, hruns, List.map_append, List.append_assoc]
      rfl
    have hlt : sink.earlier < sink.tokens.size := by
      rw [hsize, mergedBy, hruns, List.map_append, List.length_append]
      simp only [List.map_cons, List.map_nil, List.length_singleton]
      omega
    have hjoins : sink.joins (joined run) token = sameScopes (run.getLast hne) token := by
      simp [joins, hmerges, hlt, hstop, hscopes, sameScopes]
    rw [toList_add_of_concat hconcat, hjoins]
    split
    · next hsame =>
      have hlast : ∀ last ∈ run.getLast?, sameScopes last token = true := by
        intro last hlast
        rw [List.getLast?_eq_some_getLast hne] at hlast
        obtain rfl := Option.some.inj hlast
        exact hsame
      rw [mergedBy_concat_of_same hruns hlast hne, List.append_assoc]
    · next hother =>
      have hlast : ∀ last ∈ current.getLast?, sameScopes last token = false := by
        intro last hlast
        rw [hflat, List.getLast?_append_of_ne_nil _ hne, List.getLast?_eq_some_getLast hne] at hlast
        obtain rfl := Option.some.inj hlast
        exact Bool.eq_false_iff.mpr hother
      rw [mergedBy_concat_of_other hlast, mergedBy, hruns]
      simp

/-- **Covering the line further keeps the first sink merged from the second.** -/
theorem produce (h : Merged earlier earlier' sink sink') (stop : Nat) (scopes : List String) :
    Merged earlier earlier' (sink.produce stop scopes) (sink'.produce stop scopes) := by
  obtain ⟨merge, tokens, lineStart, visible, count, position⟩ := sink
  obtain ⟨rfl, hplain, rfl, rfl, rfl, hcount, hcount', current, htokens, htokens', htiles⟩ := h
  rw [Sink.produce, Sink.produce]
  dsimp only
  split
  · exact ⟨rfl, hplain, rfl, rfl, rfl, hcount, hcount', current, htokens, htokens', htiles⟩
  · next hlt =>
    split
    · -- nothing visible is covered, and the position moves on
      next hle =>
      refine ⟨rfl, hplain, rfl, rfl, rfl, hcount, hcount', current, htokens, htokens', ?_⟩
      have hsame : min stop sink'.visible = min sink'.position sink'.visible := by omega
      rw [hsame]
      exact htiles
    · next hgrow =>
      refine ⟨by rw [add_merge], by rw [add_merge]; exact hplain, by simp, by simp, by simp,
        by rw [add_earlier]; exact hcount, by rw [add_earlier]; exact hcount',
        current ++ [_], toList_add rfl hcount htokens htiles, ?_, ?_⟩
      · have hadd (token : Token) := @toList_add_of_plain { sink' with position := stop } hplain token
        rw [hadd, htokens', List.append_assoc]
      · rw [add_lineStart, add_position, add_visible]
        refine htiles.append ⟨rfl, ?_, ?_⟩
        · show 0 < min stop sink'.visible - min sink'.position sink'.visible
          omega
        · show sink'.lineStart + min sink'.position sink'.visible
            + (min stop sink'.visible - min sink'.position sink'.visible)
            = sink'.lineStart + min stop sink'.visible
          omega

theorem beginLine (hmerges : sink.merge = true) (hplain : sink'.merge = false)
    (lineStart visible : Nat) :
    Merged sink.tokens.toList sink'.tokens.toList (sink.beginLine lineStart visible)
      (sink'.beginLine lineStart visible) := by
  refine ⟨hmerges, hplain, rfl, rfl, rfl, by simp [Sink.beginLine], by simp [Sink.beginLine], [], ?_,
    by simp [Sink.beginLine], ?_⟩
  · simp [Sink.beginLine, mergedBy]
  · show lineStart = lineStart + min 0 visible
    omega

end Merged

end Sink

/-- Two emissions that differ in whether their sinks merge. Both sessions are sound. -/
structure Emission.Merged (repository : Repository) (earlier earlier' : List Token)
    (emission emission' : Emission) : Prop where
  sink : Sink.Merged earlier earlier' emission.sink emission'.sink
  diagnostics : emission.diagnostics = emission'.diagnostics
  sound : emission.session.Sound repository
  sound' : emission'.session.Sound repository

theorem Emission.Merged.coupling (repository : Repository) (offset : Nat)
    (earlier earlier' : List Token) :
    Coupling repository (0 + offset) offset (Merged repository earlier earlier') := by
  apply Coupling.of_sound
  · exact fun h => ⟨h.sound, h.sound'⟩
  · exact fun h _ _ hsound hsound' => ⟨h.sink, h.diagnostics, hsound, hsound'⟩
  · exact fun h stop scopes => ⟨h.sink.produce stop scopes, h.diagnostics, h.sound, h.sound'⟩
  · intro emission emission' h p length
    refine ⟨h.sink, ?_, h.sound, h.sound'⟩
    rw [remark, remark, h.diagnostics, Nat.zero_add]

/-! ## Whole buffers -/

/-- Two scans that have come to the same line of a text, the first with the merged tokens of the
second. -/
structure ScanProgress.Merged (repository : Repository) (text : List Char)
    (before : List (List Char)) (progress progress' : ScanProgress) : Prop where
  offset : progress.offset = Line.byteCount before.flatten
  offset' : progress'.offset = Line.byteCount before.flatten
  stack : progress.stack = progress'.stack
  merges : progress.emission.sink.merge = true
  plain : progress'.emission.sink.merge = false
  tokens : progress.tokens = mergedBy (belongs text) progress'.tokens
  cut : Cut before.flatten progress'.tokens
  diagnostics : progress.emission.diagnostics = progress'.emission.diagnostics
  sound : progress.emission.session.Sound repository
  sound' : progress'.emission.session.Sound repository

namespace Repository

variable (repository : Repository) (stallLimit : Nat) {text : List Char}

/-- Scans of one line, the first of them with a sink that merges. -/
theorem scanNextLine_emission_merged {progress progress' : ScanProgress} (chars : List Char)
    (hoffset : progress.offset = progress'.offset) (hstack : progress.stack = progress'.stack)
    (hmerges : progress.emission.sink.merge = true)
    (hplain : progress'.emission.sink.merge = false)
    (hdiagnostics : progress.emission.diagnostics = progress'.emission.diagnostics)
    (hsound : progress.emission.session.Sound repository)
    (hsound' : progress'.emission.session.Sound repository) :
    (repository.scanNextLine stallLimit progress chars).stack =
        (repository.scanNextLine stallLimit progress' chars).stack ∧
      Emission.Merged repository progress.tokens progress'.tokens
        (repository.scanNextLine stallLimit progress chars).emission
        (repository.scanNextLine stallLimit progress' chars).emission := by
  have hstacks := ScopeStack.Coupling.eq repository (Line.ofChars (terminated chars)) progress'.offset
  nth_rewrite 1 [← Nat.zero_add progress'.offset] at hstacks
  have hbegun : Emission.Merged repository progress.tokens progress'.tokens
      { progress.emission with
        sink := progress.emission.sink.beginLine progress'.offset (Line.byteCount chars) }
      { progress'.emission with
        sink := progress'.emission.sink.beginLine progress'.offset (Line.byteCount chars) } :=
    ⟨.beginLine hmerges hplain _ _, hdiagnostics, hsound, hsound'⟩
  have hline := scanLine_inStep stallLimit hstacks
    (Emission.Merged.coupling repository progress'.offset progress.tokens progress'.tokens)
    maxReentry 0 (if progress'.stack.clearAnchors.top.beganAtLineEnd then some 0 else none)
    (Eq.refl progress'.stack.clearAnchors) hbegun
  rw [Nat.zero_add] at hline
  rw [scanNextLine, scanNextLine, hoffset, hstack]
  exact hline

/-- One more line keeps the tokens of the first scan merged from those of the second. -/
theorem scanNextLine_merged {before after : List (List Char)} {chars : List Char}
    (hlines : Text.lines text = before ++ chars :: after) {progress progress' : ScanProgress}
    (h : progress.Merged repository text before progress') :
    (repository.scanNextLine stallLimit progress chars).Merged repository text (before ++ [chars])
      (repository.scanNextLine stallLimit progress' chars) := by
  have hfeed : ∀ before after, chars = before ++ '\n' :: after → after = [] := fun _ _ =>
    Text.eq_last_of_mem_lines (by rw [hlines]; simp)
  obtain ⟨hstack, hemission⟩ := repository.scanNextLine_emission_merged stallLimit chars
    (h.offset.trans h.offset'.symm) h.stack h.merges h.plain h.diagnostics h.sound h.sound'
  obtain ⟨hoffset', hcut⟩ := repository.scanNextLine_cut stallLimit h.offset' h.cut hfeed
  obtain ⟨current, htokens, htokens', _⟩ := hemission.sink.tokens
  obtain ⟨tiling, htiling, htiles, _⟩ := repository.scanNextLine_tokens stallLimit progress' chars
  obtain rfl : tiling = current := List.append_cancel_left (htiling.symm.trans htokens')
  rw [h.offset'] at htiles
  have hflat : (before ++ [chars]).flatten = before.flatten ++ chars := by simp
  -- the tokens of this line stand on it, and those of earlier lines on earlier ones
  have hnumber : ∀ token ∈ tiling, Text.lineAt text token.start = before.flatten.count '\n' := by
    intro token hmem
    obtain ⟨hstart, hstop⟩ := htiles.mem_bounds hmem
    have hlt := htiles.start_lt_stop hmem
    exact Text.lineAt_of_lines hlines hstart (by omega)
  have hearlier : ∀ token ∈ progress'.tokens,
      Text.lineAt text token.start < before.flatten.count '\n' := by
    intro token hmem
    obtain ⟨_, hstop⟩ := h.cut.tiles.mem_bounds hmem
    have hlt := h.cut.tiles.start_lt_stop hmem
    exact Text.lineAt_lt_of_lines hlines (by omega)
  refine ⟨?_, hflat ▸ hoffset', hstack, hemission.sink.merges, hemission.sink.plain, ?_, hflat ▸ hcut,
    hemission.diagnostics, hemission.sound, hemission.sound'⟩
  · rw [hflat, Line.byteCount_append, ← h.offset]
    rfl
  · have hedge : ∀ last ∈ progress'.tokens.getLast?, ∀ first ∈ tiling.head?,
        belongs text last first = false := by
      intro last hlast first hfirst
      have hlt := hearlier last (List.mem_of_mem_getLast? hlast)
      rw [belongs, hnumber first (List.mem_of_mem_head? hfirst)]
      simp [Nat.ne_of_lt hlt]
    rw [ScanProgress.tokens, htokens, htiling, h.tokens, mergedBy, mergedBy, mergedBy,
      List.splitBy_append hedge, List.map_append, splitBy_of_line hnumber]

theorem foldl_merged (rest : List (List Char)) {before : List (List Char)}
    (hlines : Text.lines text = before ++ rest) {progress progress' : ScanProgress}
    (h : progress.Merged repository text before progress') :
    (rest.foldl (repository.scanNextLine stallLimit) progress).Merged repository text
      (before ++ rest) (rest.foldl (repository.scanNextLine stallLimit) progress') := by
  induction rest generalizing before progress progress' with
  | nil => simpa using h
  | cons chars rest ih =>
    have hnext : Text.lines text = (before ++ [chars]) ++ rest := by simpa using hlines
    have hwhole := ih hnext (repository.scanNextLine_merged stallLimit hlines h)
    rwa [List.append_assoc] at hwhole

/-- **Merging is a change of the tokens only**, and of them it joins the longest runs that stand on one
line and have equal scopes. So no two neighbours on a line have equal scopes any more. -/
theorem scan_merged (settings : ScannerSettings) {session session' : Session}
    (hsession : session.Sound repository) (hsession' : session'.Sound repository) (text : String)
    (state : Option ScopeStack) :
    let merged := (repository.scan { settings with mergeTokens := true } session text state).1
    let plain := (repository.scan { settings with mergeTokens := false } session' text state).1
    merged.diagnostics = plain.diagnostics ∧ merged.endState = plain.endState ∧
      merged.tokens = (plain.tokens.splitBy (belongs text.toList)).map joined ∧
      merged.tokens.IsChain fun first second =>
        Text.lineAt text.toList first.start = Text.lineAt text.toList second.start →
          first.scopes ≠ second.scopes := by
  have hbegin : ScanProgress.Merged repository text.toList []
      (.begin { settings with mergeTokens := true } session (state.getD (.fresh repository)))
      (.begin { settings with mergeTokens := false } session' (state.getD (.fresh repository))) :=
    ⟨rfl, rfl, rfl, rfl, rfl, rfl, ⟨rfl, by simp [ScanProgress.begin], by simp [ScanProgress.begin]⟩,
      rfl, hsession, hsession'⟩
  have hfinish := repository.foldl_merged settings.stallLimit (Text.lines text.toList)
    (List.nil_append _).symm hbegin
  dsimp only
  rw [scan_eq, scan_eq]
  dsimp only
  rw [reached, reached]
  refine ⟨by rw [hfinish.diagnostics, hfinish.stack], hfinish.stack, hfinish.tokens, ?_⟩
  rw [hfinish.tokens]
  refine (isChain_mergedBy _ _).imp ?_
  intro first second hapart hline hscopes
  simp [belongs, hline, sameScopes, hscopes] at hapart

/-- Every `a` and every `b` is a letter of its own. -/
def lettersGrammar : Grammar where
  scopeName := "source.t"
  patterns := [{ pattern := some "a|b", name := some "letter" }]

theorem lettersGrammar_compiles :
    (match compile lettersGrammar 1000 with
      | .ok _ => true
      | .error _ => false) = true := by
  decide +kernel

/-- Two letters on one line and one on the next, scanned with both settings. -/
theorem scan_merged_letters :
    ∃ repository, compile lettersGrammar 1000 = .ok repository ∧ Session.Sound repository {} ∧
      let merged := (repository.scan { mergeTokens := true } {} "ab\na" none).1
      let plain := (repository.scan { mergeTokens := false } {} "ab\na" none).1
      merged.diagnostics = plain.diagnostics ∧ merged.endState = plain.endState ∧
        merged.tokens = (plain.tokens.splitBy (belongs ['a', 'b', '\n', 'a'])).map joined ∧
        merged.tokens.IsChain fun first second =>
          Text.lineAt ['a', 'b', '\n', 'a'] first.start = Text.lineAt ['a', 'b', '\n', 'a'] second.start →
            first.scopes ≠ second.scopes := by
  have hcompiles := lettersGrammar_compiles
  split at hcompiles
  · next repository hcompile =>
    have htext : "ab\na".toList = ['a', 'b', '\n', 'a'] := by decide
    refine ⟨repository, hcompile, .new repository, ?_⟩
    rw [← htext]
    exact scan_merged repository {} (.new repository) (.new repository) "ab\na" none
  · cases hcompiles

end Repository

end ScopeScanner
