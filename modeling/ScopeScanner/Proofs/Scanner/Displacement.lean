import ScopeScanner.Proofs.Scanner.Learning
import ScopeScanner.Proofs.Scanner.Partition
import ScopeScanner.Proofs.Scanner.Simulation

/-!
# Scanning the same lines further on

One scan meets, `shift` bytes into its buffer, the very lines from which another scan starts. What the
first has given out by then stays in front; from there on it gives out what the second does, `shift`
bytes further on:

* **`Repository.foldl_displaced`**: this holds line by line, provided that the regions carried over
  are `CarriedOver`: they refuse the same begins in both scans.
* **`Repository.scan_of_sound`**: what a session has learned in other scans makes no difference.
-/

namespace ScopeScanner

/-! ## Tokens and remarks further on -/

/-- The token `shift` bytes further on. -/
def Token.shifted (shift : Nat) (token : Token) : Token :=
  { token with start := shift + token.start }

/-- The remark `shift` bytes further on. -/
def Diagnostic.shifted (shift : Nat) : Diagnostic → Diagnostic
  | unmatchedInput offset length => .unmatchedInput (shift + offset) length
  | unterminatedRegion rule scopes start => .unterminatedRegion rule scopes (shift + start)

theorem Token.shifted_zero : Token.shifted 0 = id := by
  funext token
  simp [shifted]

theorem Diagnostic.shifted_zero : Diagnostic.shifted 0 = id := by
  funext diagnostic
  cases diagnostic with
  | unmatchedInput => simp [shifted]
  | unterminatedRegion => simp [shifted]

theorem Token.shifted_injective (shift : Nat) : Function.Injective (Token.shifted shift) := by
  rintro ⟨start, length, scopes⟩ ⟨start', length', scopes'⟩ h
  simp only [shifted, mk.injEq] at h ⊢
  exact ⟨by omega, h.2⟩

namespace Sink

/-- The first sink has collected the tokens `front` and then those of the second sink, further on. -/
structure Displaced (shift : Nat) (front : List Token) (sink sink' : Sink) : Prop where
  merge : sink.merge = sink'.merge
  tokens : sink.tokens.toList = front ++ sink'.tokens.toList.map (Token.shifted shift)
  lineStart : sink.lineStart = shift + sink'.lineStart
  visible : sink.visible = sink'.visible
  earlier : sink.earlier = front.length + sink'.earlier
  position : sink.position = sink'.position

/-- Whether the last token takes in one more. -/
def joins (sink : Sink) (last token : Token) : Bool :=
  sink.merge && sink.earlier < sink.tokens.size && last.stop = token.start
    && last.scopes = token.scopes

/-- One more token goes behind the others, unless the last one takes it in. -/
theorem toList_add_of_concat {sink : Sink} {before : List Token} {last : Token}
    (h : sink.tokens.toList = before ++ [last]) (token : Token) :
    (sink.add token).tokens.toList =
      if sink.joins last token then before ++ [{ last with length := last.length + token.length }]
      else before ++ [last] ++ [token] := by
  have hback : sink.tokens.back? = some last := by
    rw [← Array.getLast?_toList, h, List.getLast?_concat]
  rw [add, hback]
  dsimp only
  rw [← joins]
  split
  · simp [h]
  · simp [h]

/-- The first token of a line goes behind those of earlier lines. -/
theorem toList_add_of_no_current {sink : Sink} (h : ¬ sink.earlier < sink.tokens.size)
    (token : Token) : (sink.add token).tokens.toList = sink.tokens.toList ++ [token] := by
  rw [add]
  split
  · simp [h]
  · simp

namespace Displaced

variable {shift : Nat} {front : List Token} {sink sink' : Sink}

/-- As many tokens of the present line have been collected on both sides. -/
theorem earlier_lt_iff (h : sink.Displaced shift front sink') :
    sink.earlier < sink.tokens.size ↔ sink'.earlier < sink'.tokens.size := by
  have hcount := congrArg List.length h.tokens
  simp only [List.length_append, List.length_map, Array.length_toList] at hcount
  rw [h.earlier, hcount]
  omega

theorem joins_eq (h : sink.Displaced shift front sink') (last token : Token) :
    sink.joins (last.shifted shift) (token.shifted shift) = sink'.joins last token := by
  have hplace : (last.shifted shift).stop = (token.shifted shift).start ↔
      last.stop = token.start := by
    simp only [Token.stop, Token.shifted]
    omega
  rw [joins, joins, h.merge, decide_eq_decide.mpr h.earlier_lt_iff, decide_eq_decide.mpr hplace]
  rfl

theorem toList_add (h : sink.Displaced shift front sink') (token : Token) :
    (sink.add (token.shifted shift)).tokens.toList =
      front ++ (sink'.add token).tokens.toList.map (Token.shifted shift) := by
  rcases List.eq_nil_or_concat sink'.tokens.toList with hnil | ⟨before, last, hconcat⟩
  · -- on neither side the present line has a token
    have hsize : ¬ sink'.earlier < sink'.tokens.size := by
      have hempty := congrArg List.length hnil
      simp only [Array.length_toList, List.length_nil] at hempty
      omega
    rw [toList_add_of_no_current hsize, toList_add_of_no_current (by rwa [h.earlier_lt_iff]),
      h.tokens, List.map_append, List.append_assoc]
    rfl
  · rw [List.concat_eq_append] at hconcat
    have htokens : sink.tokens.toList =
        (front ++ before.map (Token.shifted shift)) ++ [last.shifted shift] := by
      rw [h.tokens, hconcat, List.map_append, List.append_assoc]
      rfl
    rw [toList_add_of_concat hconcat, toList_add_of_concat htokens, h.joins_eq]
    split
    · simp [Token.shifted]
    · simp

/-- A token that both sides add at the same position keeps them alike. -/
theorem add (h : sink.Displaced shift front sink') (token : Token) :
    (sink.add (token.shifted shift)).Displaced shift front (sink'.add token) where
  merge := by rw [add_merge, add_merge, h.merge]
  tokens := h.toList_add token
  lineStart := by rw [add_lineStart, add_lineStart, h.lineStart]
  visible := by rw [add_visible, add_visible, h.visible]
  earlier := by rw [add_earlier, add_earlier, h.earlier]
  position := by rw [add_position, add_position, h.position]

/-- Covering the line up to the same position keeps both sides alike. -/
theorem produce (h : sink.Displaced shift front sink') (stop : Nat) (scopes : List String) :
    (sink.produce stop scopes).Displaced shift front (sink'.produce stop scopes) := by
  obtain ⟨merge, tokens, lineStart, visible, earlier, position⟩ := sink
  obtain ⟨rfl, htokens, rfl, rfl, rfl, rfl⟩ := h
  rw [Sink.produce, Sink.produce]
  dsimp only
  split
  · exact ⟨rfl, htokens, rfl, rfl, rfl, rfl⟩
  · have hmoved : Displaced shift front
        { merge := sink'.merge, tokens, lineStart := shift + sink'.lineStart,
          visible := sink'.visible, earlier := front.length + sink'.earlier, position := stop }
        { sink' with position := stop } :=
      ⟨rfl, htokens, rfl, rfl, rfl, rfl⟩
    split
    · exact hmoved
    · rw [Nat.add_assoc]
      exact hmoved.add ⟨sink'.lineStart + min sink'.position sink'.visible,
        min stop sink'.visible - min sink'.position sink'.visible, scopes⟩

end Displaced

end Sink

namespace Emission

/-- Sound sessions answer alike, so a relation that they are no part of need not look at them. -/
theorem Coupling.of_sound {repository : Repository} {offset offset' : Nat}
    {Related : Emission → Emission → Prop}
    (hsound : ∀ {emission emission'}, Related emission emission' →
      emission.session.Sound repository ∧ emission'.session.Sound repository)
    (hsessions : ∀ {emission emission'}, Related emission emission' → ∀ {session session'},
      session.Sound repository → session'.Sound repository →
        Related { emission with session } { emission' with session := session' })
    (hproduce : ∀ {emission emission'}, Related emission emission' → ∀ stop scopes,
      Related (emission.produce stop scopes) (emission'.produce stop scopes))
    (hremark : ∀ {emission emission'}, Related emission emission' → ∀ p length,
      Related (emission.remark (.unmatchedInput (offset + p) length))
        (emission'.remark (.unmatchedInput (offset' + p) length))) :
    Coupling repository offset offset' Related where
  produce := hproduce
  remark := hremark
  rules := by
    intro emission emission' h id
    obtain ⟨hrules, hlearned⟩ := (hsound h).1.rules id
    obtain ⟨hrules', hlearned'⟩ := (hsound h).2.rules id
    exact ⟨hrules, hrules', hsessions h hlearned hlearned'⟩
  closing := by
    intro emission emission' h closing groups line
    obtain ⟨hclosing, hlearned⟩ := (hsound h).1.closing closing groups line
    obtain ⟨hclosing', hlearned'⟩ := (hsound h).2.closing closing groups line
    exact ⟨hclosing.trans hclosing'.symm, hsessions h hlearned hlearned'⟩

/-- The first emission holds what was given out in front, and then what the second holds, further on.
Both sessions are sound. -/
structure Displaced (repository : Repository) (shift : Nat) (front : List Token)
    (remarks : List Diagnostic) (emission emission' : Emission) : Prop where
  sink : emission.sink.Displaced shift front emission'.sink
  diagnostics : emission.diagnostics.toList =
    remarks ++ emission'.diagnostics.toList.map (Diagnostic.shifted shift)
  sound : emission.session.Sound repository
  sound' : emission'.session.Sound repository

/-- Emissions of a scan further on stay alike. -/
theorem Displaced.coupling (repository : Repository) (shift offset : Nat) (front : List Token)
    (remarks : List Diagnostic) :
    Coupling repository (shift + offset) offset (Displaced repository shift front remarks) := by
  apply Coupling.of_sound
  · exact fun h => ⟨h.sound, h.sound'⟩
  · exact fun h _ _ hsound hsound' => ⟨h.sink, h.diagnostics, hsound, hsound'⟩
  · exact fun h stop scopes => ⟨h.sink.produce stop scopes, h.diagnostics, h.sound, h.sound'⟩
  · intro emission emission' h p length
    refine ⟨h.sink, ?_, h.sound, h.sound'⟩
    simp [remark, h.diagnostics, Diagnostic.shifted, Nat.add_assoc]

end Emission

/-! ## Stacks from line to line -/

/-- What a relation between stacks owes to two scans of a text, the first of them `shift` bytes
further on: it serves for each line, and forgetting the anchors keeps it. -/
structure ScopeStack.TextCoupling (repository : Repository) (text : List Char) (shift : Nat)
    (Related : ScopeStack → ScopeStack → Prop) : Prop where
  line : ∀ {before chars after}, Text.lines text = before ++ chars :: after →
    Coupling repository (Line.ofChars (terminated chars)) (shift + Line.byteCount before.flatten)
      (Line.byteCount before.flatten) Related
  clearAnchors : ∀ {stack stack'}, Related stack stack' →
    Related stack.clearAnchors stack'.clearAnchors

/-- Equal stacks serve for scans of a text in the same place. -/
theorem ScopeStack.TextCoupling.eq (repository : Repository) (text : List Char) :
    TextCoupling repository text 0 Eq where
  line := by
    intro before chars after _
    rw [Nat.zero_add]
    exact .eq repository _ _
  clearAnchors := by
    rintro _ _ rfl
    rfl

/-- A rule begins a region at a position of the text with an empty match, as the line that holds the
position is matched. -/
def Repository.BeginsEmptyIn (repository : Repository) (text : List Char) (id : RuleId) (p : Nat) :
    Prop :=
  ∃ before chars after q, Text.lines text = before ++ chars :: after ∧
    repository.BeginsEmptyAt (Line.ofChars (terminated chars)) id q ∧
    p = Line.byteCount before.flatten + q

/-- Regions carried over into two scans of a text, the first of them `shift` bytes further on. They
agree but for their places, and they refuse the same empty begins, also when some have ended. -/
structure CarriedOver (repository : Repository) (text : List Char) (shift : Nat)
    (regions regions' : List Frame) : Prop where
  unplaced : regions.map Frame.unplaced = regions'.map Frame.unplaced
  begun : ∀ count id p, repository.BeginsEmptyIn text id p →
    begunAt (regions.drop count) id (shift + p) = begunAt (regions'.drop count) id p

/-- What leaves alone which regions have begun, and where, makes no difference. -/
theorem begunAt_map (change : Frame → Frame) (hstart : ∀ frame, (change frame).start = frame.start)
    (hrule : ∀ frame, (change frame).rule = frame.rule) (regions : List Frame) (id : RuleId)
    (start : Nat) : begunAt (regions.map change) id start = begunAt regions id start := by
  induction regions with
  | nil => rfl
  | cons frame rest ih => rw [List.map_cons, begunAt_cons, begunAt_cons, ih, hstart, hrule]

namespace CarriedOver

variable {repository : Repository} {text : List Char} {shift : Nat}

theorem coupling {before after : List (List Char)} {chars : List Char}
    (hlines : Text.lines text = before ++ chars :: after) :
    CarriedCoupling repository (Line.ofChars (terminated chars)) shift
      (Line.byteCount before.flatten) (CarriedOver repository text shift) where
  unplaced := CarriedOver.unplaced
  tail := by
    rintro frame frame' rest rest' ⟨hunplaced, hbegun⟩
    exact ⟨(List.cons.inj hunplaced).2, fun count => hbegun (count + 1)⟩
  begun := by
    rintro regions regions' ⟨_, hbegun⟩ id q hbegins
    rw [Nat.add_assoc]
    exact hbegun 0 id _ ⟨before, chars, after, q, hlines, hbegins, rfl⟩

theorem clearAnchors {regions regions' : List Frame}
    (h : CarriedOver repository text shift regions regions') :
    CarriedOver repository text shift
      (regions.map fun frame => { frame with parentAnchor := none })
      (regions'.map fun frame => { frame with parentAnchor := none }) where
  unplaced := by
    have hcleared := congrArg (List.map fun frame : Frame => { frame with parentAnchor := none })
      h.unplaced
    rw [List.map_map, List.map_map] at hcleared ⊢
    exact hcleared
  begun := by
    intro count id p hbegins
    have hsame (frames : List Frame) (start : Nat) :=
      begunAt_map (fun frame => { frame with parentAnchor := none }) (fun _ => rfl) (fun _ => rfl)
        frames id start
    rw [← List.map_drop, ← List.map_drop, hsame, hsame]
    exact h.begun count id p hbegins

end CarriedOver

/-- Stacks on top of the regions carried over serve for scans in different places. -/
theorem ScopeStack.TextCoupling.moved (repository : Repository) (text : List Char) (shift : Nat) :
    TextCoupling repository text shift (Moved shift (CarriedOver repository text shift)) where
  line := fun hlines => Moved.coupling (CarriedOver.coupling hlines)
  clearAnchors := by
    rintro ⟨bottom, regions⟩ ⟨bottom', regions'⟩ ⟨hbottom, hregions⟩
    dsimp only at hbottom hregions
    subst hbottom
    refine ⟨rfl, ?_⟩
    dsimp only [ScopeStack.clearAnchors]
    induction hregions with
    | carried h => exact .carried h.clearAnchors
    | @push frame frame' rest rest' hframe hstart _ ih =>
      refine .push ?_ hstart ih
      exact congrArg (fun frame : Frame => { frame with parentAnchor := none }) hframe

/-! ## Whole buffers -/

/-- A scan between two lines that holds what was given out in front, and then what another scan
between the same lines holds, further on. -/
structure ScanProgress.Displaced (repository : Repository) (shift : Nat)
    (Stacks : ScopeStack → ScopeStack → Prop) (front : List Token) (remarks : List Diagnostic)
    (progress progress' : ScanProgress) : Prop where
  offset : progress.offset = shift + progress'.offset
  stack : Stacks progress.stack progress'.stack
  merge : progress.emission.sink.merge = progress'.emission.sink.merge
  tokens : progress.tokens = front ++ progress'.tokens.map (Token.shifted shift)
  diagnostics : progress.emission.diagnostics.toList =
    remarks ++ progress'.emission.diagnostics.toList.map (Diagnostic.shifted shift)
  sound : progress.emission.session.Sound repository
  sound' : progress'.emission.session.Sound repository

/-- A scan of a buffer before its first line. -/
def ScanProgress.begin (settings : ScannerSettings) (session : Session) (stack : ScopeStack) :
    ScanProgress where
  stack
  emission := { sink := { merge := settings.mergeTokens }, session }

namespace Repository

variable (repository : Repository) (stallLimit : Nat) {text : List Char} {shift : Nat}
  {Stacks : ScopeStack → ScopeStack → Prop} {front : List Token} {remarks : List Diagnostic}

/-- One more line keeps the scans alike. -/
theorem scanNextLine_displaced (hstacks : ScopeStack.TextCoupling repository text shift Stacks)
    {progress progress' : ScanProgress} {before after : List (List Char)} {chars : List Char}
    (hlines : Text.lines text = before ++ chars :: after)
    (hoffset : progress'.offset = Line.byteCount before.flatten)
    (h : progress.Displaced repository shift Stacks front remarks progress') :
    (repository.scanNextLine stallLimit progress chars).Displaced repository shift Stacks front
      remarks (repository.scanNextLine stallLimit progress' chars) := by
  have hstack := hstacks.clearAnchors h.stack
  have hcoupling := hstacks.line hlines
  rw [← hoffset] at hcoupling
  have hanchor := hcoupling.top_beganAtLineEnd_eq hstack
  have hbegun : Emission.Displaced repository shift front remarks
      { progress.emission with
        sink := progress.emission.sink.beginLine progress.offset (Line.byteCount chars) }
      { progress'.emission with
        sink := progress'.emission.sink.beginLine progress'.offset (Line.byteCount chars) } := by
    refine ⟨⟨h.merge, h.tokens, h.offset, rfl, ?_, rfl⟩, h.diagnostics, h.sound, h.sound'⟩
    have hcount := congrArg List.length h.tokens
    simpa [Sink.beginLine] using hcount
  obtain ⟨hnext, hemissions⟩ := scanLine_inStep stallLimit hcoupling
    (Emission.Displaced.coupling repository shift progress'.offset front remarks) maxReentry 0
    (if progress'.stack.clearAnchors.top.beganAtLineEnd then some 0 else none) hstack hbegun
  rw [scanNextLine, scanNextLine, hanchor]
  dsimp only
  rw [h.offset] at hnext hemissions ⊢
  exact ⟨Nat.add_assoc _ _ _, hnext, hemissions.sink.merge, hemissions.sink.tokens,
    hemissions.diagnostics, hemissions.sound, hemissions.sound'⟩

/-- **The same lines further on give out the same, further on.** -/
theorem foldl_displaced (hstacks : ScopeStack.TextCoupling repository text shift Stacks)
    (rest : List (List Char)) {progress progress' : ScanProgress} {before : List (List Char)}
    (hlines : Text.lines text = before ++ rest)
    (hoffset : progress'.offset = Line.byteCount before.flatten)
    (h : progress.Displaced repository shift Stacks front remarks progress') :
    (rest.foldl (repository.scanNextLine stallLimit) progress).Displaced repository shift Stacks
      front remarks (rest.foldl (repository.scanNextLine stallLimit) progress') := by
  induction rest generalizing before progress progress' with
  | nil => exact h
  | cons chars rest ih =>
    have hnext : Text.lines text = (before ++ [chars]) ++ rest := by simpa using hlines
    refine ih hnext ?_ (repository.scanNextLine_displaced stallLimit hstacks hlines hoffset h)
    rw [scanNextLine]
    dsimp only
    rw [hoffset, List.flatten_append, Line.byteCount_append]
    simp

/-- The scan of a buffer after its last line. -/
def reached (settings : ScannerSettings) (session : Session) (text : String) (stack : ScopeStack) :
    ScanProgress :=
  (Text.lines text.toList).foldl (repository.scanNextLine settings.stallLimit)
    (.begin settings session stack)

theorem scan_eq (settings : ScannerSettings) (session : Session) (text : String)
    (state : Option ScopeStack) :
    repository.scan settings session text state =
      let finish := repository.reached settings session text (state.getD (.fresh repository))
      ({ tokens := finish.tokens
         endState := finish.stack
         diagnostics := finish.emission.diagnostics.toList ++
           finish.stack.regions.reverse.map repository.unterminated },
        finish.emission.session) :=
  rfl

variable {session session' : Session}

/-- Scans from equal stacks in sound sessions reach the same. -/
theorem reached_of_sound (settings : ScannerSettings) (hsession : session.Sound repository)
    (hsession' : session'.Sound repository) (text : String) (stack : ScopeStack) :
    (repository.reached settings session text stack).Displaced repository 0 Eq [] []
      (repository.reached settings session' text stack) := by
  refine repository.foldl_displaced settings.stallLimit (.eq repository text.toList) _
    (List.nil_append _).symm rfl ?_
  exact ⟨rfl, rfl, rfl, rfl, rfl, hsession, hsession'⟩

/-- A scan leaves its session sound. -/
theorem scan_sound (settings : ScannerSettings) (hsession : session.Sound repository) (text : String)
    (state : Option ScopeStack) :
    (repository.scan settings session text state).2.Sound repository :=
  (repository.reached_of_sound settings hsession hsession text _).sound

/-- **What a session has learned in other scans makes no difference.** -/
theorem scan_of_sound (settings : ScannerSettings) (hsession : session.Sound repository)
    (hsession' : session'.Sound repository) (text : String) (state : Option ScopeStack) :
    (repository.scan settings session text state).1 =
      (repository.scan settings session' text state).1 := by
  have h := repository.reached_of_sound settings hsession hsession' text
    (state.getD (.fresh repository))
  rw [scan_eq, scan_eq]
  dsimp only
  rw [h.tokens, h.diagnostics, h.stack, Token.shifted_zero, Diagnostic.shifted_zero]
  simp

end Repository

end ScopeScanner
