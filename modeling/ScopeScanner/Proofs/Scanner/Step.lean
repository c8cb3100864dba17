import ScopeScanner.Scanner.Scan

/-!
# Steps of a scan

What a step of a scan along a line can be is said once, here, so that an invariant of scans is a
case analysis over `LineScan.Step` and nothing else:

* **`respond_step`**: the response to a position is one of five things. Nothing matches; the end of
  the innermost region matches; a simple rule matches; the begin of a region matches and is refused;
  or it matches and opens the region. In each case the match is one that the pattern of a candidate
  has found.
* **`drive_induct`**: what every step keeps, the scan of the line keeps.
-/

namespace ScopeScanner

/-! ## Winners -/

namespace Candidate

/-- A candidate offers the match that its pattern finds. -/
theorem match?_eq_some {candidate : Candidate} {line : Line} {start : Nat} {atAnchor : Bool}
    {winner : Winner} (h : candidate.match? line start atAnchor = some winner) :
    candidate.target = winner.target ∧
      candidate.pattern.findAt line start atAnchor = .ok (some winner.groups) := by
  rw [match?] at h
  split at h
  · next groups hfound =>
    obtain rfl := Option.some.inj h
    exact ⟨rfl, hfound⟩
  · cases h

end Candidate

/-- A candidate that matches ends the competition, becomes the best match so far, or is passed over. -/
theorem findAmong_cons_of_match {line : Line} {start : Nat} {atAnchor : Bool}
    {candidate : Candidate} {found : Winner} (rest : List Candidate) (best : Option Winner)
    (h : candidate.match? line start atAnchor = some found) :
    findAmong line start atAnchor (candidate :: rest) best = some found ∨
      findAmong line start atAnchor (candidate :: rest) best =
        findAmong line start atAnchor rest (some found) ∨
      findAmong line start atAnchor (candidate :: rest) best =
        findAmong line start atAnchor rest best := by
  rw [findAmong, h]
  have ends (hstart : found.groups.whole.start = start) (other : Option Winner) :
      (if found.groups.whole.start = start then some found else other) = some found := if_pos hstart
  cases best with
  | none =>
    by_cases hstart : found.groups.whole.start = start
    · exact Or.inl (ends hstart _)
    · exact Or.inr (Or.inl (if_neg hstart))
  | some best =>
    by_cases hbetter : found.groups.whole.start < best.groups.whole.start
    · by_cases hstart : found.groups.whole.start = start
      · exact Or.inl ((if_pos (by simpa using hbetter)).trans (ends hstart _))
      · exact Or.inr (Or.inl ((if_pos (by simpa using hbetter)).trans (if_neg hstart)))
    · exact Or.inr (Or.inr (if_neg (by simpa using hbetter)))

/-- The winner is the best match so far or the match of a candidate that is left. -/
theorem findAmong_mem {line : Line} {start : Nat} {atAnchor : Bool} {candidates : List Candidate}
    {best : Option Winner} {winner : Winner}
    (h : findAmong line start atAnchor candidates best = some winner) :
    best = some winner ∨
      ∃ candidate ∈ candidates, candidate.match? line start atAnchor = some winner := by
  induction candidates generalizing best with
  | nil => exact Or.inl h
  | cons candidate rest ih =>
    have later (other : Option Winner) (hother : findAmong line start atAnchor rest other = some winner) :
        other = some winner ∨
          ∃ c ∈ candidate :: rest, c.match? line start atAnchor = some winner :=
      (ih hother).imp_right fun ⟨c, hmem, hc⟩ => ⟨c, List.mem_cons_of_mem _ hmem, hc⟩
    cases hmatch : candidate.match? line start atAnchor with
    | none =>
      rw [findAmong, hmatch] at h
      exact later best h
    | some found =>
      have self (heq : some found = some winner) :
          ∃ c ∈ candidate :: rest, c.match? line start atAnchor = some winner :=
        ⟨candidate, List.mem_cons_self, by rw [hmatch, heq]⟩
      rcases findAmong_cons_of_match rest best hmatch with hfound | hbetter | hpassed
      · exact Or.inr (self (by rw [← hfound, h]))
      · rcases later (some found) (by rw [← hbetter, h]) with hsome | hrest
        · exact Or.inr (self hsome)
        · exact Or.inr hrest
      · exact later best (by rw [← hpassed, h])

/-- The winner is the match of a candidate. -/
theorem findNext_mem {line : Line} {start : Nat} {atAnchor : Bool} {candidates : List Candidate}
    {winner : Winner} (h : findNext candidates line start atAnchor = some winner) :
    ∃ candidate ∈ candidates, candidate.match? line start atAnchor = some winner := by
  rcases findAmong_mem h with hnone | hmem
  · cases hnone
  · exact hmem

/-- Whether a region that ends in a scene has begun in the same place, both times with empty text. -/
def Scene.endsEmpty (scene : Scene) (groups : Groups) : Bool :=
  groups.whole.isEmpty && scene.emptyPush = some (scene.stack.depth, groups.whole.start)

namespace LineScan

variable {scan : LineScan}

/-- A candidate stands for the end of the innermost frame or for one of the rules. -/
theorem mem_candidates {stack : ScopeStack} {rules : List RuleId} {candidate : Candidate}
    (h : candidate ∈ scan.candidates stack rules) :
    (candidate.target = .regionEnd ∧ stack.top.closing = some candidate.pattern) ∨
      ∃ id ∈ rules, ∃ rule, scan.repository.rule? id = some rule ∧
        rule.pattern? = some candidate.pattern ∧ candidate.target = .rule id := by
  have inner : candidate ∈ (rules.filterMap fun id =>
        ((scan.repository.rule? id).bind Rule.pattern?).map fun pattern =>
          ({ target := .rule id, pattern } : Candidate)) →
      ∃ id ∈ rules, ∃ rule, scan.repository.rule? id = some rule ∧
        rule.pattern? = some candidate.pattern ∧ candidate.target = .rule id := by
    intro hmem
    obtain ⟨id, hid, hmap⟩ := List.mem_filterMap.mp hmem
    obtain ⟨pattern, hbind, rfl⟩ := Option.map_eq_some_iff.mp hmap
    obtain ⟨rule, hrule, hpattern⟩ := Option.bind_eq_some_iff.mp hbind
    exact ⟨id, hid, rule, hrule, hpattern, rfl⟩
  rw [candidates] at h
  dsimp only at h
  split at h
  · exact Or.inr (inner h)
  · next pattern hclosing =>
    have closing : candidate = { target := .regionEnd, pattern } →
        candidate.target = .regionEnd ∧ stack.top.closing = some candidate.pattern := by
      rintro rfl
      exact ⟨rfl, hclosing⟩
    -- the end comes first or last; either way it is one of the candidates
    have either (b : Bool) (inners : List Candidate)
        (hmem : candidate ∈ if b then inners ++ [{ target := .regionEnd, pattern }]
          else { target := .regionEnd, pattern } :: inners) :
        candidate ∈ inners ∨ candidate = { target := .regionEnd, pattern } := by
      cases b with
      | true => simpa using hmem
      | false => simpa [or_comm] using hmem
    rcases either _ _ h with h | h
    · exact Or.inr (inner h)
    · exact Or.inl (closing h)

/-! ## What a step can be -/

/-- The rules that compete in a scene. -/
def offered (scan : LineScan) (scene : Scene) : List RuleId :=
  (scene.emission.session.rules scan.repository scene.stack.top.rule).1

/-- The scene once the competing rules have been looked up. -/
def looked (scan : LineScan) (scene : Scene) : Scene :=
  { scene with
    emission := { scene.emission with
      session := (scene.emission.session.rules scan.repository scene.stack.top.rule).2 } }

/-- The match that wins at a position. -/
def winner? (scan : LineScan) (drive : Drive) : Option Winner :=
  findNext (scan.candidates drive.scene.stack (scan.offered drive.scene)) scan.line drive.cursor
    (drive.scene.anchor = some drive.cursor)

/-- The scene in which a match is applied: the text before it has been covered. -/
def approached (scan : LineScan) (drive : Drive) (groups : Groups) : Scene :=
  (scan.looked drive.scene).cover groups.whole.start

/-- A pattern finds a match at the position of a scan. -/
def Finds (scan : LineScan) (drive : Drive) (pattern : Pattern) (groups : Groups) : Prop :=
  pattern.findAt scan.line drive.cursor (drive.scene.anchor = some drive.cursor) = .ok (some groups)

/-- Whether a begin of a region is refused: it is empty, and the same rule has begun a region in this
place. -/
def refuses (scan : LineScan) (rule : Rule) (groups : Groups) (stack : ScopeStack) : Bool :=
  groups.whole.isEmpty &&
    (stack.openedAt (scan.offset + groups.whole.start)).any (·.rule = rule.id)

/-- The frame of a region that has just begun. -/
def opened (scan : LineScan) (rule : Rule) (region : Region) (groups : Groups)
    (closing : Option Pattern) (anchor : Option Nat) : Frame where
  rule := rule.id
  nameScopes := rule.scopes
  contentScopes := region.contentScopes
  closing
  start := scan.offset + groups.whole.start
  beganAtLineEnd := groups.whole.stop = scan.line.size
  parentAnchor := anchor

/-- The scene after a region has begun. -/
def entered (scan : LineScan) (rule : Rule) (region : Region) (groups : Groups) (scene : Scene) :
    Scene :=
  let captured :=
    scan.capture groups region.openingCaptures (scene.stack.scopes ++ rule.scopes) scene
  let ending := captured.emission.session.closing scan.repository region.closing groups scan.line
  { captured with
    stack := scene.stack.push (scan.opened rule region groups ending.1 scene.anchor)
    anchor := some groups.whole.stop
    emptyPush :=
      if groups.whole.isEmpty then
        some ((scene.stack.push (scan.opened rule region groups ending.1 scene.anchor)).depth,
          groups.whole.start)
      else none
    emission := { captured.emission with session := ending.2 } }

/-- The scene after the innermost region has ended. -/
def closed (scan : LineScan) (groups : Groups) (scene : Scene) : Scene :=
  let captured := scan.capture groups (scan.closingCaptures scene.stack.top.rule)
    scene.stack.delimiterScopes scene
  let outside := match scene.stack.pop? with
    | some (frame, stack) => { captured with stack, anchor := frame.parentAnchor }
    | none => captured
  { outside with settled := min outside.settled outside.stack.depth }

/-- What a step of a scan can be. -/
inductive Step (scan : LineScan) (drive : Drive) : Response → Prop where
  | unmatched (hnone : scan.winner? drive = none) :
      Step scan drive (.unmatched (scan.leave drive.cursor (scan.looked drive.scene)))
  | close (pattern : Pattern) (groups : Groups)
      (hclosing : drive.scene.stack.top.closing = some pattern)
      (hfinds : scan.Finds drive pattern groups) :
      Step scan drive
        (.matched (scan.closed groups (scan.approached drive groups)) groups.whole.stop
          ((scan.approached drive groups).endsEmpty groups) false)
  | simple (id : RuleId) (rule : Rule) (pattern : Pattern) (captures : CaptureMap) (groups : Groups)
      (hid : id ∈ scan.offered drive.scene) (hrule : scan.repository.rule? id = some rule)
      (hkind : rule.kind = .simple pattern captures) (hfinds : scan.Finds drive pattern groups) :
      Step scan drive
        (.matched
          (scan.capture groups captures ((scan.approached drive groups).stack.scopes ++ rule.scopes)
            (scan.approached drive groups))
          groups.whole.stop groups.whole.isEmpty false)
  | refuse (id : RuleId) (rule : Rule) (region : Region) (groups : Groups)
      (hid : id ∈ scan.offered drive.scene) (hrule : scan.repository.rule? id = some rule)
      (hkind : rule.kind = .region region) (hfinds : scan.Finds drive region.opening groups)
      (hrefuses : scan.refuses rule groups drive.scene.stack = true) :
      Step scan drive (.matched (scan.approached drive groups) groups.whole.stop true true)
  | enter (id : RuleId) (rule : Rule) (region : Region) (groups : Groups)
      (hid : id ∈ scan.offered drive.scene) (hrule : scan.repository.rule? id = some rule)
      (hkind : rule.kind = .region region) (hfinds : scan.Finds drive region.opening groups)
      (hrefuses : scan.refuses rule groups drive.scene.stack = false) :
      Step scan drive
        (.matched (scan.entered rule region groups (scan.approached drive groups))
          groups.whole.stop false false)

theorem respond_eq (scan : LineScan) (drive : Drive) :
    scan.respond drive =
      match scan.winner? drive with
      | none => .unmatched (scan.leave drive.cursor (scan.looked drive.scene))
      | some winner =>
        match winner.target with
        | .regionEnd => scan.closeRegion winner.groups (scan.approached drive winner.groups)
        | .rule id => scan.applyRule id winner.groups (scan.approached drive winner.groups) :=
  rfl

theorem closeRegion_eq (groups : Groups) (scene : Scene) :
    scan.closeRegion groups scene =
      .matched (scan.closed groups scene) groups.whole.stop (scene.endsEmpty groups) false :=
  rfl

/-- A refused begin leaves the scene as it is; any other opens the region. -/
theorem openRegion_eq (rule : Rule) (region : Region) (groups : Groups) (scene : Scene) :
    scan.openRegion rule region groups scene =
      if scan.refuses rule groups scene.stack then .matched scene groups.whole.stop true true
      else .matched (scan.entered rule region groups scene) groups.whole.stop false false :=
  rfl

/-- The match that wins is one that the end of the innermost frame or the pattern of a rule finds. -/
theorem winner?_eq_some {drive : Drive} {winner : Winner} (h : scan.winner? drive = some winner) :
    (winner.target = .regionEnd ∧ ∃ pattern, drive.scene.stack.top.closing = some pattern ∧
        scan.Finds drive pattern winner.groups) ∨
      ∃ id ∈ scan.offered drive.scene, winner.target = .rule id ∧
        ∃ rule pattern, scan.repository.rule? id = some rule ∧ rule.pattern? = some pattern ∧
          scan.Finds drive pattern winner.groups := by
  obtain ⟨candidate, hmem, hmatch⟩ := findNext_mem h
  obtain ⟨htarget, hfinds⟩ := Candidate.match?_eq_some hmatch
  rw [← htarget]
  rcases mem_candidates hmem with ⟨hend, hclosing⟩ | ⟨id, hid, rule, hrule, hpattern, hstands⟩
  · exact Or.inl ⟨hend, candidate.pattern, hclosing, hfinds⟩
  · exact Or.inr ⟨id, hid, hstands, rule, candidate.pattern, hrule, hpattern, hfinds⟩

/-- Each response is one of the five kinds of steps. -/
theorem respond_step (scan : LineScan) (drive : Drive) : scan.Step drive (scan.respond drive) := by
  rw [respond_eq]
  split
  · next hnone => exact .unmatched hnone
  · next winner hwinner =>
    rcases winner?_eq_some hwinner with
      ⟨htarget, pattern, hclosing, hfinds⟩ | ⟨id, hid, htarget, rule, pattern, hrule, hpattern, hfinds⟩
    · rw [htarget]
      exact .close pattern winner.groups hclosing hfinds
    · rw [htarget]
      dsimp only
      rw [applyRule, hrule]
      dsimp only
      rw [Rule.pattern?] at hpattern
      -- only simple rules and regions have a pattern to compete with
      cases hkind : rule.kind with
      | simple found captures =>
        rw [hkind] at hpattern
        obtain rfl := Option.some.inj hpattern
        exact .simple id rule _ captures winner.groups hid hrule hkind hfinds
      | region region =>
        rw [hkind] at hpattern
        obtain rfl := Option.some.inj hpattern
        dsimp only
        rw [openRegion_eq]
        split
        · next hrefuses => exact .refuse id rule region winner.groups hid hrule hkind hfinds hrefuses
        · next hrefuses =>
          exact .enter id rule region winner.groups hid hrule hkind hfinds
            (Bool.eq_false_iff.mpr hrefuses)
      | group patterns =>
        rw [hkind] at hpattern
        cases hpattern
      | link target =>
        rw [hkind] at hpattern
        cases hpattern

/-! ## Scans of a whole line -/

/-- The scan of a line takes a step or ends. -/
theorem drive_eq (scan : LineScan) (state : Drive) :
    scan.drive state =
      if state.cursor < scan.line.size then
        match scan.respond state with
        | .unmatched scene => scene
        | .matched scene stop forced unwind =>
          scan.drive (scan.settle state scene stop forced unwind)
      else state.scene := by
  rw [drive]
  split <;> rfl

/-- What holds at the start of a scan and is kept by each step holds at its end. -/
theorem drive_induct {scan : LineScan} (Inv : Drive → Prop) {Done : Scene → Prop}
    (hend : ∀ state, Inv state → scan.line.size ≤ state.cursor → Done state.scene)
    (hunmatched : ∀ state scene, Inv state → state.cursor < scan.line.size →
      scan.Step state (.unmatched scene) → Done scene)
    (hmatched : ∀ state scene stop forced unwind, Inv state → state.cursor < scan.line.size →
      scan.Step state (.matched scene stop forced unwind) →
        Inv (scan.settle state scene stop forced unwind))
    (state : Drive) (h : Inv state) : Done (scan.drive state) := by
  fun_induction drive scan state with
  | case1 state hlt scene hresponse =>
    exact hunmatched state scene h hlt (hresponse ▸ respond_step scan state)
  | case2 state hlt scene stop forced unwind hresponse ih =>
    exact ih (hmatched state scene stop forced unwind h hlt (hresponse ▸ respond_step scan state))
  | case3 state hge => exact hend state h (Nat.le_of_not_lt hge)

/-- The scan of a line with its first steps spelt out, so that they can be evaluated. -/
def driveWithin (scan : LineScan) : (steps : Nat) → Drive → Scene
  | 0, state => scan.drive state
  | steps + 1, state =>
    if state.cursor < scan.line.size then
      match scan.respond state with
      | .unmatched scene => scene
      | .matched scene stop forced unwind =>
        scan.driveWithin steps (scan.settle state scene stop forced unwind)
    else state.scene

theorem driveWithin_eq (scan : LineScan) (steps : Nat) (state : Drive) :
    scan.driveWithin steps state = scan.drive state := by
  induction steps generalizing state with
  | zero => rfl
  | succ steps ih =>
    rw [driveWithin, drive_eq]
    simp only [ih]

end LineScan

/-- How the text of a group is scanned when groups may be entered `levels` deep. -/
def reentry (repository : Repository) (stallLimit offset : Nat) : (levels : Nat) → Option Reenter
  | 0 => none
  | levels + 1 => some fun line start stack emission =>
    (scanLine repository stallLimit offset levels line start none stack emission).2

/-- The start of a scan along a line. -/
def Drive.begin (start : Nat) (anchor : Option Nat) (stack : ScopeStack) (emission : Emission) :
    Drive where
  cursor := start
  scene := { stack, anchor, settled := stack.depth, emission }

theorem scanLine_eq (repository : Repository) (stallLimit offset levels : Nat) (line : Line)
    (start : Nat) (anchor : Option Nat) (stack : ScopeStack) (emission : Emission) :
    scanLine repository stallLimit offset levels line start anchor stack emission =
      let scan : LineScan :=
        { repository, stallLimit, line, offset,
          reenter := reentry repository stallLimit offset levels }
      let scene := scan.drive (.begin start anchor stack emission)
      (scene.stack, scene.emission) := by
  cases levels with
  | zero => rw [scanLine]; rfl
  | succ levels => rw [scanLine]; rfl

/-- The scan of the next line with the first steps along it spelt out. -/
def Repository.scanNextLineWithin (repository : Repository) (stallLimit steps : Nat)
    (progress : ScanProgress) (chars : List Char) : ScanProgress :=
  let stack := progress.stack.clearAnchors
  let scan : LineScan := {
    repository, stallLimit
    line := Line.ofChars (terminated chars)
    offset := progress.offset
    reenter := reentry repository stallLimit progress.offset maxReentry }
  let scene := scan.driveWithin steps
    (.begin 0 (if stack.top.beganAtLineEnd then some 0 else none) stack
      { progress.emission with
        sink := progress.emission.sink.beginLine progress.offset (Line.byteCount chars) })
  { offset := progress.offset + Line.byteCount chars, stack := scene.stack, emission := scene.emission }

theorem Repository.scanNextLineWithin_eq (repository : Repository) (stallLimit steps : Nat) :
    repository.scanNextLineWithin stallLimit steps = repository.scanNextLine stallLimit := by
  funext progress chars
  rw [scanNextLineWithin, scanNextLine]
  dsimp only
  rw [LineScan.driveWithin_eq, scanLine_eq]

/-- The lines of a text as they are matched. -/
def Text.matchedLines (lines : List (List Char)) : List Line :=
  lines.map fun chars => Line.ofChars (terminated chars)

/-- The scan along the next line of a buffer. -/
def Repository.lineScan (repository : Repository) (stallLimit : Nat) (progress : ScanProgress)
    (chars : List Char) : LineScan where
  repository
  stallLimit
  line := Line.ofChars (terminated chars)
  offset := progress.offset
  reenter := reentry repository stallLimit progress.offset maxReentry

/-- Where the scan along the next line of a buffer starts. -/
def ScanProgress.lineStart (progress : ScanProgress) (chars : List Char) : Drive :=
  .begin 0 (if progress.stack.clearAnchors.top.beganAtLineEnd then some 0 else none)
    progress.stack.clearAnchors
    { progress.emission with
      sink := progress.emission.sink.beginLine progress.offset (Line.byteCount chars) }

theorem Repository.scanNextLine_eq (repository : Repository) (stallLimit : Nat)
    (progress : ScanProgress) (chars : List Char) :
    repository.scanNextLine stallLimit progress chars =
      let scene := (repository.lineScan stallLimit progress chars).drive (progress.lineStart chars)
      { offset := progress.offset + Line.byteCount chars
        stack := scene.stack
        emission := scene.emission } := by
  rw [scanNextLine, scanLine_eq]
  rfl

end ScopeScanner
