import ScopeScanner.Scanner.Captures

/-!
# Driving a scan along a line

A scan goes along a line from one match to the next. At each position the end of the innermost
region and the rules inside it compete; the text before the match keeps the scopes of the region,
and the match itself ends the region, begins another, or is covered by a simple rule.

Begins and ends may match the empty text, so the scan may stand still for a while. It cannot do so
for ever: a region that begins and ends in one place, a simple match of nothing, and more than
`stallLimit` steps in a row without progress each force one character to be covered. The begin of a
region in a place where the same rule has already begun one is refused; then, and when the limit is
exceeded, the regions that have been opened since the scan last moved are dropped first.

Each step either moves forward or counts as standing still, and the count is limited: this is the
measure by which `drive` ends.
-/

namespace ScopeScanner

/-- What stays the same while a line is scanned. -/
structure LineScan where
  repository : Repository
  stallLimit : Nat
  line : Line
  /-- Where the line starts in the buffer. -/
  offset : Nat
  /-- How to scan the text of a group; absent when groups are nested too deep. -/
  reenter : Option Reenter

/-- What a step of the scan may change, besides the cursor. -/
structure Scene where
  stack : ScopeStack
  /-- Where the anchor holds on this line. -/
  anchor : Option Nat
  /-- Depth and position of the last region that was opened by an empty match. -/
  emptyPush : Option (Nat × Nat) := none
  /-- The lowest depth since the scan last moved; regions above it were opened in this place. -/
  settled : Nat
  emission : Emission

/-- A scan on its way along a line. -/
structure Drive where
  cursor : Nat
  /-- Steps in a row without progress. -/
  stall : Nat := 0
  scene : Scene

/-- What a step has come to. -/
inductive Response where
  /-- Nothing matches on the rest of the line. -/
  | unmatched (scene : Scene)
  /-- A match that ends at `stop`. With `forced` one character has to be covered if the scan did not
  move, and with `unwind` the regions opened in this place are dropped before. -/
  | matched (scene : Scene) (stop : Nat) (forced unwind : Bool)

namespace Scene

/-- Covers the line up to a position with the scopes of the innermost frame. -/
def cover (scene : Scene) (stop : Nat) : Scene :=
  { scene with emission := scene.emission.produce stop scene.stack.scopes }

/-- Drops `count` regions and restores the anchor that held before. -/
def dropRegions : (count : Nat) → Scene → Scene
  | 0, scene => scene
  | count + 1, scene =>
    match scene.stack.pop? with
    | some (frame, stack) =>
      dropRegions count { scene with stack, anchor := frame.parentAnchor }
    | none => scene

/-- Drops the regions that have been opened since the scan last moved. -/
def unwind (scene : Scene) : Scene :=
  scene.dropRegions (scene.stack.depth - scene.settled)

end Scene

namespace LineScan

/-- The patterns that compete inside the innermost frame. -/
def candidates (scan : LineScan) (stack : ScopeStack) (rules : List RuleId) : List Candidate :=
  let top := stack.top
  let inner := rules.filterMap fun id =>
    ((scan.repository.rule? id).bind Rule.pattern?).map fun pattern => { target := .rule id, pattern }
  match top.closing with
  | none => inner
  | some pattern =>
    let closing : Candidate := { target := .regionEnd, pattern }
    let last := match scan.repository.kind? top.rule with
      | some (.region region) => region.closingLast
      | _ => false
    if last then inner ++ [closing] else closing :: inner

/-- Covers the rest of the line and reports it, unless it is blank. -/
def leave (scan : LineScan) (cursor : Nat) (scene : Scene) : Scene :=
  let rest := Text.dropLineEnds (scan.line.drop cursor)
  let scene :=
    if rest.any (!Unicode.isBlank ·) then
      { scene with
        emission := scene.emission.remark
          (.unmatchedInput (scan.offset + cursor) (Line.byteCount rest)) }
    else scene
  scene.cover scan.line.size

/-- The captures of the end of a rule. -/
def closingCaptures (scan : LineScan) (id : RuleId) : CaptureMap :=
  match scan.repository.kind? id with
  | some (.region region) => region.closingCaptures
  | _ => []

/-- Covers a match with tokens. -/
def capture (scan : LineScan) (groups : Groups) (captures : CaptureMap) (scopes : List String)
    (scene : Scene) : Scene :=
  { scene with
    emission := resolveCaptures scan.reenter scan.line groups captures scopes scene.emission }

/-- Ends the innermost region. -/
def closeRegion (scan : LineScan) (groups : Groups) (scene : Scene) : Response :=
  let span := groups.whole
  let stack := scene.stack
  let scene :=
    scan.capture groups (scan.closingCaptures stack.top.rule) stack.delimiterScopes scene
  let emptyRegion := span.isEmpty && scene.emptyPush = some (stack.depth, span.start)
  let scene := match stack.pop? with
    | some (frame, stack) => { scene with stack, anchor := frame.parentAnchor }
    | none => scene
  .matched { scene with settled := min scene.settled scene.stack.depth } span.stop emptyRegion false

/-- Begins a region, unless its begin is empty and the same rule has begun a region in this place. -/
def openRegion (scan : LineScan) (rule : Rule) (region : Region) (groups : Groups) (scene : Scene) :
    Response :=
  let span := groups.whole
  let start := scan.offset + span.start
  if span.isEmpty && (scene.stack.openedAt start).any (·.rule = rule.id) then
    .matched scene span.stop true true
  else
    let scene := scan.capture groups region.openingCaptures (scene.stack.scopes ++ rule.scopes) scene
    let (closing, session) :=
      scene.emission.session.closing scan.repository region.closing groups scan.line
    let stack := scene.stack.push {
      rule := rule.id
      nameScopes := rule.scopes
      contentScopes := region.contentScopes
      closing
      start
      beganAtLineEnd := span.stop = scan.line.size
      parentAnchor := scene.anchor }
    let scene := { scene with
      stack
      anchor := some span.stop
      emptyPush := if span.isEmpty then some (stack.depth, span.start) else none
      emission := { scene.emission with session } }
    .matched scene span.stop false false

/-- Applies the rule that matched. -/
def applyRule (scan : LineScan) (id : RuleId) (groups : Groups) (scene : Scene) : Response :=
  let span := groups.whole
  match scan.repository.rule? id with
  | none => .matched scene span.stop false false
  | some rule =>
    match rule.kind with
    | .simple _ captures =>
      let scene := scan.capture groups captures (scene.stack.scopes ++ rule.scopes) scene
      .matched scene span.stop span.isEmpty false
    | .region region => scan.openRegion rule region groups scene
    | .group _ | .link _ => .matched scene span.stop false false

/-- Looks for the next match and applies it. -/
def respond (scan : LineScan) (drive : Drive) : Response :=
  let scene := drive.scene
  let (rules, session) := scene.emission.session.rules scan.repository scene.stack.top.rule
  let scene := { scene with emission := { scene.emission with session } }
  let atAnchor := scene.anchor = some drive.cursor
  match findNext (scan.candidates scene.stack rules) scan.line drive.cursor atAnchor with
  | none => .unmatched (scan.leave drive.cursor scene)
  | some winner =>
    let scene := scene.cover winner.groups.whole.start
    match winner.target with
    | .regionEnd => scan.closeRegion winner.groups scene
    | .rule id => scan.applyRule id winner.groups scene

/-- Covers one character. -/
def force (scan : LineScan) (cursor : Nat) (unwind : Bool) (scene : Scene) : Drive :=
  let scene := if unwind then scene.unwind else scene
  let next := scan.line.next cursor
  let scene := scene.cover next
  { cursor := next, scene := { scene with settled := scene.stack.depth, emptyPush := none } }

/-- Moves to the end of a match, or counts a step without progress. -/
def settle (scan : LineScan) (drive : Drive) (scene : Scene) (stop : Nat) (forced unwind : Bool) :
    Drive :=
  if drive.cursor < stop then
    let scene := { scene with settled := scene.stack.depth }
    if forced then scan.force stop unwind scene else { cursor := stop, scene }
  else
    let stalled := decide (scan.stallLimit < drive.stall + 1)
    if forced || stalled then scan.force drive.cursor (unwind || stalled) scene
    else { cursor := drive.cursor, stall := drive.stall + 1, scene }

/-- A step moves forward, or adds to a count that is below its limit. -/
theorem settle_progress (scan : LineScan) (drive : Drive) (scene : Scene) (stop : Nat)
    (forced unwind : Bool) (h : drive.cursor < scan.line.size) :
    drive.cursor < (scan.settle drive scene stop forced unwind).cursor ∨
      ((scan.settle drive scene stop forced unwind).cursor = drive.cursor ∧
        (scan.settle drive scene stop forced unwind).stall = drive.stall + 1 ∧
        drive.stall + 1 ≤ scan.stallLimit) := by
  simp only [settle]
  split
  · next hlt =>
    split
    · exact .inl (scan.line.lt_next_of_lt h hlt)
    · exact .inl hlt
  · split
    · exact .inl (scan.line.lt_next h)
    · next hforced =>
      simp only [Bool.or_eq_true, decide_eq_true_eq, not_or] at hforced
      exact .inr ⟨rfl, rfl, by omega⟩

-- `h` is used by `decreasing_by` only.
set_option linter.unusedVariables false in
/-- Scans the line from the cursor to its end. -/
def drive (scan : LineScan) (state : Drive) : Scene :=
  if h : state.cursor < scan.line.size then
    match scan.respond state with
    | .unmatched scene => scene
    | .matched scene stop forced unwind =>
      scan.drive (scan.settle state scene stop forced unwind)
  else state.scene
termination_by (scan.line.size - state.cursor, scan.stallLimit + 1 - state.stall)
decreasing_by
  rcases scan.settle_progress state scene stop forced unwind h with hlt | ⟨hcursor, hstall, hle⟩
  · exact Prod.Lex.left _ _ (by omega)
  · rw [hcursor, hstall]
    exact Prod.Lex.right _ (by omega)

end LineScan

/-- How deep groups with rules of their own may nest. -/
def maxReentry : Nat := 16

/-- Scans a line from a position on. `levels` is how deep groups may still be entered. -/
def scanLine (repository : Repository) (stallLimit offset : Nat) :
    (levels : Nat) → (line : Line) → (start : Nat) → (anchor : Option Nat) → ScopeStack →
      Emission → ScopeStack × Emission
  | levels, line, start, anchor, stack, emission =>
    let reenter : Option Reenter := match levels with
      | 0 => none
      | levels + 1 => some fun line start stack emission =>
        (scanLine repository stallLimit offset levels line start none stack emission).2
    let scan : LineScan := { repository, stallLimit, line, offset, reenter }
    let scene := scan.drive {
      cursor := start
      scene := { stack, anchor, settled := stack.depth, emission } }
    (scene.stack, scene.emission)

end ScopeScanner
