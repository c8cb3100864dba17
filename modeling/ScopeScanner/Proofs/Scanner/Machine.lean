import ScopeScanner.Proofs.Pattern.Anchor
import ScopeScanner.Proofs.Scanner.Coverage

/-!
# Scans as runs of a machine

The scan of a line calls itself for the text of a group. Here it is taken apart into single steps, none of
which calls anything: one look for a match, one capture of a match, one return. What a scan waits for
while the text of a group is scanned stands in a list of callers (`Machine.Config`), and a group is
entered if fewer than `maxReentry` scans wait. Nothing counts the steps, and nothing cuts them off.

* **`Machine.scan_ends`**: from any start the machine comes to its end, with what `scanLine` yields. At most
  `maxReentry` scans wait at any time, and in each of them no more than `stallLimit + 1` iterations are
  completed before the cursor has moved by a character.

The argument follows the nesting of the calls: by induction on how many more scans may wait, within them
by recursion on the scan along its line (the rest of the line and the steps without progress that are
left), and within each of its steps by induction on the captures.
-/

namespace ScopeScanner

/-! ## Matches that are being covered -/

/-- A match on the way to being covered with tokens. -/
structure Covering where
  groups : Groups
  scopes : List String
  /-- The captures that are left. -/
  captures : CaptureMap
  opened : List OpenGroup := []
  emission : Emission
  /-- Whether the scan has to move behind it. -/
  forced : Bool
  /-- The scene once the match is covered. -/
  finish : Emission → Scene

/-- What a capture comes to: the groups that are open then, and the scan of its text, if it is
entered. -/
structure Visit where
  opened : List OpenGroup
  emission : Emission
  inner : Option (Span × ScopeStack) := none

namespace Covering

/-- What the scan goes on with once the match is covered. -/
def response (covering : Covering) (emission : Emission) : Response :=
  .matched (covering.finish emission) covering.groups.whole.stop covering.forced false

/-- The tokens behind the last capture. -/
def close (covering : Covering) : Emission :=
  (closeAllGroups covering.opened covering.emission).produce covering.groups.whole.stop covering.scopes

/-- Looks at a capture. If it has rules and may be `entered`, its text is to be scanned; otherwise it
is opened. -/
def visit (covering : Covering) (entered : Bool) (number : Nat) (capture : Capture) : Visit :=
  match covering.groups.clipped? number with
  | none => { opened := covering.opened, emission := covering.emission }
  | some span =>
    if capture.scopes.isEmpty && capture.rule.isNone then
      { opened := covering.opened, emission := covering.emission }
    else
      let (opened, emission) := closeGroups span.start covering.opened covering.emission
      let parent := innermostScopes covering.scopes opened
      let nested := parent ++ capture.scopes
      let emission := emission.produce span.start parent
      match capture.rule, entered with
      | some rule, true =>
        { opened, emission, inner := some (span, { bottom := { rule, nameScopes := nested } }) }
      | _, _ => { opened := ⟨span.stop, nested⟩ :: opened, emission }

/-- A match with one more capture looked at. -/
def visited (covering : Covering) (visit : Visit) (captures : CaptureMap) : Covering :=
  { covering with captures, opened := visit.opened, emission := visit.emission }

/-- The tokens of the match once all captures that are left are resolved. -/
def resolved (covering : Covering) (reenter : Option Reenter) (line : Line) : Emission :=
  let (opened, emission) := resolveEach reenter line covering.groups covering.scopes covering.captures
    covering.opened covering.emission
  close { covering with opened, emission }

variable {covering : Covering} {number : Nat} {capture : Capture} {rest : CaptureMap}

/-- A capture is resolved by looking at it and then scanning its text, if that is to be done. -/
theorem resolveCapture_eq (reenter : Option Reenter) (line : Line) (covering : Covering) (number : Nat)
    (capture : Capture) :
    resolveCapture reenter line covering.groups covering.scopes number capture covering.opened
        covering.emission =
      let visit := covering.visit reenter.isSome number capture
      (visit.opened, match visit.inner, reenter with
        | some (span, stack), some reenter =>
          reenter (line.take span.stop) span.start stack visit.emission
        | _, _ => visit.emission) := by
  rw [resolveCapture, visit]
  cases covering.groups.clipped? number with
  | none => rfl
  | some span =>
    dsimp only
    split
    · rfl
    · cases hrule : capture.rule <;> cases reenter <;> rfl

theorem resolved_nil (hcaptures : covering.captures = []) (reenter : Option Reenter) (line : Line) :
    covering.resolved reenter line = covering.close := by
  rw [resolved, hcaptures]
  rfl

/-- A capture that is passed over, or opened. -/
theorem resolved_over (hcaptures : covering.captures = (number, capture) :: rest)
    {reenter : Option Reenter} (hvisit : (covering.visit reenter.isSome number capture).inner = none)
    (line : Line) :
    covering.resolved reenter line =
      (covering.visited (covering.visit reenter.isSome number capture) rest).resolved reenter line := by
  rw [resolved, hcaptures, resolveEach, resolveCapture_eq]
  dsimp only
  rw [hvisit]
  rfl

/-- A capture whose text is scanned. -/
theorem resolved_enter (hcaptures : covering.captures = (number, capture) :: rest) {scan : Reenter}
    {span : Span} {stack : ScopeStack}
    (hvisit : (covering.visit true number capture).inner = some (span, stack)) (line : Line) :
    let visit := covering.visit true number capture
    let emission := scan (line.take span.stop) span.start stack visit.emission
    covering.resolved (some scan) line =
      resolved { covering.visited visit rest with emission } (some scan) line := by
  dsimp only
  rw [resolved, hcaptures, resolveEach, resolveCapture_eq]
  dsimp only [Option.isSome_some]
  rw [hvisit]
  rfl

/-- Nothing is entered that must not be. -/
theorem entered_of_inner {entered : Bool} {span : Span} {stack : ScopeStack}
    (h : (covering.visit entered number capture).inner = some (span, stack)) :
    entered = true ∧ covering.groups.clipped? number = some span := by
  rw [visit] at h
  cases hspan : covering.groups.clipped? number with
  | none =>
    rw [hspan] at h
    cases h
  | some clipped =>
    rw [hspan] at h
    dsimp only at h
    split at h
    · cases h
    · cases hrule : capture.rule <;> cases entered <;> rw [hrule] at h <;> cases h
      exact ⟨rfl, rfl⟩

end Covering

/-- What a scan finds out when it looks for a match: what comes next, or a match that has to be covered
first. -/
inductive Plan where
  | settled (response : Response)
  | cover (covering : Covering)

namespace LineScan

variable {scan : LineScan}

/-- The scene behind the end of a region, once it is covered. -/
def ended (captured : Scene) : Scene :=
  let outside := match captured.stack.pop? with
    | some (frame, stack) => { captured with stack, anchor := frame.parentAnchor }
    | none => captured
  { outside with settled := min outside.settled outside.stack.depth }

/-- The scene behind the begin of a region, once it is covered. -/
def begun (scan : LineScan) (rule : Rule) (region : Region) (groups : Groups) (captured : Scene) :
    Scene :=
  let ending := captured.emission.session.closing scan.repository region.closing groups scan.line
  let stack := captured.stack.push (scan.opened rule region groups ending.1 captured.anchor)
  { captured with
    stack
    anchor := some groups.whole.stop
    emptyPush := if groups.whole.isEmpty then some (stack.depth, groups.whole.start) else none
    emission := { captured.emission with session := ending.2 } }

/-- What a scan finds out at its cursor. -/
def plan (scan : LineScan) (drive : Drive) : Plan :=
  match scan.winner? drive with
  | none => .settled (.unmatched (scan.leave drive.cursor (scan.looked drive.scene)))
  | some { target, groups } =>
    let scene := scan.approached drive groups
    match target with
    | .regionEnd => .cover {
        groups
        scopes := scene.stack.delimiterScopes
        captures := scan.closingCaptures scene.stack.top.rule
        emission := scene.emission
        forced := scene.endsEmpty groups
        finish := fun emission => ended { scene with emission } }
    | .rule id =>
      match scan.repository.rule? id with
      | none => .settled (.matched scene groups.whole.stop false false)
      | some rule =>
        match rule.kind with
        | .simple _ captures => .cover {
            groups
            scopes := scene.stack.scopes ++ rule.scopes
            captures
            emission := scene.emission
            forced := groups.whole.isEmpty
            finish := fun emission => { scene with emission } }
        | .region region =>
          if scan.refuses rule groups scene.stack then
            .settled (.matched scene groups.whole.stop true true)
          else .cover {
            groups
            scopes := scene.stack.scopes ++ rule.scopes
            captures := region.openingCaptures
            emission := scene.emission
            forced := false
            finish := fun emission => scan.begun rule region groups { scene with emission } }
        | .group _ | .link _ => .settled (.matched scene groups.whole.stop false false)

/-- A scan responds as planned, with the match covered in between. -/
theorem respond_eq_plan (scan : LineScan) (drive : Drive) :
    scan.respond drive = match scan.plan drive with
      | .settled response => response
      | .cover covering => covering.response
          (covering.resolved scan.reenter scan.line) := by
  rw [respond_eq, plan]
  cases scan.winner? drive with
  | none => rfl
  | some winner =>
    obtain ⟨target, groups⟩ := winner
    cases target with
    | regionEnd => rfl
    | rule id =>
      dsimp only
      rw [applyRule]
      cases scan.repository.rule? id with
      | none => rfl
      | some rule =>
        dsimp only
        cases rule.kind with
        | region region =>
          dsimp only
          rw [openRegion_eq]
          split <;> rfl
        | _ => rfl

theorem winner?_onLine {drive : Drive} {winner : Winner} (h : scan.winner? drive = some winner) :
    winner.groups.OnLine scan.line := by
  rcases winner?_eq_some h with ⟨_, _, _, hfinds⟩ | ⟨_, _, _, _, _, _, _, hfinds⟩
  all_goals exact Pattern.findAt_onLine hfinds

end LineScan

/-- What has been found lies on boundaries of the line. -/
def Plan.OnLine (line : Line) : Plan → Prop
  | .settled (.unmatched _) => True
  | .settled (.matched _ stop _ _) => line.Boundary stop
  | .cover covering => covering.groups.OnLine line

theorem LineScan.plan_onLine (scan : LineScan) (drive : Drive) : (scan.plan drive).OnLine scan.line := by
  rw [plan]
  cases hwinner : scan.winner? drive with
  | none => exact trivial
  | some winner =>
    have honLine := winner?_onLine hwinner
    obtain ⟨target, groups⟩ := winner
    cases target with
    | regionEnd => exact honLine
    | rule id =>
      dsimp only
      cases scan.repository.rule? id with
      | none => exact honLine.whole.2
      | some rule =>
        dsimp only
        cases rule.kind with
        | simple pattern captures => exact honLine
        | region region =>
          dsimp only
          split
          · exact honLine.whole.2
          · exact honLine
        | _ => exact honLine.whole.2

/-! ## The machine -/

/-- What all scans of a line have in common. -/
structure Machine where
  repository : Repository
  stallLimit : Nat
  /-- Where the line starts in the buffer. -/
  offset : Nat

namespace Machine

/-- What a scan is doing. -/
inductive Activity where
  /-- It is about to look for a match. -/
  | looking (state : Drive)
  /-- It has found a match, and covers it. -/
  | covering (state : Drive) (covering : Covering)
  /-- It has ended. -/
  | ended (scene : Scene)

/-- A scan that waits for the scan of the text of a group. -/
structure Caller where
  line : Line
  state : Drive
  covering : Covering

/-- A scan, and those that wait for it, the nearest first. -/
structure Config where
  line : Line
  activity : Activity
  callers : List Caller := []

variable (machine : Machine)

/-- The scan of a line that the machine is at; it cannot call anything. -/
def scan (line : Line) : LineScan where
  repository := machine.repository
  stallLimit := machine.stallLimit
  line
  offset := machine.offset
  reenter := none

/-- The start of a scan that nothing waits for. -/
def Config.first (line : Line) (start : Nat) (anchor : Option Nat) (stack : ScopeStack)
    (emission : Emission) : Config where
  line
  activity := .looking (.begin start anchor stack emission)

/-- How a scan goes on after a response. -/
def goOn (line : Line) (state : Drive) : Response → Activity
  | .unmatched scene => .ended scene
  | .matched scene stop forced unwind =>
    .looking ((machine.scan line).settle state scene stop forced unwind)

/-- What a scan does first. -/
def look (line : Line) (state : Drive) : Activity :=
  if state.cursor < line.size then
    match (machine.scan line).plan state with
    | .settled response => machine.goOn line state response
    | .cover covering => .covering state covering
  else .ended state.scene

/-- A single step. There is none once the first scan has ended. -/
def step (config : Config) : Option Config :=
  let { line, activity, callers } := config
  match activity with
  | .looking state => some { line, activity := machine.look line state, callers }
  | .covering state covering =>
    match covering.captures with
    | [] =>
      let response := covering.response covering.close
      some { line, activity := machine.goOn line state response, callers }
    | (number, capture) :: captures =>
      let visit := covering.visit (callers.length < maxReentry) number capture
      let covering := covering.visited visit captures
      match visit.inner with
      | none => some { line, activity := .covering state covering, callers }
      | some (span, stack) => some {
          line := line.take span.stop
          activity := .looking (.begin span.start none stack visit.emission)
          callers := { line, state, covering } :: callers }
  | .ended scene =>
    match callers with
    | [] => none
    | { line, state, covering } :: callers => some {
        line
        activity := .covering state { covering with emission := scene.emission }
        callers }

/-- The machine gets from one configuration to another, step by step. -/
inductive Reaches : Config → Config → Prop where
  | refl (config : Config) : Reaches config config
  | step {config next last : Config} (hstep : machine.step config = some next)
      (hrest : Reaches next last) : Reaches config last

variable {machine}

theorem Reaches.trans {first middle last : Config} (h : machine.Reaches first middle)
    (hrest : machine.Reaches middle last) : machine.Reaches first last := by
  induction h with
  | refl => exact hrest
  | step hstep _ ih => exact .step hstep (ih hrest)

/-- The machine takes one way only: whatever it gets to lies on the way to where it cannot go on. -/
theorem Reaches.to_end {first middle last : Config} (h : machine.Reaches first middle)
    (hlast : machine.Reaches first last) (hend : machine.step last = none) :
    machine.Reaches middle last := by
  induction h with
  | refl => exact hlast
  | step hstep _ ih =>
    cases hlast with
    | refl => rw [hend] at hstep; cases hstep
    | step hstep' hrest =>
      obtain rfl := Option.some.inj (hstep.symm.trans hstep')
      exact ih hrest

/-! ## The machine comes to its end -/

/-- The scan that the machine stands for when groups may be entered `levels` deep. -/
def scanAt (machine : Machine) (levels : Nat) (line : Line) : LineScan :=
  { machine.scan line with
    reenter := reentry machine.repository machine.stallLimit machine.offset levels }

/-- The machine does what the scan of a line does when groups may be entered `levels` deep. -/
def Runs (machine : Machine) (levels : Nat) : Prop :=
  ∀ (line : Line) (state : Drive) (callers : List Caller), callers.length + levels = maxReentry →
    machine.Reaches { line, activity := .looking state, callers }
      { line, activity := .ended ((machine.scanAt levels line).drive state), callers }

/-- A level is left as long as fewer scans wait than may. -/
theorem isSome_reentry {levels : Nat} {callers : List Caller}
    (hdeep : callers.length + levels = maxReentry) :
    (reentry machine.repository machine.stallLimit machine.offset levels).isSome =
      decide (callers.length < maxReentry) := by
  cases levels with
  | zero =>
    have hfull : ¬ callers.length < maxReentry := by omega
    rw [decide_eq_false hfull]
    rfl
  | succ fewer =>
    have hroom : callers.length < maxReentry := by omega
    rw [decide_eq_true hroom]
    rfl

/-- The machine covers a match as the captures are resolved, by induction on them. A group is entered if
there is a level left for it, and then the machine runs on that level. -/
theorem reaches_resolved {levels : Nat} (hinner : ∀ fewer, levels = fewer + 1 → machine.Runs fewer)
    {callers : List Caller} (hdeep : callers.length + levels = maxReentry) (line : Line) (state : Drive)
    (covering : Covering) :
    machine.Reaches { line, activity := .covering state covering, callers }
      { line
        activity := machine.goOn line state (covering.response (covering.resolved
          (reentry machine.repository machine.stallLimit machine.offset levels) line))
        callers } := by
  induction hcaptures : covering.captures generalizing covering with
  | nil =>
    rw [Covering.resolved_nil hcaptures]
    refine .step ?_ (.refl _)
    simp only [step, hcaptures]
  | cons entry rest ih =>
    obtain ⟨number, capture⟩ := entry
    let visit := covering.visit (callers.length < maxReentry) number capture
    have hlevel : (reentry machine.repository machine.stallLimit machine.offset levels).isSome =
        decide (callers.length < maxReentry) := isSome_reentry hdeep
    cases hvisit : visit.inner with
    | none =>
      rw [Covering.resolved_over hcaptures (by rwa [hlevel]), hlevel]
      refine .step ?_ (ih (covering.visited visit rest) rfl)
      simp only [step, hcaptures]
      rw [hvisit]
    | some inner =>
      obtain ⟨span, stack⟩ := inner
      have hroom : callers.length < maxReentry :=
        of_decide_eq_true (Covering.entered_of_inner hvisit).1
      obtain ⟨fewer, rfl⟩ : ∃ fewer, levels = fewer + 1 := ⟨levels - 1, by omega⟩
      have hentered : visit = covering.visit true number capture := by
        rw [← decide_eq_true hroom]
      -- the text of the group is scanned while this scan waits, and then the machine is back here
      let waiting : Caller := { line, state, covering := covering.visited visit rest }
      let inside := (machine.scanAt fewer (line.take span.stop)).drive
        (.begin span.start none stack visit.emission)
      have hscan := hinner fewer rfl (line.take span.stop) (.begin span.start none stack visit.emission)
        (waiting :: callers) (by rw [List.length_cons]; omega)
      have hreturn := ih { covering.visited visit rest with emission := inside.emission } rfl
      have hresolved : covering.resolved
          (reentry machine.repository machine.stallLimit machine.offset (fewer + 1)) line =
          Covering.resolved { covering.visited visit rest with emission := inside.emission }
            (reentry machine.repository machine.stallLimit machine.offset (fewer + 1)) line := by
        rw [reentry, Covering.resolved_enter hcaptures (hentered ▸ hvisit), ← hentered]
        dsimp only
        rw [scanLine_eq]
        rfl
      rw [hresolved]
      refine .step ?_ (hscan.trans (.step rfl hreturn))
      simp only [step, hcaptures]
      rw [hvisit]

/-- The machine gets from one look to what follows the response of the scan. -/
theorem reaches_respond {levels : Nat} (hinner : ∀ fewer, levels = fewer + 1 → machine.Runs fewer)
    {callers : List Caller} (hdeep : callers.length + levels = maxReentry) (line : Line) {state : Drive}
    (hinside : state.cursor < line.size) :
    machine.Reaches { line, activity := .looking state, callers }
      { line
        activity := machine.goOn line state ((machine.scanAt levels line).respond state)
        callers } := by
  have hsame : (machine.scanAt levels line).plan state = (machine.scan line).plan state := rfl
  rw [LineScan.respond_eq_plan, hsame]
  cases hplan : (machine.scan line).plan state with
  | settled response =>
    refine .step ?_ (.refl _)
    simp only [step, look, if_pos hinside, hplan]
  | cover covering =>
    refine .step ?_ (reaches_resolved hinner hdeep line state covering)
    simp only [step, look, if_pos hinside, hplan]

/-- With the levels below it, a level is run by recursion on the scan along the line. -/
theorem runs_of_inner {levels : Nat} (hinner : ∀ fewer, levels = fewer + 1 → machine.Runs fewer) :
    machine.Runs levels := by
  intro line state callers hdeep
  fun_induction LineScan.drive (machine.scanAt levels line) state with
  | case1 state hinside scene hresponse =>
    have hrespond := reaches_respond hinner hdeep line hinside
    rwa [hresponse] at hrespond
  | case2 state hinside scene stop forced unwind hresponse ih =>
    have hrespond := reaches_respond hinner hdeep line hinside
    rw [hresponse] at hrespond
    exact hrespond.trans ih
  | case3 state houtside =>
    have houtside : ¬ state.cursor < line.size := houtside
    refine .step ?_ (.refl _)
    simp only [step, look, if_neg houtside]

/-- **The machine runs on every level.** -/
theorem runs (machine : Machine) (levels : Nat) : machine.Runs levels := by
  induction levels with
  | zero => exact runs_of_inner fun fewer h => nomatch h
  | succ levels ih =>
    refine runs_of_inner fun fewer h => ?_
    obtain rfl := Nat.succ.inj h
    exact ih

/-! ## What a step can be -/

/-- What a single step can be. -/
inductive Step (machine : Machine) : Config → Config → Prop where
  | ends {line : Line} {state : Drive} {callers : List Caller} (scene : Scene) :
      Step machine { line, activity := .looking state, callers }
        { line, activity := .ended scene, callers }
  | turns {line : Line} {state : Drive} {callers : List Caller} (scene : Scene) (stop : Nat)
      (forced unwind : Bool) (hinside : state.cursor < line.size) (hstop : line.Boundary stop) :
      Step machine { line, activity := .looking state, callers }
        { line
          activity := .looking ((machine.scan line).settle state scene stop forced unwind)
          callers }
  | covers {line : Line} {state : Drive} {callers : List Caller} (covering : Covering)
      (hinside : state.cursor < line.size) (honLine : covering.groups.OnLine line) :
      Step machine { line, activity := .looking state, callers }
        { line, activity := .covering state covering, callers }
  | visits {line : Line} {state : Drive} {callers : List Caller} (covering : Covering) (visit : Visit)
      (captures : CaptureMap) :
      Step machine { line, activity := .covering state covering, callers }
        { line, activity := .covering state (covering.visited visit captures), callers }
  | enters {line : Line} {state : Drive} {callers : List Caller} (covering : Covering) (visit : Visit)
      (captures : CaptureMap) (number : Nat) (span : Span) (stack : ScopeStack)
      (hroom : callers.length < maxReentry) (hspan : covering.groups.clipped? number = some span) :
      Step machine { line, activity := .covering state covering, callers }
        { line := line.take span.stop
          activity := .looking (.begin span.start none stack visit.emission)
          callers := { line, state, covering := covering.visited visit captures } :: callers }
  | covered {line : Line} {state : Drive} {callers : List Caller} (covering : Covering) (scene : Scene) :
      Step machine { line, activity := .covering state covering, callers }
        { line
          activity := .looking ((machine.scan line).settle state scene covering.groups.whole.stop
            covering.forced false)
          callers }
  | returns {line : Line} {scene : Scene} (caller : Caller) {callers : List Caller} :
      Step machine { line, activity := .ended scene, callers := caller :: callers }
        { line := caller.line
          activity := .covering caller.state { caller.covering with emission := scene.emission }
          callers }

theorem step_cases {config next : Config} (h : machine.step config = some next) :
    machine.Step config next := by
  obtain ⟨line, activity, callers⟩ := config
  cases activity with
  | looking state =>
    obtain rfl := Option.some.inj h
    have honLine := (machine.scan line).plan_onLine state
    rw [look]
    split
    · next hinside =>
      cases hplan : (machine.scan line).plan state with
      | settled response =>
        rw [hplan] at honLine
        cases response with
        | unmatched scene => exact .ends scene
        | matched scene stop forced unwind => exact .turns scene stop forced unwind hinside honLine
      | cover covering =>
        rw [hplan] at honLine
        exact .covers covering hinside honLine
    · exact .ends _
  | covering state covering =>
    cases hcaptures : covering.captures with
    | nil =>
      simp only [step, hcaptures] at h
      obtain rfl := Option.some.inj h
      exact .covered covering _
    | cons entry rest =>
      obtain ⟨number, capture⟩ := entry
      simp only [step, hcaptures] at h
      split at h
      · obtain rfl := Option.some.inj h
        exact .visits covering _ rest
      · next span stack hvisit =>
        obtain rfl := Option.some.inj h
        obtain ⟨hroom, hspan⟩ := Covering.entered_of_inner hvisit
        exact .enters covering _ rest number span stack (of_decide_eq_true hroom) hspan
  | ended scene =>
    cases callers with
    | nil => cases h
    | cons caller callers =>
      obtain rfl := Option.some.inj h
      exact .returns caller

/-! ## How many scans wait -/

theorem Step.callers_le {config next : Config} (h : machine.Step config next)
    (hdeep : config.callers.length ≤ maxReentry) : next.callers.length ≤ maxReentry := by
  cases h with
  | enters covering visit captures number span stack hroom hspan => exact hroom
  | returns caller => exact Nat.le_of_succ_le hdeep
  | _ => exact hdeep

theorem Reaches.callers_le {config last : Config} (h : machine.Reaches config last)
    (hdeep : config.callers.length ≤ maxReentry) : last.callers.length ≤ maxReentry := by
  induction h with
  | refl => exact hdeep
  | step hstep _ ih => exact ih ((step_cases hstep).callers_le hdeep)

/-! ## Where scans stand -/

/-- A scan stands on a boundary of its line, and so does the match that it covers. -/
def Activity.OnLine (line : Line) : Activity → Prop
  | .looking state => line.Boundary state.cursor
  | .covering state found => line.Boundary state.cursor ∧ found.groups.OnLine line
  | .ended _ => True

/-- All scans stand on boundaries. -/
structure Config.OnLines (config : Config) : Prop where
  activity : config.activity.OnLine config.line
  callers : ∀ caller ∈ config.callers,
    (Activity.covering caller.state caller.covering).OnLine caller.line

theorem settle_boundary (scan : LineScan) {state : Drive} (hcursor : scan.line.Boundary state.cursor)
    {stop : Nat} (hstop : scan.line.Boundary stop) (scene : Scene) (forced unwind : Bool) :
    scan.line.Boundary (scan.settle state scene stop forced unwind).cursor := by
  rw [LineScan.settle]
  split
  · split
    · exact scan.line.next_boundary stop
    · exact hstop
  · dsimp only
    split
    · exact scan.line.next_boundary state.cursor
    · exact hcursor

theorem Step.onLines {config next : Config} (h : machine.Step config next) (honLines : config.OnLines) :
    next.OnLines := by
  obtain ⟨hactivity, hcallers⟩ := honLines
  cases h with
  | ends scene => exact ⟨trivial, hcallers⟩
  | @turns line state callers scene stop forced unwind hinside hstop =>
    have hsettle : line.Boundary ((machine.scan line).settle state scene stop forced unwind).cursor :=
      settle_boundary (machine.scan line) hactivity hstop scene forced unwind
    exact ⟨hsettle, hcallers⟩
  | covers covering hinside honLine => exact ⟨⟨hactivity, honLine⟩, hcallers⟩
  | visits covering visit captures => exact ⟨hactivity, hcallers⟩
  | enters covering visit captures number span stack hroom hspan =>
    -- the line up to the end of the group still has the start of the group as a boundary
    obtain ⟨hstart, hstop, hlt⟩ := hactivity.2.clipped hspan
    refine ⟨hstop.take hstart (Nat.le_of_lt hlt), fun caller hcaller => ?_⟩
    rcases List.mem_cons.mp hcaller with rfl | hcaller
    · exact hactivity
    · exact hcallers caller hcaller
  | @covered line state callers covering scene =>
    have hsettle := settle_boundary (machine.scan line) hactivity.1 hactivity.2.whole.2 scene
      covering.forced false
    exact ⟨hsettle, hcallers⟩
  | returns caller =>
    exact ⟨hcallers caller List.mem_cons_self,
      fun other hother => hcallers other (List.mem_cons_of_mem _ hother)⟩

theorem Reaches.onLines {config last : Config} (h : machine.Reaches config last)
    (honLines : config.OnLines) : last.OnLines := by
  induction h with
  | refl => exact honLines
  | step hstep _ ih => exact ih ((step_cases hstep).onLines honLines)

/-! ## Iterations -/

/-- Whether the scan for which so many others wait is about to look for a match. -/
def Config.looks (config : Config) (depth : Nat) : Nat :=
  match config.activity with
  | .looking _ => if config.callers.length = depth then 1 else 0
  | _ => 0

/-- The machine gets from one configuration to another while the scan for which `depth` others wait goes
on, and that scan completes so many iterations on the way. -/
inductive Turns (machine : Machine) (depth : Nat) : (count : Nat) → Config → Config → Prop where
  | none (config : Config) : Turns machine depth 0 config config
  | step {config next last : Config} {count : Nat} (hstep : machine.step config = some next)
      (hdepth : depth ≤ next.callers.length) (hrest : Turns machine depth count next last) :
      Turns machine depth (next.looks depth + count) config last

theorem Turns.reaches {depth count : Nat} {config last : Config}
    (h : machine.Turns depth count config last) : machine.Reaches config last := by
  induction h with
  | none => exact .refl _
  | step hstep _ _ ih => exact .step hstep ih

/-- A scan is in the middle of the iteration that it has begun at `state`; scans of groups may be going
on above it. -/
inductive Turning (line : Line) (state : Drive) (callers : List Caller) : Config → Prop where
  | looking : Turning line state callers { line, activity := .looking state, callers }
  | covering (covering : Covering) (hinside : state.cursor < line.size) :
      Turning line state callers { line, activity := .covering state covering, callers }
  | waiting (inner : Line) (activity : Activity) (covering : Covering) (above : List Caller)
      (hinside : state.cursor < line.size) :
      Turning line state callers
        { line := inner, activity, callers := above ++ { line, state, covering } :: callers }

/-- An iteration goes on, or it is completed, or the scan ends. -/
theorem Turning.step {line : Line} {state : Drive} {callers : List Caller} {config next : Config}
    (h : Turning line state callers config) (hstep : machine.Step config next) :
    (Turning line state callers next ∧ next.looks callers.length = 0) ∨
      (∃ scene stop forced unwind, state.cursor < line.size ∧ next =
        { line
          activity := .looking ((machine.scan line).settle state scene stop forced unwind)
          callers }) ∨
      ∃ scene, next = { line, activity := .ended scene, callers } := by
  have above (inner : Line) (activity : Activity) (covering : Covering) (above : List Caller)
      (hinside : state.cursor < line.size) :
      let config : Config :=
        { line := inner, activity, callers := above ++ { line, state, covering } :: callers }
      Turning line state callers config ∧ config.looks callers.length = 0 := by
    refine ⟨.waiting inner activity covering above hinside, ?_⟩
    rw [Config.looks]
    split
    · rw [if_neg]
      simp only [List.length_append, List.length_cons]
      omega
    · rfl
  cases h with
  | looking =>
    cases hstep with
    | ends scene => exact Or.inr (Or.inr ⟨scene, rfl⟩)
    | turns scene stop forced unwind hinside hstop =>
      exact Or.inr (Or.inl ⟨scene, stop, forced, unwind, hinside, rfl⟩)
    | covers covering hinside honLine => exact Or.inl ⟨.covering covering hinside, rfl⟩
  | covering covering hinside =>
    cases hstep with
    | visits covering visit captures => exact Or.inl ⟨.covering _ hinside, rfl⟩
    | enters covering visit captures number span stack hroom hspan =>
      exact Or.inl (above _ _ _ [] hinside)
    | covered covering scene =>
      exact Or.inr (Or.inl ⟨scene, _, _, _, hinside, rfl⟩)
  | waiting inner activity covering between hinside =>
    left
    cases activity with
    | looking other =>
      cases hstep with
      | ends scene => exact above _ _ _ between hinside
      | turns scene stop forced unwind hinner hstop => exact above _ _ _ between hinside
      | covers found hinner honLine => exact above _ _ _ between hinside
    | covering other found =>
      cases hstep with
      | visits found visit captures => exact above _ _ _ between hinside
      | enters found visit captures number span stack hroom hspan =>
        exact above _ _ _ ({ line := inner, state := other, covering := _ } :: between) hinside
      | covered found scene => exact above _ _ _ between hinside
    | ended scene =>
      -- what returns is the scan of a group of this match, or of one further in
      cases between with
      | nil =>
        cases hstep
        exact ⟨.covering _ hinside, rfl⟩
      | cons caller between =>
        cases hstep
        exact above _ _ _ between hinside

/-- While a scan goes on, its iterations are completed one after the other. Either its cursor moves, or
they add up to a count that stays below its limit. By induction on the steps. -/
theorem Turns.moves {line : Line} {state : Drive} {callers : List Caller} {count : Nat}
    {config last : Config} (h : machine.Turns callers.length count config last)
    (hturning : Turning line state callers config) {state' : Drive}
    (hlooks : last.activity = .looking state') (hdepth : last.callers.length = callers.length) :
    last.line = line ∧ last.callers = callers ∧ (state.cursor < state'.cursor ∨
      (state'.cursor = state.cursor ∧ (count = 0 ∨ state.stall + count ≤ machine.stallLimit))) := by
  generalize hcallers : callers.length = depth at h
  induction h generalizing state with
  | none config =>
    cases hturning with
    | looking =>
      obtain rfl := Activity.looking.inj hlooks
      exact ⟨rfl, rfl, Or.inr ⟨rfl, Or.inl rfl⟩⟩
    | covering covering hinside => cases hlooks
    | waiting inner activity covering above hinside =>
      simp only [List.length_append, List.length_cons] at hdepth
      omega
  | @step config next last count hstep hnext hrest ih =>
    rcases hturning.step (step_cases hstep) with
      ⟨hgoes, hlooking⟩ | ⟨scene, stop, forced, unwind, hinside, rfl⟩ | ⟨scene, rfl⟩
    · rw [hcallers] at hlooking
      rw [hlooking, Nat.zero_add]
      exact ih hgoes hlooks hdepth
    · -- one iteration is completed, and what is left starts from where the scan has settled
      obtain ⟨hline, hwaiting, hmoves⟩ := ih .looking hlooks hdepth
      refine ⟨hline, hwaiting, ?_⟩
      have hone : Config.looks
          { line, activity := .looking ((machine.scan line).settle state scene stop forced unwind),
            callers } depth = 1 := if_pos hcallers
      rw [hone]
      have hprogress := (machine.scan line).settle_progress state scene stop forced unwind hinside
      have hlimit : (machine.scan line).stallLimit = machine.stallLimit := rfl
      omega
    · -- a scan that has ended goes on no more
      cases hrest with
      | none => cases hlooks
      | step hreturn hbelow _ =>
        cases step_cases hreturn with
        | returns caller =>
          rw [← hcallers] at hbelow
          exact absurd hbelow (Nat.not_succ_le_self _)

/-- The next boundary is the nearest one. -/
theorem next_le_of_lt {line : Line} {start stop : Nat} (hstart : line.Boundary start)
    (hstop : line.Boundary stop) (h : start < stop) : line.next start ≤ stop := by
  rw [Line.next, ← hstop.offset_index]
  refine line.offset_le (Nat.lt_of_not_le fun hle => ?_)
  have hback := line.offset_le hle
  rw [hstart.offset_index, hstop.offset_index] at hback
  omega

/-- The next line of a buffer is scanned by a machine that starts where the lines before it have left off. -/
theorem scanNextLine_reaches (machine : Machine) (progress : ScanProgress) (chars : List Char) :
    ∃ anchor emission scene,
      { machine with offset := progress.offset }.Reaches
          (.first (Line.ofChars (terminated chars)) 0 anchor progress.stack.clearAnchors emission)
          { line := Line.ofChars (terminated chars), activity := .ended scene } ∧
        machine.repository.scanNextLine machine.stallLimit progress chars =
          { offset := progress.offset + Line.byteCount chars
            stack := scene.stack
            emission := scene.emission } := by
  let scan := machine.repository.lineScan machine.stallLimit progress chars
  let state := progress.lineStart chars
  refine ⟨state.scene.anchor, state.scene.emission, scan.drive state, ?_, ?_⟩
  · exact { machine with offset := progress.offset }.runs maxReentry (Line.ofChars (terminated chars))
      state [] (Nat.zero_add _)
  · exact machine.repository.scanNextLine_eq machine.stallLimit progress chars

/-- **A scan ends by itself.** From any start the machine gets to where it has no step left, in the only
way that there is, and ends with what the scan of the line yields. On the way no more than `maxReentry`
scans wait, and whichever scan is about to look for a match, once it has completed more than `stallLimit`
further iterations its cursor has moved: by a whole character at least, if the line is scanned from a
boundary on. Each line of a buffer is scanned in this way. -/
theorem scan_ends (machine : Machine) (line : Line) (start : Nat) (anchor : Option Nat)
    (stack : ScopeStack) (emission : Emission) :
    let first := Config.first line start anchor stack emission
    (∃ scene, machine.Reaches first { line, activity := .ended scene } ∧
      machine.step { line, activity := .ended scene } = none ∧
      (∀ config, machine.Reaches first config →
        machine.Reaches config { line, activity := .ended scene }) ∧
      scanLine machine.repository machine.stallLimit machine.offset maxReentry line start anchor stack
        emission = (scene.stack, scene.emission)) ∧
    (∀ config, machine.Reaches first config → config.callers.length ≤ maxReentry ∧
      ∀ state count later state', config.activity = .looking state →
        machine.Turns config.callers.length count config later → later.activity = .looking state' →
        later.callers.length = config.callers.length → machine.stallLimit < count →
        later.line = config.line ∧ later.callers = config.callers ∧ state.cursor < state'.cursor ∧
          (line.Boundary start → config.line.next state.cursor ≤ state'.cursor)) ∧
    ∀ (progress : ScanProgress) (chars : List Char), ∃ anchor emission scene,
      { machine with offset := progress.offset }.Reaches
          (.first (Line.ofChars (terminated chars)) 0 anchor progress.stack.clearAnchors emission)
          { line := Line.ofChars (terminated chars), activity := .ended scene } ∧
        machine.repository.scanNextLine machine.stallLimit progress chars =
          { offset := progress.offset + Line.byteCount chars
            stack := scene.stack
            emission := scene.emission } := by
  intro first
  let scene := (machine.scanAt maxReentry line).drive (.begin start anchor stack emission)
  have hend : machine.Reaches first { line, activity := .ended scene } :=
    machine.runs maxReentry line (.begin start anchor stack emission) [] (Nat.zero_add _)
  refine ⟨⟨scene, hend, rfl, fun config hconfig => hconfig.to_end hend rfl, ?_⟩, ?_,
    machine.scanNextLine_reaches⟩
  · rw [scanLine_eq]
    rfl
  · intro config hconfig
    refine ⟨hconfig.callers_le (Nat.zero_le _), ?_⟩
    intro state count later state' hlooking hturns hlooks hdepth hcount
    obtain ⟨inner, activity, callers⟩ := config
    obtain rfl : activity = .looking state := hlooking
    obtain ⟨hline, hcallers, hmoves⟩ := hturns.moves .looking hlooks hdepth
    have hlt : state.cursor < state'.cursor := by omega
    refine ⟨hline, hcallers, hlt, fun hstart => ?_⟩
    -- both positions are boundaries of the line that this scan goes along
    have hfirst : first.OnLines := ⟨hstart, fun _ hnone => nomatch hnone⟩
    have honLine := (hconfig.onLines hfirst).activity
    have honLine' := ((hconfig.trans hturns.reaches).onLines hfirst).activity
    rw [hlooks, hline] at honLine'
    exact next_le_of_lt honLine honLine' hlt

/-- What the machine gets to in so many steps, as long as the scan for which `depth` others wait goes on,
and how many iterations that scan completes. -/
def turnsAfter (machine : Machine) (depth : Nat) : (steps : Nat) → Config → Option (Nat × Config)
  | 0, config => some (0, config)
  | steps + 1, config =>
    (machine.step config).bind fun next =>
      if depth ≤ next.callers.length then
        (machine.turnsAfter depth steps next).map fun (count, last) => (next.looks depth + count, last)
      else none

theorem turns_of_turnsAfter {depth steps count : Nat} {config last : Config}
    (h : machine.turnsAfter depth steps config = some (count, last)) :
    machine.Turns depth count config last := by
  induction steps generalizing config count with
  | zero =>
    obtain ⟨rfl, rfl⟩ := Prod.mk.inj (Option.some.inj h)
    exact .none _
  | succ steps ih =>
    obtain ⟨next, hstep, hrest⟩ := Option.bind_eq_some_iff.mp h
    split at hrest
    · next hdepth =>
      obtain ⟨⟨others, last⟩, hlast, hcount⟩ := Option.map_eq_some_iff.mp hrest
      obtain ⟨rfl, rfl⟩ := Prod.mk.inj hcount
      exact .step hstep hdepth (ih hlast)
    · cases hrest

/-- Where a scan is that is about to look for a match. -/
def Config.cursor? (config : Config) : Option Nat :=
  match config.activity with
  | .looking state => some state.cursor
  | _ => none

theorem activity_of_cursor? {config : Config} {cursor : Nat} (h : config.cursor? = some cursor) :
    ∃ state, config.activity = .looking state ∧ state.cursor = cursor := by
  rw [Config.cursor?] at h
  split at h
  · next state hlooking => exact ⟨state, hlooking, Option.some.inj h⟩
  · cases h

/-- A rule whose whole match has the rule itself among its rules. -/
def nestingGrammar : Grammar where
  scopeName := "source.t"
  patterns := [{ reference := some "#a" }]
  repository := [("a", {
    pattern := some "a+"
    captures := [("0", { patterns := [{ reference := some "#a" }] })] })]

/-- The scan of the line `aa` without any steps that stand still. -/
def nesting (repository : Repository) : Machine :=
  { repository, stallLimit := 0, offset := 0 }

def nestingFirst (repository : Repository) : Config :=
  .first (Line.ofString "aa") 0 none (.fresh repository) { sink := { merge := true } }

theorem nestingGrammar_turns :
    (match Repository.compile nestingGrammar 1000 with
      | .ok repository => ((nesting repository).turnsAfter 0 32 (nestingFirst repository)).any
          fun (_, config) => config.callers.length = maxReentry && config.cursor? = some 0 &&
            ((nesting repository).turnsAfter maxReentry 3 config).any fun (count, later) =>
              count = 1 && later.callers.length = maxReentry && later.cursor?.isSome
      | .error _ => false) = true := by
  decide +kernel

/-- The rule enters itself until sixteen scans wait, and the scan for which they wait moves on by the one
iteration that it completes. -/
theorem scan_ends_nesting :
    ∃ repository, Repository.compile nestingGrammar 1000 = .ok repository ∧
      let machine := nesting repository
      ∃ config later state state',
        machine.Reaches (nestingFirst repository) config ∧ config.callers.length = maxReentry ∧
        config.activity = .looking state ∧ state.cursor = 0 ∧
        machine.Turns maxReentry 1 config later ∧ later.activity = .looking state' ∧
        config.line.next 0 ≤ state'.cursor ∧
        ∃ scene, machine.Reaches later { line := Line.ofString "aa", activity := .ended scene } := by
  have hturns := nestingGrammar_turns
  split at hturns
  · next repository hcompile =>
    obtain ⟨⟨_, config⟩, hconfig, hturns⟩ := (Option.any_eq_true _ _).mp hturns
    simp only [Bool.and_eq_true, decide_eq_true_eq] at hturns
    obtain ⟨⟨hfull, hcursor⟩, hturns⟩ := hturns
    obtain ⟨⟨_, later⟩, hlater, hturns⟩ := (Option.any_eq_true _ _).mp hturns
    simp only [Bool.and_eq_true, decide_eq_true_eq] at hturns
    obtain ⟨⟨rfl, hdepth⟩, hlooks⟩ := hturns
    obtain ⟨state, hlooking, hstart⟩ := activity_of_cursor? hcursor
    obtain ⟨state', hlooking', _⟩ :=
      activity_of_cursor? (Option.some_get hlooks).symm
    have hreach := (turns_of_turnsAfter hconfig).reaches
    have hturns := turns_of_turnsAfter hlater
    obtain ⟨⟨scene, _, _, hends, _⟩, hrun, _⟩ := scan_ends (nesting repository) (Line.ofString "aa") 0 none
      (.fresh repository) { sink := { merge := true } }
    obtain ⟨_, _, _, hmoves⟩ := (hrun config hreach).2 state 1 later state' hlooking (hfull ▸ hturns)
      hlooking' (hdepth.trans hfull.symm) Nat.zero_lt_one
    refine ⟨repository, hcompile, config, later, state, state', hreach, hfull, hlooking, hstart, hturns,
      hlooking', ?_, scene, hends later (hreach.trans hturns.reaches)⟩
    rw [← hstart]
    exact hmoves (Line.zero_boundary _)
  · cases hturns

end Machine

end ScopeScanner
