import ScopeScanner.Proofs.Repository.Arena
import ScopeScanner.Proofs.Scanner.Ends
import ScopeScanner.Proofs.Scanner.Machine

/-!
# Rules that scans ask for

A scan asks for rules by their positions: that of the innermost frame, and those that its list comes to when
it is flattened. The positions come from the stack, from captures and from what the session has learned, so
it has to be shown that whatever a scan keeps holds positions of the row only.

* **`Machine.dependsOn_reads`**: a step asks for the rules at these positions alone (`Machine.reads`).
* **`Machine.step_within`**: a step keeps that all positions are positions of the row (`Machine.Config.Within`),
  those that waiting scans and captures hold included.
* **`Repository.arena_wellFormed`**: so no scan over a compiled grammar ever asks for a rule that is not there.
-/

namespace ScopeScanner

/-! ## What a step reads -/

/-- The end of a region depends on the budget of the repository, and on nothing else in it. -/
theorem Session.closing_eq_of_budget {repository repository' : Repository}
    (h : repository'.budget = repository.budget) (session : Session) (closing : EndPattern)
    (groups : Groups) (line : Line) :
    session.closing repository' closing groups line = session.closing repository closing groups line := by
  cases closing with
  | fixed pattern => rfl
  | template ending => rw [Session.closing, Session.closing, h]

/-- What competes depends on what flattening lists. -/
theorem Session.rules_eq_of_flatten {repository repository' : Repository} {id : RuleId}
    (h : repository'.flatten id = repository.flatten id) (session : Session) :
    session.rules repository' id = session.rules repository id := by
  unfold Session.rules Flattener.rules
  cases session.flattener.table[id]? with
  | some rules => rfl
  | none =>
    dsimp only
    rw [h]

/-- Repositories with the same rules at some positions, in which flattening comes to the same lists. -/
structure Repository.AgreesAt (ids : List RuleId) (repository' repository : Repository) : Prop where
  budget : repository'.budget = repository.budget
  flatten : ∀ id, repository'.flatten id = repository.flatten id
  rules : ∀ id ∈ ids, repository'.rule? id = repository.rule? id

namespace Machine

/-- The positions by which the next step may ask for rules: that of the innermost frame, and those of the
rules that compete. A region that ends belongs to the former, and the winner is among the latter. -/
def reads (machine : Machine) (config : Config) : List RuleId :=
  match config.activity with
  | .looking state => state.scene.stack.top.rule :: (machine.scan config.line).offered state.scene
  | .covering _ _ | .ended _ => []

/-- The machine over another repository. -/
def withRules (machine : Machine) (repository' : Repository) : Machine :=
  { machine with repository := repository' }

/-- A step asks for the rules at some positions only: it is the same step over any repository that agrees at
them. -/
def DependsOn (machine : Machine) (config : Config) (ids : List RuleId) : Prop :=
  ∀ repository' : Repository, repository'.AgreesAt ids machine.repository →
    (machine.withRules repository').step config = machine.step config

section Reads

variable {machine : Machine} {repository' : Repository} {line : Line} {state : Drive}

/-- The candidates are those of the rules that are read. -/
theorem candidates_eq_of_rules (stack : ScopeStack) (rules : List RuleId)
    (hrules : ∀ id ∈ stack.top.rule :: rules, repository'.rule? id = machine.repository.rule? id) :
    ((machine.withRules repository').scan line).candidates stack rules =
      (machine.scan line).candidates stack rules := by
  have htop : repository'.kind? stack.top.rule = machine.repository.kind? stack.top.rule :=
    congrArg (Option.map Rule.kind) (hrules _ List.mem_cons_self)
  have hinner : (rules.filterMap fun id => ((repository'.rule? id).bind Rule.pattern?).map fun pattern =>
        ({ target := .rule id, pattern } : Candidate)) =
      rules.filterMap fun id => ((machine.repository.rule? id).bind Rule.pattern?).map fun pattern =>
        ({ target := .rule id, pattern } : Candidate) :=
    List.filterMap_congr fun id hid => by rw [hrules id (List.mem_cons_of_mem _ hid)]
  rw [LineScan.candidates, LineScan.candidates]
  dsimp only [scan, withRules]
  rw [htop, hinner]

/-- The captures of the end of a rule are found in the rule. -/
theorem closingCaptures_eq_of_rule {id : RuleId}
    (h : repository'.rule? id = machine.repository.rule? id) :
    ((machine.withRules repository').scan line).closingCaptures id =
      (machine.scan line).closingCaptures id := by
  rw [LineScan.closingCaptures, LineScan.closingCaptures]
  dsimp only [scan, withRules, Repository.kind?]
  rw [h]

/-- What a begin leads to depends on the budget, for its end may have to be compiled. -/
theorem begun_eq_of_budget (h : repository'.budget = machine.repository.budget) (rule : Rule)
    (region : Region) (groups : Groups) (captured : Scene) :
    ((machine.withRules repository').scan line).begun rule region groups captured =
      (machine.scan line).begun rule region groups captured := by
  have hclosing := captured.emission.session.closing_eq_of_budget h region.closing groups line
  rw [LineScan.begun, LineScan.begun]
  dsimp only [scan, withRules]
  rw [hclosing]
  rfl

section Agreeing

variable (h : repository'.AgreesAt
  (machine.reads { line, activity := .looking state }) machine.repository)
include h

/-- The same rules compete, and the session learns the same. -/
theorem rules_eq_of_agreesAt :
    state.scene.emission.session.rules repository' state.scene.stack.top.rule =
      state.scene.emission.session.rules machine.repository state.scene.stack.top.rule :=
  Session.rules_eq_of_flatten (h.flatten _) _

theorem looked_eq_of_agreesAt :
    ((machine.withRules repository').scan line).looked state.scene =
      (machine.scan line).looked state.scene := by
  rw [LineScan.looked, LineScan.looked]
  dsimp only [scan, withRules]
  rw [rules_eq_of_agreesAt h]

theorem approached_eq_of_agreesAt (groups : Groups) :
    ((machine.withRules repository').scan line).approached state groups =
      (machine.scan line).approached state groups := by
  rw [LineScan.approached, LineScan.approached, looked_eq_of_agreesAt h]

theorem winner?_eq_of_agreesAt :
    ((machine.withRules repository').scan line).winner? state = (machine.scan line).winner? state := by
  have hoffered : ((machine.withRules repository').scan line).offered state.scene =
      (machine.scan line).offered state.scene := congrArg Prod.fst (rules_eq_of_agreesAt h)
  rw [LineScan.winner?, LineScan.winner?, hoffered, candidates_eq_of_rules _ _ h.rules]
  rfl

/-- What a scan finds out depends on the rules that are read. By cases on what has won: nothing, the end of
the region, or a rule that competes. -/
theorem plan_eq_of_agreesAt :
    ((machine.withRules repository').scan line).plan state = (machine.scan line).plan state := by
  rw [LineScan.plan, LineScan.plan, winner?_eq_of_agreesAt h]
  cases hfound : (machine.scan line).winner? state with
  | none =>
    dsimp only
    rw [looked_eq_of_agreesAt h]
    rfl
  | some winner =>
    obtain ⟨target, groups⟩ := winner
    dsimp only
    rw [approached_eq_of_agreesAt h]
    cases target with
    | regionEnd =>
      have hcaptures : ((machine.withRules repository').scan line).closingCaptures
          ((machine.scan line).approached state groups).stack.top.rule =
          (machine.scan line).closingCaptures
            ((machine.scan line).approached state groups).stack.top.rule :=
        closingCaptures_eq_of_rule (h.rules state.scene.stack.top.rule List.mem_cons_self)
      dsimp only
      rw [hcaptures]
    | rule id =>
      have hid : id ∈ (machine.scan line).offered state.scene := by
        rcases LineScan.winner?_eq_some hfound with ⟨hend, _⟩ | ⟨id', hid, hstands, _⟩
        · cases hend
        · obtain rfl := Target.rule.inj hstands
          exact hid
      have hrule : ((machine.withRules repository').scan line).repository.rule? id =
          (machine.scan line).repository.rule? id := h.rules id (List.mem_cons_of_mem _ hid)
      dsimp only
      rw [hrule]
      cases (machine.scan line).repository.rule? id with
      | none => rfl
      | some rule =>
        dsimp only
        cases rule.kind with
        | region region =>
          simp only [begun_eq_of_budget h.budget]
          rfl
        | _ => rfl

end Agreeing

/-- **A step asks for no rules but those at the positions that it reads.** -/
theorem dependsOn_reads (machine : Machine) (config : Config) :
    machine.DependsOn config (machine.reads config) := by
  intro repository' h
  obtain ⟨line, activity, callers⟩ := config
  cases activity with
  | covering state covering => rfl
  | ended scene => rfl
  | looking state =>
    rw [step, step, look, look, plan_eq_of_agreesAt h]
    rfl

end Reads

end Machine

/-! ## What scans keep -/

/-- All frames of a stack hold positions of the row. -/
structure ScopeStack.Within (repository : Repository) (stack : ScopeStack) : Prop where
  bottom : stack.bottom.rule < repository.rules.size
  regions : ∀ frame ∈ stack.regions, frame.rule < repository.rules.size

namespace ScopeStack.Within

variable {repository : Repository} {stack : ScopeStack}

theorem top (h : stack.Within repository) : stack.top.rule < repository.rules.size := by
  obtain ⟨bottom, regions⟩ := stack
  cases regions with
  | nil => exact h.bottom
  | cons frame rest => exact h.regions frame List.mem_cons_self

theorem push (h : stack.Within repository) {frame : Frame} (hframe : frame.rule < repository.rules.size) :
    (stack.push frame).Within repository :=
  ⟨h.bottom, List.forall_mem_cons.mpr ⟨hframe, h.regions⟩⟩

/-- Regions may leave. -/
theorem subset (h : stack.Within repository) {stack' : ScopeStack}
    (hbottom : stack'.bottom = stack.bottom) (hregions : stack'.regions ⊆ stack.regions) :
    stack'.Within repository :=
  ⟨hbottom ▸ h.bottom, fun frame hmem => h.regions frame (hregions hmem)⟩

theorem clearAnchors (h : stack.Within repository) : stack.clearAnchors.Within repository where
  bottom := h.bottom
  regions := by
    intro frame hmem
    obtain ⟨other, hother, rfl⟩ := List.mem_map.mp hmem
    exact h.regions other hother

end ScopeStack.Within

/-- All positions that a scene holds are positions of the row, those that its session has learned included. -/
structure Scene.Within (repository : Repository) (scene : Scene) : Prop where
  stack : scene.stack.Within repository
  sound : scene.Sound repository

/-- Captures hold positions of the row. -/
def CaptureMap.Within (repository : Repository) (captures : CaptureMap) : Prop :=
  ∀ target ∈ captures.rules, target < repository.rules.size

/-- So do those of a match that is being covered, and what the scan goes on with. -/
structure Covering.Within (repository : Repository) (covering : Covering) : Prop where
  captures : covering.captures.Within repository
  sound : covering.emission.session.Sound repository
  finish : ∀ emission, emission.session.Sound repository → (covering.finish emission).Within repository

def Response.Within (repository : Repository) : Response → Prop
  | .unmatched scene | .matched scene _ _ _ => scene.Within repository

def Plan.Within (repository : Repository) : Plan → Prop
  | .settled response => response.Within repository
  | .cover covering => covering.Within repository

/-! ## What covers a match leaves the session alone -/

section Session

variable {covering : Covering}

theorem closeGroups_session (position : Nat) (opened : List OpenGroup) (emission : Emission) :
    (closeGroups position opened emission).2.session = emission.session := by
  induction opened generalizing emission with
  | nil => rfl
  | cons group rest ih =>
    rw [closeGroups]
    split
    · exact ih _
    · rfl

theorem closeAllGroups_session (opened : List OpenGroup) (emission : Emission) :
    (closeAllGroups opened emission).session = emission.session := by
  induction opened generalizing emission with
  | nil => rfl
  | cons group rest ih => exact ih _

theorem Covering.close_session (covering : Covering) :
    covering.close.session = covering.emission.session :=
  closeAllGroups_session covering.opened covering.emission

theorem Covering.visit_session (covering : Covering) (entered : Bool) (number : Nat) (capture : Capture) :
    (covering.visit entered number capture).emission.session = covering.emission.session := by
  rw [visit]
  cases covering.groups.clipped? number with
  | none => rfl
  | some span =>
    have hclosed := closeGroups_session span.start covering.opened covering.emission
    dsimp only
    split
    · rfl
    · split <;> exact hclosed

/-- The text of a capture is scanned with the group that the capture holds. -/
theorem Covering.inner_eq {entered : Bool} {number : Nat} {capture : Capture} {span : Span}
    {stack : ScopeStack} (h : (covering.visit entered number capture).inner = some (span, stack)) :
    capture.rule = some stack.bottom.rule ∧ stack.regions = [] := by
  rw [visit] at h
  cases hspan : covering.groups.clipped? number with
  | none =>
    rw [hspan] at h
    cases h
  | some clipped =>
    rw [hspan] at h
    dsimp only at h
    split at h
    · cases h
    · cases hrule : capture.rule <;> cases entered <;> rw [hrule] at h <;> cases h
      exact ⟨rfl, rfl⟩

end Session

namespace Covering.Within

variable {repository : Repository} {covering : Covering} {number : Nat} {capture : Capture}
  {rest : CaptureMap}

/-- A match with one more capture looked at holds no other positions. -/
theorem visited (h : covering.Within repository) (hcaptures : covering.captures = (number, capture) :: rest)
    (entered : Bool) : (covering.visited (covering.visit entered number capture) rest).Within repository where
  captures := by
    intro target hmem
    obtain ⟨entry, hentry, hrule⟩ := List.mem_filterMap.mp hmem
    have hmem : entry ∈ covering.captures := hcaptures ▸ List.mem_cons_of_mem _ hentry
    exact h.captures target (List.mem_filterMap.mpr ⟨entry, hmem, hrule⟩)
  sound := (covering.visit_session entered number capture).symm ▸ h.sound
  finish := h.finish

/-- The scan of the text of a capture starts inside the row. -/
theorem inner (h : covering.Within repository) (hcaptures : covering.captures = (number, capture) :: rest)
    {entered : Bool} {span : Span} {stack : ScopeStack}
    (hvisit : (covering.visit entered number capture).inner = some (span, stack)) :
    stack.Within repository := by
  obtain ⟨hrule, hregions⟩ := inner_eq hvisit
  have hmem : (number, capture) ∈ covering.captures := hcaptures ▸ List.mem_cons_self
  exact ⟨h.captures _ (List.mem_filterMap.mpr ⟨_, hmem, hrule⟩), by simp [hregions]⟩

end Covering.Within

namespace LineScan

/-- What follows a step leaves the session alone. -/
theorem settle_session (scan : LineScan) (state : Drive) (scene : Scene) (stop : Nat)
    (forced unwind : Bool) :
    (scan.settle state scene stop forced unwind).scene.emission.session = scene.emission.session := by
  have hforce (cursor : Nat) (unwind : Bool) (scene : Scene) :
      (scan.force cursor unwind scene).scene.emission.session = scene.emission.session := by
    cases unwind with
    | false => rfl
    | true =>
      show (scene.dropRegions (scene.stack.depth - scene.settled)).emission.session = _
      rw [(scene.dropRegions_frame _).2]
  rw [settle]
  split
  · split
    · exact hforce _ _ _
    · rfl
  · dsimp only
    split
    · exact hforce _ _ _
    · rfl

variable {repository : Repository} {scan : LineScan} {scene : Scene}

theorem settle_within (h : scene.Within repository) (state : Drive) (stop : Nat) (forced unwind : Bool) :
    (scan.settle state scene stop forced unwind).scene.Within repository := by
  obtain ⟨count, hbottom, hregions⟩ := scan.settle_stack state scene stop forced unwind
  refine ⟨h.stack.subset hbottom (hregions ▸ List.drop_subset _ _), ?_⟩
  rw [Scene.Sound, settle_session]
  exact h.sound

theorem leave_within (h : scene.Within repository) (cursor : Nat) :
    (scan.leave cursor scene).Within repository := by
  have hsession : (scan.leave cursor scene).emission.session = scene.emission.session := by
    rw [leave]
    split <;> rfl
  refine ⟨scan.leave_stack cursor scene ▸ h.stack, ?_⟩
  rw [Scene.Sound, hsession]
  exact h.sound

theorem ended_within (h : scene.Within repository) : (ended scene).Within repository := by
  obtain ⟨⟨bottom, regions⟩, anchor, emptyPush, settled, emission⟩ := scene
  cases regions with
  | nil => exact ⟨h.stack, h.sound⟩
  | cons frame rest => exact ⟨h.stack.subset rfl (List.subset_cons_self _ _), h.sound⟩

theorem begun_within {rule : Rule} (hrule : rule.id < scan.repository.rules.size)
    (h : scene.Within scan.repository) (region : Region) (groups : Groups) :
    (scan.begun rule region groups scene).Within scan.repository :=
  ⟨h.stack.push hrule, (h.sound.closing region.closing groups scan.line).2⟩

section Arena

variable (harena : scan.repository.Arena)
include harena

/-- Captures that stand in a rule hold positions of the row. -/
theorem captures_within {id : RuleId} {rule : Rule} (hrule : scan.repository.rule? id = some rule)
    {captures : CaptureMap} (hcaptures : captures.rules ⊆ rule.kind.captureRules) :
    captures.Within scan.repository := fun target hmem =>
  Nat.lt_trans (harena.captured id rule hrule target (hcaptures hmem)).1
    (Repository.lt_size_of_rule? hrule)

theorem closingCaptures_within (id : RuleId) : (scan.closingCaptures id).Within scan.repository := by
  rw [closingCaptures]
  split
  · next region hkind =>
    obtain ⟨rule, hrule, hkind⟩ := Option.map_eq_some_iff.mp hkind
    refine captures_within harena hrule ?_
    rw [hkind]
    exact List.subset_append_right _ _
  · intro target hmem
    cases hmem

/-- **What a scan finds out holds positions of the row.** A match is covered while the stack stays as it
is, so the scene behind it is inside the row if the session is sound by then. -/
theorem plan_within {state : Drive} (h : state.scene.Within scan.repository) :
    (scan.plan state).Within scan.repository := by
  have hsession := (h.sound.rules state.scene.stack.top.rule).2
  have hlooked : (scan.looked state.scene).Within scan.repository := ⟨h.stack, hsession⟩
  have hcovered (groups : Groups) (emission : Emission)
      (hsound : emission.session.Sound scan.repository) :
      Scene.Within scan.repository { scan.approached state groups with emission } := ⟨h.stack, hsound⟩
  have happroached (groups : Groups) : (scan.approached state groups).Within scan.repository :=
    hcovered groups _ hsession
  rw [plan]
  cases scan.winner? state with
  | none => exact leave_within hlooked _
  | some winner =>
    obtain ⟨target, groups⟩ := winner
    cases target with
    | regionEnd => exact ⟨closingCaptures_within harena _, hsession, fun emission hsound =>
        ended_within (hcovered groups emission hsound)⟩
    | rule id =>
      dsimp only
      cases hrule : scan.repository.rule? id with
      | none => exact happroached groups
      | some rule =>
        dsimp only
        cases hkind : rule.kind with
        | simple pattern captures =>
          exact ⟨captures_within harena hrule (hkind ▸ List.Subset.refl _), hsession,
            hcovered groups⟩
        | region region =>
          dsimp only
          split
          · exact happroached groups
          · have hid : rule.id < scan.repository.rules.size :=
              harena.numbered id rule hrule ▸ Repository.lt_size_of_rule? hrule
            exact ⟨captures_within harena hrule (hkind ▸ List.subset_append_left _ _), hsession,
              fun emission hsound => begun_within hid (hcovered groups emission hsound) region groups⟩
        | _ => exact happroached groups

end Arena

end LineScan

namespace Machine

/-- All positions that a scan holds are positions of the row. -/
def Activity.Within (repository : Repository) : Activity → Prop
  | .looking state => state.scene.Within repository
  | .covering _ found => found.Within repository
  | .ended scene => scene.Within repository

/-- So are those of the scans that wait. -/
structure Config.Within (repository : Repository) (config : Config) : Prop where
  activity : config.activity.Within repository
  callers : ∀ caller ∈ config.callers, caller.covering.Within repository

variable {machine : Machine}

theorem goOn_within {line : Line} {response : Response} (h : response.Within machine.repository)
    (state : Drive) : (machine.goOn line state response).Within machine.repository := by
  cases response with
  | unmatched scene => exact h
  | matched scene stop forced unwind => exact LineScan.settle_within h state stop forced unwind

theorem look_within (harena : machine.repository.Arena) {state : Drive}
    (h : state.scene.Within machine.repository) (line : Line) :
    (machine.look line state).Within machine.repository := by
  have hplan : ((machine.scan line).plan state).Within machine.repository :=
    LineScan.plan_within harena h
  rw [look]
  split
  · cases hfound : (machine.scan line).plan state with
    | settled response =>
      rw [hfound] at hplan
      exact goOn_within hplan state
    | cover covering =>
      rw [hfound] at hplan
      exact hplan
  · exact h

/-- **A step keeps inside the row.** A scan looks for a match, visits a capture of one, or returns to the
scan that waits for it. -/
theorem step_within (harena : machine.repository.Arena) {config next : Config}
    (h : config.Within machine.repository) (hstep : machine.step config = some next) :
    next.Within machine.repository := by
  obtain ⟨line, activity, callers⟩ := config
  obtain ⟨hactivity, hcallers⟩ := h
  cases activity with
  | looking state =>
    obtain rfl := Option.some.inj hstep
    exact ⟨look_within harena hactivity line, hcallers⟩
  | covering state covering =>
    cases hcaptures : covering.captures with
    | nil =>
      simp only [step, hcaptures] at hstep
      obtain rfl := Option.some.inj hstep
      have hclosed : (covering.response covering.close).Within machine.repository :=
        hactivity.finish _ (covering.close_session ▸ hactivity.sound)
      exact ⟨goOn_within hclosed state, hcallers⟩
    | cons entry rest =>
      obtain ⟨number, capture⟩ := entry
      have hvisited := Covering.Within.visited hactivity hcaptures (callers.length < maxReentry)
      simp only [step, hcaptures] at hstep
      split at hstep
      · obtain rfl := Option.some.inj hstep
        exact ⟨hvisited, hcallers⟩
      · next span stack hvisit =>
        obtain rfl := Option.some.inj hstep
        exact ⟨⟨Covering.Within.inner hactivity hcaptures hvisit, hvisited.sound⟩,
          List.forall_mem_cons.mpr ⟨hvisited, hcallers⟩⟩
  | ended scene =>
    cases callers with
    | nil => cases hstep
    | cons caller callers =>
      obtain rfl := Option.some.inj hstep
      obtain ⟨hcaller, hcallers⟩ := List.forall_mem_cons.mp hcallers
      exact ⟨⟨hcaller.captures, hactivity.sound, hcaller.finish⟩, hcallers⟩

/-- So does a run. -/
theorem Reaches.within (harena : machine.repository.Arena) {config last : Config}
    (hreaches : machine.Reaches config last) (h : config.Within machine.repository) :
    last.Within machine.repository := by
  induction hreaches with
  | refl => exact h
  | step hstep _ ih => exact ih (step_within harena h hstep)

/-- **Whatever a step reads is inside the row.** -/
theorem lt_of_mem_reads (harena : machine.repository.Arena) {config : Config}
    (h : config.Within machine.repository) {id : RuleId} (hmem : id ∈ machine.reads config) :
    id < machine.repository.rules.size := by
  obtain ⟨line, activity, callers⟩ := config
  cases activity with
  | looking state =>
    have hwithin : state.scene.Within machine.repository := h.activity
    rcases List.mem_cons.mp hmem with rfl | hmem
    · exact hwithin.stack.top
    · have hoffered : (machine.scan line).offered state.scene =
          machine.repository.flatten state.scene.stack.top.rule :=
        LineScan.offered_of_sound hwithin.sound
      rw [hoffered] at hmem
      exact harena.lt_of_mem_flatten hmem
  | covering state covering => cases hmem
  | ended scene => cases hmem

end Machine

/-! ## Scans from stacks that were built -/

/-- Stacks built from a repository: a fresh one, what rules of the repository are pushed on and regions are
popped off, and what a scan ends with. -/
inductive Repository.Built (repository : Repository) : ScopeStack → Prop
  | fresh : Built repository (.fresh repository)
  | push {stack : ScopeStack} {frame : Frame} {rule : Rule} (h : Built repository stack)
      (hrule : repository.rule? frame.rule = some rule) : Built repository (stack.push frame)
  | pop {stack stack' : ScopeStack} {frame : Frame} (h : Built repository stack)
      (hpop : stack.pop? = some (frame, stack')) : Built repository stack'
  | ended (settings : ScannerSettings) {session : Session} (hsession : session.Sound repository)
      (text : String) {state : Option ScopeStack}
      (h : Built repository (state.getD (.fresh repository))) :
      Built repository (repository.scan settings session text state).1.endState

/-- A scan that asks only for rules that are there: in every step along every line, those of scans of groups
included, and for the remarks on regions that are left open. -/
structure Repository.ScansInside (repository : Repository) (settings : ScannerSettings)
    (session : Session) (text : String) (state : Option ScopeStack) : Prop where
  steps : ∀ before chars after, Text.lines text.toList = before ++ chars :: after →
    let progress := before.foldl (repository.scanNextLine settings.stallLimit)
      (.begin settings session (state.getD (.fresh repository)))
    let machine : Machine := { repository, stallLimit := settings.stallLimit, offset := progress.offset }
    let line := Line.ofChars (terminated chars)
    let first : Machine.Config := { line, activity := .looking (progress.lineStart chars) }
    (∃ scene, machine.Reaches first { line, activity := .ended scene } ∧
      repository.scanNextLine settings.stallLimit progress chars =
        { offset := progress.offset + Line.byteCount chars
          stack := scene.stack
          emission := scene.emission }) ∧
      ∀ config, machine.Reaches first config →
        machine.DependsOn config (machine.reads config) ∧
          ∀ id ∈ machine.reads config, id < repository.rules.size
  remarks : ∀ frame ∈ (repository.scan settings session text state).1.endState.regions,
    frame.rule < repository.rules.size

namespace Repository

variable {repository : Repository}

section Inside

variable (harena : repository.Arena)
include harena

/-- The scan of a line starts inside the row, and ends there. -/
theorem scanNextLine_inside (stallLimit : Nat) (progress : ScanProgress)
    (hstack : progress.stack.Within repository) (hsound : progress.emission.session.Sound repository)
    (chars : List Char) :
    let machine : Machine := { repository, stallLimit, offset := progress.offset }
    let line := Line.ofChars (terminated chars)
    let first : Machine.Config := { line, activity := .looking (progress.lineStart chars) }
    first.Within repository ∧
      ∃ scene, machine.Reaches first { line, activity := .ended scene } ∧ scene.Within repository ∧
        repository.scanNextLine stallLimit progress chars =
          { offset := progress.offset + Line.byteCount chars
            stack := scene.stack
            emission := scene.emission } := by
  intro machine line first
  have hfirst : first.Within machine.repository := ⟨⟨hstack.clearAnchors, hsound⟩, List.forall_mem_nil _⟩
  let scene := (repository.lineScan stallLimit progress chars).drive (progress.lineStart chars)
  have hreaches : machine.Reaches first { line, activity := .ended scene } :=
    machine.runs maxReentry line (progress.lineStart chars) [] (Nat.zero_add _)
  exact ⟨hfirst, scene, hreaches, (hreaches.within harena hfirst).activity,
    repository.scanNextLine_eq stallLimit progress chars⟩

/-- Line after line a scan keeps inside the row. -/
theorem foldl_within (stallLimit : Nat) (lines : List (List Char))
    (progress : ScanProgress) (hstack : progress.stack.Within repository)
    (hsound : progress.emission.session.Sound repository) :
    let reached := lines.foldl (repository.scanNextLine stallLimit) progress
    reached.stack.Within repository ∧ reached.emission.session.Sound repository := by
  induction lines generalizing progress with
  | nil => exact ⟨hstack, hsound⟩
  | cons chars rest ih =>
    obtain ⟨_, scene, _, hscene, hnext⟩ := scanNextLine_inside harena stallLimit progress hstack hsound chars
    rw [List.foldl_cons, hnext]
    exact ih _ hscene.stack hscene.sound

/-- So does a scan as a whole. -/
theorem endState_within (settings : ScannerSettings) {session : Session}
    (hsession : session.Sound repository) (text : String) {state : Option ScopeStack}
    (hstack : (state.getD (.fresh repository)).Within repository) :
    (repository.scan settings session text state).1.endState.Within repository :=
  (foldl_within harena settings.stallLimit (Text.lines text.toList)
    (.begin settings session (state.getD (.fresh repository))) hstack hsession).1

/-- A stack that was built holds positions of the row only. -/
theorem Built.within {stack : ScopeStack} (h : repository.Built stack) : stack.Within repository := by
  induction h with
  | fresh => exact ⟨harena.root_lt, nofun⟩
  | push _ hrule ih => exact ih.push (lt_size_of_rule? hrule)
  | @pop stack _ _ _ hpop ih =>
    obtain ⟨bottom, regions⟩ := stack
    cases regions with
    | nil => cases hpop
    | cons frame rest =>
      cases hpop
      exact ih.subset rfl (List.subset_cons_self _ _)
  | ended settings hsession text _ ih => exact endState_within harena settings hsession text ih

/-- A scan from such a stack asks only for rules that are there. -/
theorem Built.scansInside (settings : ScannerSettings) {session : Session}
    (hsession : session.Sound repository) (text : String) {state : Option ScopeStack}
    (h : repository.Built (state.getD (.fresh repository))) :
    repository.ScansInside settings session text state where
  steps := by
    intro before chars after _ progress machine line first
    obtain ⟨hstack, hsound⟩ := foldl_within harena settings.stallLimit before
      (.begin settings session (state.getD (.fresh repository))) (h.within harena) hsession
    obtain ⟨hfirst, scene, hreaches, _, hnext⟩ :=
      scanNextLine_inside harena settings.stallLimit progress hstack hsound chars
    exact ⟨⟨scene, hreaches, hnext⟩, fun config hconfig => ⟨machine.dependsOn_reads config,
      fun id hmem => Machine.lt_of_mem_reads harena (hconfig.within harena hfirst) hmem⟩⟩
  remarks := (endState_within harena settings hsession text (h.within harena)).regions

end Inside

/-- **The row of a compiled grammar is well formed.** Each rule knows its position and holds only positions
before it, those of its captures being positions of groups; the last rule stands for the grammar; the keys of
the repository lead to the rules with these keys. So no rule is written inside itself, and no lookup, no
flattening and no scan from a stack that was built from the repository asks for a rule that is not there. -/
theorem arena_wellFormed {grammar : Grammar} {budget : Nat}
    (h : compile grammar budget = .ok repository) :
    repository.Arena ∧
    (∀ key, (repository.names.lookup key).isSome = true ↔ key ∈ grammar.repository.map (·.1)) ∧
    (∀ id, ¬ Relation.TransGen repository.Inside id id) ∧
    (∀ reference, repository.Held reference → ∀ id, repository.target? reference = some id →
      ∃ rule, repository.lookup? reference = some rule ∧ rule.id = id) ∧
    (∀ id < repository.rules.size, repository.flattenWithin? id = some (repository.flatten id)) ∧
    ∀ (settings : ScannerSettings) (session : Session) (text : String) (state : Option ScopeStack),
      session.Sound repository → repository.Built (state.getD (.fresh repository)) →
        repository.ScansInside settings session text state := by
  obtain ⟨harena, hkeys⟩ := compile_arena h
  exact ⟨harena, hkeys, harena.not_transGen, fun reference hheld id => harena.lookup?_found hheld,
    fun id => harena.flattenWithin?_eq,
    fun settings session text state hsession hbuilt => hbuilt.scansInside harena settings hsession text⟩

/-- A tag in angle brackets, whose name is covered by rules of its own at both ends. -/
def tagGrammar : Grammar where
  scopeName := "source.t"
  repository := [("word", { pattern := some "a" }), ("tag", {
    opening := some "<(b)>"
    closing := some "<(c)>"
    captures := [("1", { patterns := [{ reference := some "#word" }, { pattern := some "b" }] })]
    patterns := [{ reference := some "$self" }] })]
  patterns := [{ reference := some "#tag" }, { patterns := [{ pattern := some "d" }] }]

/-- The captures are compiled twice: behind the entry `word` stand a rule and its group for either end, and
only then the tag. -/
theorem tagGrammar_compiles :
    (match compile tagGrammar 1000 with
      | .ok repository => repository.rules.size = 9 && repository.names.lookup "tag" == some 5 &&
          repository.root = 8
      | .error _ => false) = true := by
  decide +kernel

/-- A scan of an open tag, and of what follows it. -/
theorem arena_wellFormed_tag :
    ∃ repository, compile tagGrammar 1000 = .ok repository ∧ repository.Arena ∧
      repository.names.lookup "tag" = some 5 ∧ repository.root = 8 ∧
      (∃ rule, repository.lookup? (.named "tag") = some rule ∧ rule.id = 5) ∧
      repository.flattenWithin? 8 = some (repository.flatten 8) ∧
      repository.ScansInside {} {} "<b>\n" none ∧
      repository.ScansInside {} {} "d<c>" (some (repository.scan {} {} "<b>\n" none).1.endState) := by
  have hcompiles := tagGrammar_compiles
  split at hcompiles
  · next repository hcompile =>
    simp only [Bool.and_eq_true, decide_eq_true_eq, beq_iff_eq] at hcompiles
    obtain ⟨⟨hsize, htag⟩, hroot⟩ := hcompiles
    obtain ⟨harena, _, _, hlookup, hflatten, hscans⟩ := arena_wellFormed hcompile
    exact ⟨repository, hcompile, harena, htag, hroot, hlookup (.named "tag") nofun 5 htag,
      hflatten 8 (by omega), hscans {} {} "<b>\n" none (.new repository) .fresh,
      hscans {} {} "d<c>" (some _) (.new repository) (.ended {} (.new repository) "<b>\n" .fresh)⟩
  · cases hcompiles

end Repository

end ScopeScanner
