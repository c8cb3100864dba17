import ScopeScanner.Proofs.Repository.Reordering
import ScopeScanner.Proofs.Scanner.Learning
import ScopeScanner.Proofs.Scanner.Parallel

/-!
# Scans over renumbered repositories

Two repositories hold the same rules at other positions. A scan keeps positions in the frames of its
stack and in what its session has learned, but what it gives out does not show them:

* `Repository.Renumbered.flatten`: the same rules compete inside a rule, in the same order.
* `LineScan.respond_renumbered`: from stacks with the same frames, but for the positions of their rules,
  both scans give the same response.
* **`Repository.foldl_renumbered`**: so both give out the same from line to line.
-/

namespace ScopeScanner

/-! ## Flattened lists -/

/-- The collected rules with their positions renumbered. -/
def Flat.renumbered (move : RuleId → RuleId) (flat : Flat) : Flat where
  entered := flat.entered.map move
  rules := flat.rules.map move

theorem contains_renumbered {move : RuleId → RuleId} (hmove : Function.Injective move)
    (ids : List RuleId) (id : RuleId) : (ids.map move).contains (move id) = ids.contains id := by
  rw [Bool.eq_iff_iff, List.contains_iff_mem, List.contains_iff_mem, List.mem_map]
  constructor
  · rintro ⟨other, hother, heq⟩
    exact hmove heq ▸ hother
  · intro hid
    exact ⟨id, hid, rfl⟩

@[simp] theorem Rule.renumbered_pattern? (move : RuleId → RuleId) (rule : Rule) :
    (rule.renumbered move).pattern? = rule.pattern? := by
  unfold Rule.pattern? Rule.renumbered
  cases rule.kind <;> rfl

theorem Rule.renumbered_patterns (move : RuleId → RuleId) (rule : Rule) :
    (rule.renumbered move).patterns = rule.patterns.map (RuleRef.renumbered move) := by
  unfold Rule.patterns Rule.renumbered
  cases rule.kind <;> rfl

namespace Repository.Renumbered

variable {move : RuleId → RuleId} {repository repository' : Repository}

theorem kind? (h : Renumbered move repository repository') (id : RuleId) :
    repository'.kind? (move id) = (repository.kind? id).map (RuleKind.renumbered move) := by
  unfold Repository.kind?
  rw [h.rules, Option.map_map, Option.map_map]
  rfl

theorem lookup? (h : Renumbered move repository repository') (reference : RuleRef) :
    repository'.lookup? (reference.renumbered move) =
      (repository.lookup? reference).map (Rule.renumbered move) := by
  cases reference with
  | named name =>
    show (repository'.names.lookup name).bind repository'.rule? = Option.map _
      ((repository.names.lookup name).bind repository.rule?)
    rw [h.names]
    cases repository.names.lookup name with
    | none => rfl
    | some id => exact h.rules id
  | root =>
    show repository'.rule? repository'.root = _
    rw [h.root]
    exact h.rules repository.root
  | inline id => exact h.rules id

/-- The rules that are reachable from a list are the same. By induction on the levels entered, and on
the list within a level. -/
theorem expand (h : Renumbered move repository repository') (fuel : Nat) :
    ∀ (references : List RuleRef) (flat : Flat),
      Flat.expand repository' fuel (references.map (RuleRef.renumbered move)) (flat.renumbered move) =
        (Flat.expand repository fuel references flat).renumbered move := by
  induction fuel with
  | zero => exact fun _ _ => rfl
  | succ fuel ihFuel =>
    intro references flat
    unfold Flat.expand
    induction references generalizing flat with
    | nil => rfl
    | cons reference rest ih =>
      rw [List.map_cons, List.foldl_cons, List.foldl_cons, h.lookup? reference]
      cases repository.lookup? reference with
      | none => exact ih flat
      | some rule =>
        have hentered : (flat.renumbered move).entered.contains (move rule.id) =
            flat.entered.contains rule.id := contains_renumbered h.injective flat.entered rule.id
        dsimp only [Option.map_some, Rule.renumbered]
        cases rule.kind with
        | simple pattern captures => exact ih { flat with rules := rule.id :: flat.rules }
        | region region => exact ih { flat with rules := rule.id :: flat.rules }
        | group patterns =>
          -- a list that has been entered is not entered again, on either side
          dsimp only [RuleKind.renumbered]
          rw [hentered]
          cases flat.entered.contains rule.id with
          | true => exact ih flat
          | false =>
            have hrest := ih
              (Flat.expand repository fuel patterns { flat with entered := rule.id :: flat.entered })
            rw [← ihFuel] at hrest
            exact hrest
        | link target =>
          dsimp only [RuleKind.renumbered]
          rw [hentered]
          cases flat.entered.contains rule.id with
          | true => exact ih flat
          | false =>
            have hrest := ih
              (Flat.expand repository fuel [target] { flat with entered := rule.id :: flat.entered })
            rw [← ihFuel] at hrest
            exact hrest

/-- The same rules compete inside a rule. -/
theorem flatten (h : Renumbered move repository repository') (id : RuleId) :
    repository'.flatten (move id) = (repository.flatten id).map move := by
  have hpatterns : (repository'.rule? (move id)).elim [] Rule.patterns =
      ((repository.rule? id).elim [] Rule.patterns).map (RuleRef.renumbered move) := by
    rw [h.rules]
    cases repository.rule? id with
    | none => rfl
    | some rule => exact rule.renumbered_patterns move
  have hexpand := h.expand (repository.rules.size + 1)
    ((repository.rule? id).elim [] Rule.patterns) { entered := [id] }
  unfold Repository.flatten
  dsimp only
  rw [hpatterns, h.size, List.map_reverse]
  exact congrArg (fun flat : Flat => flat.rules.reverse) hexpand

end Repository.Renumbered

/-! ## Stacks -/

/-- The frame with the position of its rule renumbered. -/
def Frame.renumbered (move : RuleId → RuleId) (frame : Frame) : Frame :=
  { frame with rule := move frame.rule }

namespace ScopeStack

/-- The stack with the positions of all rules renumbered. -/
def renumbered (move : RuleId → RuleId) (stack : ScopeStack) : ScopeStack where
  bottom := stack.bottom.renumbered move
  regions := stack.regions.map (Frame.renumbered move)

variable (move : RuleId → RuleId) (stack : ScopeStack)

theorem renumbered_top : (stack.renumbered move).top = stack.top.renumbered move := by
  obtain ⟨bottom, regions⟩ := stack
  cases regions with
  | nil => rfl
  | cons frame rest => rfl

theorem renumbered_frames :
    (stack.renumbered move).frames = stack.frames.map (Frame.renumbered move) := by
  simp [frames, renumbered]

@[simp] theorem renumbered_depth : (stack.renumbered move).depth = stack.depth := by
  simp [depth, renumbered]

@[simp] theorem renumbered_scopes : (stack.renumbered move).scopes = stack.scopes := by
  unfold scopes
  rw [renumbered_frames, List.flatMap_map]
  rfl

@[simp] theorem renumbered_delimiterScopes :
    (stack.renumbered move).delimiterScopes = stack.delimiterScopes := by
  obtain ⟨bottom, regions⟩ := stack
  cases regions with
  | nil => rfl
  | cons frame rest =>
    have hrest := renumbered_scopes move ⟨bottom, rest⟩
    exact congrArg (· ++ frame.nameScopes) hrest

theorem renumbered_pop? : (stack.renumbered move).pop? =
    stack.pop?.map fun popped => (popped.1.renumbered move, popped.2.renumbered move) := by
  obtain ⟨bottom, regions⟩ := stack
  cases regions with
  | nil => rfl
  | cons frame rest => rfl

theorem renumbered_clearAnchors :
    (stack.renumbered move).clearAnchors = stack.clearAnchors.renumbered move := by
  simp [clearAnchors, renumbered, Frame.renumbered, Function.comp_def]

theorem renumbered_openedAt (start : Nat) : (stack.renumbered move).openedAt start =
    (stack.openedAt start).map (Frame.renumbered move) := by
  unfold openedAt
  rw [renumbered, List.takeWhile_map]
  rfl

/-- The second stack is the first one with the positions of all rules renumbered. -/
structure Renumbers (move : RuleId → RuleId) (stack stack' : ScopeStack) : Prop where
  eq : stack' = stack.renumbered move

theorem Aligned.renumbers (move : RuleId → RuleId) : Aligned (Renumbers move) where
  scopes := by
    rintro stack _ ⟨rfl⟩
    exact (stack.renumbered_scopes move).symm
  depth := by
    rintro stack _ ⟨rfl⟩
    exact (stack.renumbered_depth move).symm
  pop := by
    rintro stack _ ⟨rfl⟩
    rw [stack.renumbered_pop? move]
    cases stack.pop? with
    | none => exact Or.inl ⟨rfl, rfl⟩
    | some popped => exact Or.inr ⟨_, _, _, _, rfl, rfl, rfl, ⟨rfl⟩⟩

end ScopeStack

/-- A scan starts with the same frame. -/
theorem Repository.Renumbered.fresh {move : RuleId → RuleId} {repository repository' : Repository}
    (h : repository.Renumbered move repository') :
    ScopeStack.fresh repository' = (ScopeStack.fresh repository).renumbered move := by
  have hscopes : (repository'.rule? repository'.root).elim [] (·.scopes) =
      (repository.rule? repository.root).elim [] (·.scopes) := by
    rw [h.root, h.rules]
    cases repository.rule? repository.root with
    | none => rfl
    | some rule => rfl
  unfold ScopeStack.fresh
  rw [hscopes, h.root]
  rfl

/-! ## Competing patterns -/

/-- The target with the position of its rule renumbered. -/
def Target.renumbered (move : RuleId → RuleId) : Target → Target
  | regionEnd => .regionEnd
  | rule id => .rule (move id)

/-- The candidate with the position of its rule renumbered. -/
def Candidate.renumbered (move : RuleId → RuleId) (candidate : Candidate) : Candidate :=
  { candidate with target := candidate.target.renumbered move }

/-- The winner with the position of its rule renumbered. -/
def Winner.renumbered (move : RuleId → RuleId) (winner : Winner) : Winner :=
  { winner with target := winner.target.renumbered move }

theorem Candidate.renumbered_match? (move : RuleId → RuleId) (candidate : Candidate) (line : Line)
    (start : Nat) (atAnchor : Bool) : (candidate.renumbered move).match? line start atAnchor =
      (candidate.match? line start atAnchor).map (Winner.renumbered move) := by
  unfold match?
  cases hfound : candidate.pattern.findAt line start atAnchor with
  | error fault => simp [renumbered, hfound]
  | ok found =>
    cases found with
    | none => simp [renumbered, hfound]
    | some groups => simp [renumbered, hfound, Winner.renumbered]

/-- Who wins does not depend on the positions of rules. -/
theorem findAmong_renumbered (move : RuleId → RuleId) (line : Line) (start : Nat) (atAnchor : Bool)
    (candidates : List Candidate) (best : Option Winner) :
    findAmong line start atAnchor (candidates.map (Candidate.renumbered move))
        (best.map (Winner.renumbered move)) =
      (findAmong line start atAnchor candidates best).map (Winner.renumbered move) := by
  induction candidates generalizing best with
  | nil => rfl
  | cons candidate rest ih =>
    rw [List.map_cons, findAmong, findAmong, candidate.renumbered_match?]
    cases candidate.match? line start atAnchor with
    | none => exact ih best
    | some winner =>
      have hwinner := ih (some winner)
      -- only the places of the matches are compared
      cases best with
      | none =>
        by_cases hstart : winner.groups.whole.start = start
        · simp [Winner.renumbered, hstart]
        · simpa [Winner.renumbered, hstart] using hwinner
      | some best =>
        have hbest := ih (some best)
        by_cases hbetter : winner.groups.whole.start < best.groups.whole.start
        · by_cases hstart : winner.groups.whole.start = start
          · have hlt : start < best.groups.whole.start := hstart ▸ hbetter
            simp [Winner.renumbered, hstart, hlt]
          · simpa [Winner.renumbered, hbetter, hstart] using hwinner
        · simpa [Winner.renumbered, hbetter] using hbest

theorem findNext_renumbered (move : RuleId → RuleId) (candidates : List Candidate) (line : Line)
    (start : Nat) (atAnchor : Bool) :
    findNext (candidates.map (Candidate.renumbered move)) line start atAnchor =
      (findNext candidates line start atAnchor).map (Winner.renumbered move) :=
  findAmong_renumbered move line start atAnchor candidates none

/-! ## Steps of two scans -/

/-- Two emissions that have given out the same, each in a session that is sound for its repository. -/
structure Emission.Agrees (repository repository' : Repository) (emission emission' : Emission) :
    Prop where
  sink : emission'.sink = emission.sink
  diagnostics : emission'.diagnostics = emission.diagnostics
  sound : emission.session.Sound repository
  sound' : emission'.session.Sound repository'

namespace Emission.Agrees

variable {repository repository' : Repository} {emission emission' : Emission}

theorem produce (h : Agrees repository repository' emission emission') (stop : Nat)
    (scopes : List String) :
    Agrees repository repository' (emission.produce stop scopes) (emission'.produce stop scopes) :=
  ⟨congrArg (·.produce stop scopes) h.sink, h.diagnostics, h.sound, h.sound'⟩

theorem remark (h : Agrees repository repository' emission emission') (diagnostic : Diagnostic) :
    Agrees repository repository' (emission.remark diagnostic) (emission'.remark diagnostic) :=
  ⟨h.sink, congrArg (·.push diagnostic) h.diagnostics, h.sound, h.sound'⟩

end Emission.Agrees

/-- Two scenes that agree, but for the positions of rules and for what the sessions have learned. -/
abbrev Scene.Agrees (move : RuleId → RuleId) (repository repository' : Repository)
    (scene scene' : Scene) : Prop :=
  scene.InStep (ScopeStack.Renumbers move) (Emission.Agrees repository repository') scene'

/-- Two responses of the same kind, with scenes that agree. -/
abbrev Response.Agrees (move : RuleId → RuleId) (repository repository' : Repository)
    (response response' : Response) : Prop :=
  response.InStep (ScopeStack.Renumbers move) (Emission.Agrees repository repository') response'

/-- Two scans at the same position of a line, with scenes that agree. -/
abbrev Drive.Agrees (move : RuleId → RuleId) (repository repository' : Repository)
    (state state' : Drive) : Prop :=
  state.InStep (ScopeStack.Renumbers move) (Emission.Agrees repository repository') state'

/-- Two scans along the same line whose repositories hold the same rules at other positions. -/
structure LineScan.Renumbered (move : RuleId → RuleId) (scan scan' : LineScan) : Prop where
  repository : scan.repository.Renumbered move scan'.repository
  stallLimit : scan'.stallLimit = scan.stallLimit
  line : scan'.line = scan.line
  offset : scan'.offset = scan.offset
  reenter : Option.Rel (Reenter.Renumbered move scan.line
    (Emission.Agrees scan.repository scan'.repository)) scan.reenter scan'.reenter

namespace LineScan

variable {move : RuleId → RuleId} {scan scan' : LineScan} {scene scene' : Scene}

theorem Renumbered.parallel (hscan : scan.Renumbered move scan') :
    scan.Parallel (ScopeStack.Renumbers move) (Emission.Agrees scan.repository scan'.repository)
      scan' where
  line := hscan.line.symm
  aligned := .renumbers move
  produce := Emission.Agrees.produce
  remark := by
    intro emission emission' h p length
    rw [hscan.offset]
    exact h.remark _

theorem closingCaptures_renumbered (hscan : scan.Renumbered move scan') (id : RuleId) :
    scan'.closingCaptures (move id) = (scan.closingCaptures id).renumbered move := by
  unfold closingCaptures
  rw [hscan.repository.kind?]
  cases scan.repository.kind? id with
  | none => rfl
  | some kind => cases kind <;> rfl

theorem closed_renumbered (hscan : scan.Renumbered move scan') (groups : Groups)
    (h : scene.Agrees move scan.repository scan'.repository scene') :
    (scan.closed groups scene).Agrees move scan.repository scan'.repository
      (scan'.closed groups scene') := by
  have hcaptures : scan'.closingCaptures scene'.stack.top.rule =
      (scan.closingCaptures scene.stack.top.rule).renumbered move := by
    rw [h.stack.eq, ScopeStack.renumbered_top]
    exact closingCaptures_renumbered hscan scene.stack.top.rule
  have hscopes : scene'.stack.delimiterScopes = scene.stack.delimiterScopes := by
    rw [h.stack.eq, ScopeStack.renumbered_delimiterScopes]
  apply hscan.parallel.closed h.stack
  rw [hcaptures, hscopes]
  exact hscan.parallel.capture hscan.reenter groups _ _ h

/-- The repeat of a begin is refused on both sides or on none: positions of rules are exchanged one for
one. -/
theorem refuses_renumbered (hscan : scan.Renumbered move scan') (rule : Rule) (groups : Groups)
    (stack : ScopeStack) :
    scan'.refuses (rule.renumbered move) groups (stack.renumbered move) =
      scan.refuses rule groups stack := by
  have hsame (frame : Frame) : decide ((frame.renumbered move).rule = (rule.renumbered move).id) =
      decide (frame.rule = rule.id) :=
    decide_eq_decide.mpr hscan.repository.injective.eq_iff
  unfold refuses
  rw [hscan.offset, ScopeStack.renumbered_openedAt, List.any_map]
  simp only [Function.comp_def, hsame]

theorem entered_renumbered (hscan : scan.Renumbered move scan') (rule : Rule) (region : Region)
    (groups : Groups) (h : scene.Agrees move scan.repository scan'.repository scene') :
    (scan.entered rule region groups scene).Agrees move scan.repository scan'.repository
      (scan'.entered (rule.renumbered move) (region.renumbered move) groups scene') := by
  have hscopes : scene'.stack.scopes = scene.stack.scopes := by
    rw [h.stack.eq, ScopeStack.renumbered_scopes]
  have hcaptured := hscan.parallel.capture hscan.reenter groups region.openingCaptures
    (scene.stack.scopes ++ rule.scopes) h
  -- a sound session gives the end that is made of the begin, so what each has learned plays no part
  obtain ⟨hclosing, hsound⟩ := hcaptured.emission.sound.closing region.closing groups scan.line
  obtain ⟨hclosing', hsound'⟩ := hcaptured.emission.sound'.closing region.closing groups scan.line
  rw [hscan.repository.budget] at hclosing'
  unfold entered
  rw [hscopes, hscan.line]
  dsimp only [Rule.renumbered, Region.renumbered]
  rw [hclosing, hclosing', ← h.anchor]
  have hpush (closing : Option Pattern) : ScopeStack.Renumbers move
      (scene.stack.push (scan.opened rule region groups closing scene.anchor))
      (scene'.stack.push
        (scan'.opened (rule.renumbered move) (region.renumbered move) groups closing scene.anchor)) := by
    constructor
    rw [h.stack.eq, opened, opened, hscan.line, hscan.offset]
    rfl
  refine ⟨hpush _, rfl, ?_, hcaptured.settled, hcaptured.emission.sink,
    hcaptured.emission.diagnostics, hsound, hsound'⟩
  rw [hscan.parallel.aligned.depth (hpush _)]
  rfl

theorem looked_renumbered (hscan : scan.Renumbered move scan')
    (h : scene.Agrees move scan.repository scan'.repository scene') :
    scan'.offered scene' = (scan.offered scene).map move ∧
      (scan.looked scene).Agrees move scan.repository scan'.repository (scan'.looked scene') := by
  obtain ⟨hoffered, hsound⟩ := h.emission.sound.rules scene.stack.top.rule
  obtain ⟨hoffered', hsound'⟩ := h.emission.sound'.rules scene'.stack.top.rule
  have htop : scene'.stack.top.rule = move scene.stack.top.rule := by
    rw [h.stack.eq, ScopeStack.renumbered_top]
    rfl
  refine ⟨?_, h.stack, h.anchor, h.emptyPush, h.settled, h.emission.sink, h.emission.diagnostics,
    hsound, hsound'⟩
  unfold offered
  rw [hoffered, hoffered', htop]
  exact hscan.repository.flatten scene.stack.top.rule

theorem candidates_renumbered (hscan : scan.Renumbered move scan') (stack : ScopeStack)
    (rules : List RuleId) : scan'.candidates (stack.renumbered move) (rules.map move) =
      (scan.candidates stack rules).map (Candidate.renumbered move) := by
  have hpattern (id : RuleId) : (scan'.repository.rule? (move id)).bind Rule.pattern? =
      (scan.repository.rule? id).bind Rule.pattern? := by
    rw [hscan.repository.rules]
    cases scan.repository.rule? id with
    | none => rfl
    | some rule => exact rule.renumbered_pattern? move
  have hinner : ((rules.map move).filterMap fun id =>
        ((scan'.repository.rule? id).bind Rule.pattern?).map fun pattern =>
          ({ target := .rule id, pattern } : Candidate)) =
      (rules.filterMap fun id =>
        ((scan.repository.rule? id).bind Rule.pattern?).map fun pattern =>
          ({ target := .rule id, pattern } : Candidate)).map (Candidate.renumbered move) := by
    rw [List.filterMap_map, List.map_filterMap]
    congr 1
    funext id
    rw [Function.comp_apply, hpattern, Option.map_map]
    rfl
  -- the end comes first or last
  have either (last : Bool) (pattern : Pattern) (inner : List Candidate) :
      (if last then inner.map (Candidate.renumbered move) ++ [{ target := .regionEnd, pattern }]
        else { target := .regionEnd, pattern } :: inner.map (Candidate.renumbered move)) =
        (if last then inner ++ [{ target := .regionEnd, pattern }]
          else { target := .regionEnd, pattern } :: inner).map (Candidate.renumbered move) := by
    cases last with
    | true =>
      rw [if_pos rfl, if_pos rfl, List.map_append]
      rfl
    | false => rfl
  unfold candidates
  rw [ScopeStack.renumbered_top]
  dsimp only [Frame.renumbered]
  rw [hinner, hscan.repository.kind?]
  cases stack.top.closing with
  | none => rfl
  | some pattern =>
    cases scan.repository.kind? stack.top.rule with
    | none => rfl
    | some kind =>
      cases kind with
      | region region => exact either region.closingLast pattern _
      | _ => rfl

theorem winner?_renumbered (hscan : scan.Renumbered move scan') {state state' : Drive}
    (h : state.Agrees move scan.repository scan'.repository state') :
    scan'.winner? state' = (scan.winner? state).map (Winner.renumbered move) := by
  unfold winner?
  rw [(looked_renumbered hscan h.scene).1, h.scene.stack.eq, candidates_renumbered hscan, ← h.cursor,
    ← h.scene.anchor, hscan.line]
  exact findNext_renumbered move _ _ _ _

theorem applyRule_renumbered (hscan : scan.Renumbered move scan') (id : RuleId) (groups : Groups)
    (h : scene.Agrees move scan.repository scan'.repository scene') :
    (scan.applyRule id groups scene).Agrees move scan.repository scan'.repository
      (scan'.applyRule (move id) groups scene') := by
  have hscopes : scene'.stack.scopes = scene.stack.scopes := by
    rw [h.stack.eq, ScopeStack.renumbered_scopes]
  unfold applyRule
  rw [hscan.repository.rules]
  cases scan.repository.rule? id with
  | none => exact .matched h _ _ _
  | some rule =>
    dsimp only [Option.map_some]
    cases hkind : rule.kind with
    | simple pattern captures =>
      dsimp only [Rule.renumbered]
      rw [hkind, hscopes]
      exact .matched (hscan.parallel.capture hscan.reenter groups captures _ h) _ _ _
    | region region =>
      have hentered := entered_renumbered hscan rule region groups h
      have hrefuses := refuses_renumbered hscan rule groups scene.stack
      rw [← h.stack.eq] at hrefuses
      have hkind' : (rule.renumbered move).kind = .region (region.renumbered move) := by
        rw [Rule.renumbered, hkind]
        rfl
      rw [hkind']
      dsimp only
      rw [openRegion_eq, openRegion_eq, hrefuses]
      split
      · exact .matched h _ _ _
      · exact .matched hentered _ _ _
    | group patterns =>
      dsimp only [Rule.renumbered]
      rw [hkind]
      exact .matched h _ _ _
    | link target =>
      dsimp only [Rule.renumbered]
      rw [hkind]
      exact .matched h _ _ _

/-- Both scans give the same response. -/
theorem respond_renumbered (hscan : scan.Renumbered move scan') {state state' : Drive}
    (h : state.Agrees move scan.repository scan'.repository state') :
    (scan.respond state).Agrees move scan.repository scan'.repository (scan'.respond state') := by
  have hlooked := (looked_renumbered hscan h.scene).2
  rw [respond_eq, respond_eq, winner?_renumbered hscan h, ← h.cursor]
  cases scan.winner? state with
  | none => exact .unmatched (hscan.parallel.leave _ hlooked)
  | some winner =>
    have happroached : (scan.approached state winner.groups).Agrees move scan.repository
        scan'.repository (scan'.approached state' winner.groups) := hscan.parallel.cover hlooked _
    dsimp only [Option.map_some, Winner.renumbered]
    cases winner.target with
    | regionEnd =>
      dsimp only [Target.renumbered]
      rw [closeRegion_eq, closeRegion_eq, ← hscan.parallel.endsEmpty_eq happroached]
      exact .matched (closed_renumbered hscan _ happroached) _ _ _
    | rule id => exact applyRule_renumbered hscan id winner.groups happroached

end LineScan

section Lines

variable {move : RuleId → RuleId} {repository repository' : Repository}

/-- One level of a scan of a line, given that groups are scanned alike. -/
theorem drive_begin_renumbered (h : repository.Renumbered move repository')
    {stallLimit offset levels : Nat} {line : Line}
    (hreenter : Option.Rel (Reenter.Renumbered move line (Emission.Agrees repository repository'))
      (reentry repository stallLimit offset levels) (reentry repository' stallLimit offset levels))
    (start : Nat) (anchor : Option Nat) (stack : ScopeStack) {emission emission' : Emission}
    (hemission : Emission.Agrees repository repository' emission emission') :
    (scanLine repository' stallLimit offset levels line start anchor (stack.renumbered move)
        emission').1 =
        (scanLine repository stallLimit offset levels line start anchor stack emission).1.renumbered
          move ∧
      Emission.Agrees repository repository'
        (scanLine repository stallLimit offset levels line start anchor stack emission).2
        (scanLine repository' stallLimit offset levels line start anchor (stack.renumbered move)
          emission').2 := by
  have hscan : LineScan.Renumbered move
      { repository, stallLimit, line, offset,
        reenter := reentry repository stallLimit offset levels }
      { repository := repository', stallLimit, line, offset,
        reenter := reentry repository' stallLimit offset levels } :=
    ⟨h, rfl, rfl, rfl, hreenter⟩
  have hbegin : Drive.Agrees move repository repository' (.begin start anchor stack emission)
      (.begin start anchor (stack.renumbered move) emission') :=
    ⟨rfl, rfl, ⟨rfl⟩, rfl, rfl, (stack.renumbered_depth move).symm, hemission⟩
  have hdrive := hscan.parallel.drive rfl (LineScan.respond_renumbered hscan) hbegin
  rw [scanLine_eq, scanLine_eq]
  exact ⟨hdrive.stack.eq, hdrive.emission⟩

/-- Groups are scanned alike, however deep they nest. -/
theorem reentry_renumbered (h : repository.Renumbered move repository') (stallLimit offset levels : Nat)
    (line : Line) :
    Option.Rel (Reenter.Renumbered move line (Emission.Agrees repository repository'))
      (reentry repository stallLimit offset levels) (reentry repository' stallLimit offset levels) := by
  induction levels generalizing line with
  | zero => exact .none
  | succ levels ih =>
    refine .some ?_
    intro stop start rule nameScopes emission emission' hemission
    exact (drive_begin_renumbered h (ih _) start none { bottom := { rule, nameScopes } }
      hemission).2

/-- Two scans between the same lines of a buffer that agree, but for the positions of rules and for what
the sessions have learned. -/
structure ScanProgress.Agrees (move : RuleId → RuleId) (repository repository' : Repository)
    (progress progress' : ScanProgress) : Prop where
  offset : progress'.offset = progress.offset
  stack : progress'.stack = progress.stack.renumbered move
  emission : Emission.Agrees repository repository' progress.emission progress'.emission

/-- Both scans agree after the next line. -/
theorem Repository.scanNextLine_renumbered (h : repository.Renumbered move repository')
    (stallLimit : Nat) {progress progress' : ScanProgress}
    (hprogress : progress.Agrees move repository repository' progress') (chars : List Char) :
    (repository.scanNextLine stallLimit progress chars).Agrees move repository repository'
      (repository'.scanNextLine stallLimit progress' chars) := by
  have hcleared : progress'.stack.clearAnchors = progress.stack.clearAnchors.renumbered move := by
    rw [hprogress.stack, ScopeStack.renumbered_clearAnchors]
  have hline : Emission.Agrees repository repository'
      { progress.emission with
        sink := progress.emission.sink.beginLine progress.offset (Line.byteCount chars) }
      { progress'.emission with
        sink := progress'.emission.sink.beginLine progress.offset (Line.byteCount chars) } :=
    ⟨congrArg (·.beginLine progress.offset (Line.byteCount chars)) hprogress.emission.sink,
      hprogress.emission.diagnostics, hprogress.emission.sound, hprogress.emission.sound'⟩
  have hnext := drive_begin_renumbered h
    (reentry_renumbered h stallLimit progress.offset maxReentry (Line.ofChars (terminated chars))) 0
    (if progress.stack.clearAnchors.top.beganAtLineEnd then some 0 else none)
    progress.stack.clearAnchors hline
  have htop : (progress.stack.clearAnchors.renumbered move).top.beganAtLineEnd =
      progress.stack.clearAnchors.top.beganAtLineEnd := by
    rw [ScopeStack.renumbered_top]
    rfl
  unfold scanNextLine
  dsimp only
  rw [hcleared, hprogress.offset, htop]
  exact ⟨rfl, hnext.1, hnext.2⟩

/-- **Both scans agree from line to line.** -/
theorem Repository.foldl_renumbered (h : repository.Renumbered move repository') (stallLimit : Nat)
    (lines : List (List Char)) {progress progress' : ScanProgress}
    (hprogress : progress.Agrees move repository repository' progress') :
    (lines.foldl (repository.scanNextLine stallLimit) progress).Agrees move repository repository'
      (lines.foldl (repository'.scanNextLine stallLimit) progress') := by
  induction lines generalizing progress progress' with
  | nil => exact hprogress
  | cons chars rest ih =>
    rw [List.foldl_cons, List.foldl_cons]
    exact ih (scanNextLine_renumbered h stallLimit hprogress chars)

end Lines

end ScopeScanner
