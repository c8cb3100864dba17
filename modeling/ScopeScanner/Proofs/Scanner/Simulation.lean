import ScopeScanner.Proofs.Scanner.Coverage
import ScopeScanner.Proofs.Scanner.Parallel

/-!
# Scans in step

Two scans over one repository go along the same characters, but at different places of their buffers,
and with different stacks and emissions. They stay in step if a relation between the stacks and one
between the emissions survive everything a scan does to them. What this takes is listed once:

* `ScopeStack.Coupling`: related stacks agree in everything but the places where regions began, and
  on whether a rule on offer has begun a region where it begins one with an empty match.
* `Emission.Coupling`: related emissions offer the rules of the flattened lists and the same ends, and
  stay related when both cover the line to the same position or get the same remark.

Then both scans give the same responses (`LineScan.respond_inStep`). If their limits on steps without
progress are the same too, the scans of a whole line stay in step, whatever groups are scanned again
(**`scanLine_inStep`**).
-/

namespace ScopeScanner

/-! ## Stacks without places -/

/-- The frame without the place where it began. -/
def Frame.unplaced (frame : Frame) : Frame :=
  { frame with start := 0 }

namespace ScopeStack

/-- The stack without the places where its regions began. -/
def unplaced (stack : ScopeStack) : ScopeStack where
  bottom := stack.bottom.unplaced
  regions := stack.regions.map Frame.unplaced

variable (stack : ScopeStack)

theorem unplaced_top : stack.unplaced.top = stack.top.unplaced := by
  obtain ⟨bottom, regions⟩ := stack
  cases regions with
  | nil => rfl
  | cons frame rest => rfl

@[simp] theorem unplaced_scopes : stack.unplaced.scopes = stack.scopes := by
  simp [scopes, frames, unplaced, ← List.map_reverse, List.flatMap_map]
  rfl

@[simp] theorem unplaced_delimiterScopes :
    stack.unplaced.delimiterScopes = stack.delimiterScopes := by
  obtain ⟨bottom, regions⟩ := stack
  cases regions with
  | nil => rfl
  | cons frame rest =>
    have hrest := unplaced_scopes ⟨bottom, rest⟩
    rw [delimiterScopes, delimiterScopes]
    exact congrArg (· ++ frame.nameScopes) hrest

@[simp] theorem unplaced_depth : stack.unplaced.depth = stack.depth := by
  simp [depth, unplaced]

theorem unplaced_pop? :
    stack.unplaced.pop? = stack.pop?.map fun popped => (popped.1.unplaced, popped.2.unplaced) := by
  obtain ⟨bottom, regions⟩ := stack
  cases regions with
  | nil => rfl
  | cons frame rest => rfl

end ScopeStack

/-- Whether a rule has begun a region in a place, with nothing above it but other regions that have
begun there. The innermost region comes first. -/
def begunAt (regions : List Frame) (id : RuleId) (start : Nat) : Bool :=
  (regions.takeWhile (·.start = start)).any (·.rule = id)

theorem begunAt_cons (frame : Frame) (rest : List Frame) (id : RuleId) (start : Nat) :
    begunAt (frame :: rest) id start =
      (decide (frame.start = start) && (decide (frame.rule = id) || begunAt rest id start)) := by
  rw [begunAt, List.takeWhile_cons]
  split
  · next hstart => simp [begunAt, of_decide_eq_true hstart]
  · next hstart => simp [of_decide_eq_false (Bool.eq_false_iff.mpr hstart)]

/-- No rule has begun a region in a place where no frame of that rule began. -/
theorem begunAt_eq_false {regions : List Frame} {id : RuleId} {start : Nat}
    (h : ∀ frame ∈ regions, frame.rule = id → frame.start ≠ start) :
    begunAt regions id start = false := by
  induction regions with
  | nil => rfl
  | cons frame rest ih =>
    rw [begunAt_cons, ih fun other hmem => h other (List.mem_cons_of_mem _ hmem)]
    by_cases hrule : frame.rule = id
    · simp [h frame List.mem_cons_self hrule]
    · simp [hrule]

/-! ## What keeps scans in step -/

/-- A rule competes inside the innermost frame of a stack. -/
def Repository.Offers (repository : Repository) (stack : ScopeStack) (rule : Rule) : Prop :=
  ∃ id ∈ repository.flatten stack.top.rule, repository.rule? id = some rule

/-- A rule begins a region at a position of the line with an empty match. -/
def Repository.BeginsEmptyAt (repository : Repository) (line : Line) (id : RuleId) (p : Nat) : Prop :=
  ∃ key rule region cursor atAnchor groups,
    repository.rule? key = some rule ∧ rule.id = id ∧ rule.kind = .region region ∧
      region.opening.findAt line cursor atAnchor = .ok (some groups) ∧
      groups.whole.isEmpty = true ∧ groups.whole.start = p

/-- What a relation between stacks owes to two scans along a line which starts at different places. -/
structure ScopeStack.Coupling (repository : Repository) (line : Line) (offset offset' : Nat)
    (Related : ScopeStack → ScopeStack → Prop) : Prop where
  unplaced : ∀ {stack stack'}, Related stack stack' → stack.unplaced = stack'.unplaced
  pop : ∀ {stack stack' frame frame' rest rest'}, Related stack stack' →
    stack.pop? = some (frame, rest) → stack'.pop? = some (frame', rest') → Related rest rest'
  push : ∀ {stack stack'}, Related stack stack' → ∀ rule, repository.Offers stack rule →
    ∀ (frame : Frame) (p : Nat), frame.rule = rule.id →
      Related (stack.push { frame with start := offset + p })
        (stack'.push { frame with start := offset' + p })
  begun : ∀ {stack stack'}, Related stack stack' → ∀ rule, repository.Offers stack rule →
    ∀ p, repository.BeginsEmptyAt line rule.id p →
      begunAt stack.regions rule.id (offset + p) = begunAt stack'.regions rule.id (offset' + p)

/-- Equal stacks serve for scans in the same place. -/
theorem ScopeStack.Coupling.eq (repository : Repository) (line : Line) (offset : Nat) :
    Coupling repository line offset offset Eq where
  unplaced := by
    rintro _ _ rfl
    rfl
  pop := by
    rintro _ _ frame frame' rest rest' rfl h h'
    rw [h] at h'
    exact (Prod.mk.inj (Option.some.inj h')).2
  push := by
    rintro _ _ rfl _ _ _ _ _
    rfl
  begun := by
    rintro _ _ rfl _ _ _ _
    rfl

/-- What a relation between emissions owes to two scans of lines that start at different places. -/
structure Emission.Coupling (repository : Repository) (offset offset' : Nat)
    (Related : Emission → Emission → Prop) : Prop where
  produce : ∀ {emission emission'}, Related emission emission' → ∀ stop scopes,
    Related (emission.produce stop scopes) (emission'.produce stop scopes)
  remark : ∀ {emission emission'}, Related emission emission' → ∀ p length,
    Related (emission.remark (.unmatchedInput (offset + p) length))
      (emission'.remark (.unmatchedInput (offset' + p) length))
  rules : ∀ {emission emission'}, Related emission emission' → ∀ id,
    (emission.session.rules repository id).1 = repository.flatten id ∧
      (emission'.session.rules repository id).1 = repository.flatten id ∧
      Related { emission with session := (emission.session.rules repository id).2 }
        { emission' with session := (emission'.session.rules repository id).2 }
  closing : ∀ {emission emission'}, Related emission emission' → ∀ closing groups line,
    (emission.session.closing repository closing groups line).1 =
        (emission'.session.closing repository closing groups line).1 ∧
      Related { emission with session := (emission.session.closing repository closing groups line).2 }
        { emission' with
          session := (emission'.session.closing repository closing groups line).2 }

/-- Two ways to scan the text of a group of a line that keep emissions related. -/
def Reenter.Coupled (line : Line) (Related : Emission → Emission → Prop)
    (reenter reenter' : Reenter) : Prop :=
  ∀ stop start rule nameScopes emission emission', Related emission emission' →
    Related (reenter (line.take stop) start { bottom := { rule, nameScopes } } emission)
      (reenter' (line.take stop) start { bottom := { rule, nameScopes } } emission')

namespace ScopeStack.Coupling

variable {repository : Repository} {line : Line} {offset offset' : Nat}
  {Related : ScopeStack → ScopeStack → Prop} {stack stack' : ScopeStack}

theorem scopes_eq (hstacks : Coupling repository line offset offset' Related)
    (h : Related stack stack') : stack.scopes = stack'.scopes := by
  rw [← stack.unplaced_scopes, hstacks.unplaced h, unplaced_scopes]

theorem delimiterScopes_eq (hstacks : Coupling repository line offset offset' Related)
    (h : Related stack stack') : stack.delimiterScopes = stack'.delimiterScopes := by
  rw [← stack.unplaced_delimiterScopes, hstacks.unplaced h, unplaced_delimiterScopes]

theorem depth_eq (hstacks : Coupling repository line offset offset' Related)
    (h : Related stack stack') : stack.depth = stack'.depth := by
  rw [← stack.unplaced_depth, hstacks.unplaced h, unplaced_depth]

theorem top_rule_eq (hstacks : Coupling repository line offset offset' Related)
    (h : Related stack stack') : stack.top.rule = stack'.top.rule := by
  have htop := congrArg top (hstacks.unplaced h)
  rw [unplaced_top, unplaced_top] at htop
  exact (Frame.mk.inj htop).1

theorem top_closing_eq (hstacks : Coupling repository line offset offset' Related)
    (h : Related stack stack') : stack.top.closing = stack'.top.closing := by
  have htop := congrArg top (hstacks.unplaced h)
  rw [unplaced_top, unplaced_top] at htop
  exact (Frame.mk.inj htop).2.2.2.1

theorem top_beganAtLineEnd_eq (hstacks : Coupling repository line offset offset' Related)
    (h : Related stack stack') : stack.top.beganAtLineEnd = stack'.top.beganAtLineEnd := by
  have htop := congrArg top (hstacks.unplaced h)
  rw [unplaced_top, unplaced_top] at htop
  exact (Frame.mk.inj htop).2.2.2.2.2.1

/-- Regions are closed on both sides or on none, and then their anchors agree. -/
theorem pop_cases (hstacks : Coupling repository line offset offset' Related)
    (h : Related stack stack') :
    (stack.pop? = none ∧ stack'.pop? = none) ∨
      ∃ frame rest frame' rest', stack.pop? = some (frame, rest) ∧
        stack'.pop? = some (frame', rest') ∧ frame.parentAnchor = frame'.parentAnchor ∧
        Related rest rest' := by
  have hpop := congrArg pop? (hstacks.unplaced h)
  rw [unplaced_pop?, unplaced_pop?] at hpop
  cases hfirst : stack.pop? with
  | none =>
    cases hsecond : stack'.pop? with
    | none => exact Or.inl ⟨rfl, rfl⟩
    | some popped' => rw [hfirst, hsecond] at hpop; cases hpop
  | some popped =>
    cases hsecond : stack'.pop? with
    | none => rw [hfirst, hsecond] at hpop; cases hpop
    | some popped' =>
      rw [hfirst, hsecond] at hpop
      have hframe : popped.1.unplaced = popped'.1.unplaced := (Prod.mk.inj (Option.some.inj hpop)).1
      have hanchor : popped.1.unplaced.parentAnchor = popped'.1.unplaced.parentAnchor := by
        rw [hframe]
      exact Or.inr ⟨_, _, _, _, rfl, rfl, hanchor, hstacks.pop h hfirst hsecond⟩

theorem aligned (hstacks : Coupling repository line offset offset' Related) : Aligned Related where
  scopes := hstacks.scopes_eq
  depth := hstacks.depth_eq
  pop := hstacks.pop_cases

end ScopeStack.Coupling

/-! ## Steps -/

/-- Two scans of the same characters whose relations between stacks and emissions are kept. Their
limits on steps without progress may differ. -/
structure LineScan.InStep (Stacks : ScopeStack → ScopeStack → Prop)
    (Emissions : Emission → Emission → Prop) (scan scan' : LineScan) : Prop where
  repository : scan.repository = scan'.repository
  line : scan.line = scan'.line
  reenter : Option.Rel (Reenter.Coupled scan.line Emissions) scan.reenter scan'.reenter
  onStacks : ScopeStack.Coupling scan.repository scan.line scan.offset scan'.offset Stacks
  onEmissions : Emission.Coupling scan.repository scan.offset scan'.offset Emissions

namespace LineScan

variable {Stacks : ScopeStack → ScopeStack → Prop} {Emissions : Emission → Emission → Prop}
  {scan scan' : LineScan}

theorem InStep.parallel (hscan : scan.InStep Stacks Emissions scan') :
    scan.Parallel Stacks Emissions scan' where
  line := hscan.line
  aligned := hscan.onStacks.aligned
  produce := hscan.onEmissions.produce
  remark := hscan.onEmissions.remark

theorem capture_inStep (hscan : scan.InStep Stacks Emissions scan') (groups : Groups)
    (captures : CaptureMap) (scopes : List String) {scene scene' : Scene}
    (h : scene.InStep Stacks Emissions scene') :
    (scan.capture groups captures scopes scene).InStep Stacks Emissions
      (scan'.capture groups captures scopes scene') := by
  have hreenter : Option.Rel (Reenter.Renumbered id scan.line Emissions) scan.reenter scan'.reenter :=
    hscan.reenter
  have hcaptured := hscan.parallel.capture hreenter groups captures scopes h
  rwa [CaptureMap.renumbered_id] at hcaptured

theorem closingCaptures_eq (hscan : scan.InStep Stacks Emissions scan') (id : RuleId) :
    scan.closingCaptures id = scan'.closingCaptures id := by
  rw [closingCaptures, closingCaptures, hscan.repository]

theorem closed_inStep (hscan : scan.InStep Stacks Emissions scan') (groups : Groups)
    {scene scene' : Scene} (h : scene.InStep Stacks Emissions scene') :
    (scan.closed groups scene).InStep Stacks Emissions (scan'.closed groups scene') := by
  apply hscan.parallel.closed h.stack
  rw [← hscan.onStacks.top_rule_eq h.stack, ← closingCaptures_eq hscan,
    ← hscan.onStacks.delimiterScopes_eq h.stack]
  exact capture_inStep hscan groups _ _ h

/-- The repeat of a begin is refused on both sides or on none. -/
theorem refuses_eq (hscan : scan.InStep Stacks Emissions scan') {rule : Rule}
    {region : Region} {cursor : Nat} {atAnchor : Bool} {groups : Groups}
    (hkind : rule.kind = .region region)
    (hfinds : region.opening.findAt scan.line cursor atAnchor = .ok (some groups))
    {stack stack' : ScopeStack} (hoffers : scan.repository.Offers stack rule)
    (h : Stacks stack stack') :
    scan.refuses rule groups stack = scan'.refuses rule groups stack' := by
  rw [refuses, refuses]
  cases hempty : groups.whole.isEmpty with
  | false => rfl
  | true =>
    -- only here do the places on the stack matter, and only for an empty match
    refine hscan.onStacks.begun h rule hoffers groups.whole.start ?_
    obtain ⟨id, _, hrule⟩ := hoffers
    exact ⟨id, rule, region, cursor, atAnchor, groups, hrule, rfl, hkind, hfinds, hempty, rfl⟩

theorem entered_inStep (hscan : scan.InStep Stacks Emissions scan') {rule : Rule}
    (region : Region) (groups : Groups) {scene scene' : Scene}
    (hoffers : scan.repository.Offers scene.stack rule) (h : scene.InStep Stacks Emissions scene') :
    (scan.entered rule region groups scene).InStep Stacks Emissions
      (scan'.entered rule region groups scene') := by
  have hcapture := capture_inStep hscan groups region.openingCaptures
    (scene.stack.scopes ++ rule.scopes) h
  obtain ⟨hclosing, hlearned⟩ :=
    hscan.onEmissions.closing hcapture.emission region.closing groups scan.line
  have hpush (closing : Option Pattern) :
      Stacks (scene.stack.push (scan.opened rule region groups closing scene.anchor))
        (scene'.stack.push (scan'.opened rule region groups closing scene.anchor)) := by
    have hframes := hscan.onStacks.push h.stack rule hoffers
      (scan.opened rule region groups closing scene.anchor) groups.whole.start rfl
    rw [opened, opened, ← hscan.line]
    exact hframes
  rw [entered, entered, ← hscan.onStacks.scopes_eq h.stack, ← hscan.repository, ← hscan.line,
    ← h.anchor]
  dsimp only
  rw [← hclosing]
  refine ⟨hpush _, rfl, ?_, hcapture.settled, hlearned⟩
  rw [hscan.onStacks.depth_eq (hpush _)]

/-- The rules that compete are those of the flattened list, on both sides. -/
theorem looked_inStep (hscan : scan.InStep Stacks Emissions scan') {scene scene' : Scene}
    (h : scene.InStep Stacks Emissions scene') :
    scan.offered scene = scan.repository.flatten scene.stack.top.rule ∧
      scan'.offered scene' = scan.offered scene ∧
      (scan.looked scene).InStep Stacks Emissions (scan'.looked scene') := by
  obtain ⟨hoffered, hoffered', hlearned⟩ :=
    hscan.onEmissions.rules h.emission scene.stack.top.rule
  rw [offered, offered, looked, looked, ← hscan.onStacks.top_rule_eq h.stack, ← hscan.repository]
  exact ⟨hoffered, hoffered'.trans hoffered.symm, h.stack, h.anchor, h.emptyPush, h.settled,
    hlearned⟩

theorem candidates_eq (hscan : scan.InStep Stacks Emissions scan') {stack stack' : ScopeStack}
    (h : Stacks stack stack') (rules : List RuleId) :
    scan.candidates stack rules = scan'.candidates stack' rules := by
  rw [candidates, candidates, hscan.repository, hscan.onStacks.top_closing_eq h,
    hscan.onStacks.top_rule_eq h]

/-- The same match wins on both sides. -/
theorem winner?_eq (hscan : scan.InStep Stacks Emissions scan') {state state' : Drive}
    (h : state.InStep Stacks Emissions state') : scan.winner? state = scan'.winner? state' := by
  rw [winner?, winner?, (looked_inStep hscan h.scene).2.1, candidates_eq hscan h.scene.stack,
    h.cursor, h.scene.anchor, hscan.line]

/-- Scans in step give the same response. -/
theorem respond_inStep (hscan : scan.InStep Stacks Emissions scan') {state state' : Drive}
    (h : state.InStep Stacks Emissions state') :
    (scan.respond state).InStep Stacks Emissions (scan'.respond state') := by
  obtain ⟨hoffered, _, hlooked⟩ := looked_inStep hscan h.scene
  rw [respond_eq, respond_eq, ← winner?_eq hscan h]
  split
  · rw [← h.cursor]
    exact .unmatched (hscan.parallel.leave _ hlooked)
  · next winner hwinner =>
    have happroached : (scan.approached state winner.groups).InStep Stacks Emissions
        (scan'.approached state' winner.groups) := hscan.parallel.cover hlooked _
    rcases winner?_eq_some hwinner with
      ⟨htarget, _⟩ | ⟨id, hid, htarget, rule, pattern, hrule, hpattern, hfinds⟩
    · rw [htarget]
      dsimp only
      rw [closeRegion_eq, closeRegion_eq, ← hscan.parallel.endsEmpty_eq happroached]
      exact .matched (closed_inStep hscan _ happroached) _ _ _
    · rw [htarget]
      dsimp only
      rw [applyRule, applyRule, ← hscan.repository, hrule]
      dsimp only
      rw [Rule.pattern?] at hpattern
      cases hkind : rule.kind with
      | simple found captures =>
        dsimp only
        rw [← hscan.onStacks.scopes_eq happroached.stack]
        exact .matched (capture_inStep hscan _ _ _ happroached) _ _ _
      | region region =>
        rw [hkind] at hpattern
        obtain rfl := Option.some.inj hpattern
        have hoffers :
            scan.repository.Offers (scan.approached state winner.groups).stack rule :=
          ⟨id, hoffered ▸ hid, hrule⟩
        dsimp only
        rw [openRegion_eq, openRegion_eq,
          ← refuses_eq hscan hkind hfinds hoffers happroached.stack]
        split
        · exact .matched happroached _ _ _
        · exact .matched (entered_inStep hscan _ _ hoffers happroached) _ _ _
      | group patterns =>
        rw [hkind] at hpattern
        cases hpattern
      | link target =>
        rw [hkind] at hpattern
        cases hpattern

/-! ## Scans of a whole line -/

/-- Scans in step stay in step to the end of the line. -/
theorem drive_inStep (hscan : scan.InStep Stacks Emissions scan')
    (hlimit : scan.stallLimit = scan'.stallLimit) {state state' : Drive}
    (h : state.InStep Stacks Emissions state') :
    (scan.drive state).InStep Stacks Emissions (scan'.drive state') :=
  hscan.parallel.drive hlimit (respond_inStep hscan) h

end LineScan

/-! ## Stacks at another place

The first scan runs `shift` bytes further on in its buffer than the second. Regions that have begun
during the scans begin `shift` bytes further on; below them lie regions that were carried over from
earlier, whose places may be related in some other way. -/

/-- What a relation between the regions carried over owes to two scans along a line. -/
structure CarriedCoupling (repository : Repository) (line : Line) (shift offset : Nat)
    (Carried : List Frame → List Frame → Prop) : Prop where
  unplaced : ∀ {regions regions'}, Carried regions regions' →
    regions.map Frame.unplaced = regions'.map Frame.unplaced
  tail : ∀ {frame frame' rest rest'}, Carried (frame :: rest) (frame' :: rest') → Carried rest rest'
  begun : ∀ {regions regions'}, Carried regions regions' → ∀ id p,
    repository.BeginsEmptyAt line id p →
      begunAt regions id (shift + offset + p) = begunAt regions' id (offset + p)

/-- The regions of two stacks: those that began during the scans, on top of those carried over. -/
inductive RegionsMoved (shift : Nat) (Carried : List Frame → List Frame → Prop) :
    List Frame → List Frame → Prop where
  | carried {regions regions' : List Frame} (h : Carried regions regions') :
      RegionsMoved shift Carried regions regions'
  | push {frame frame' : Frame} {rest rest' : List Frame} (hframe : frame.unplaced = frame'.unplaced)
      (hstart : frame.start = shift + frame'.start) (h : RegionsMoved shift Carried rest rest') :
      RegionsMoved shift Carried (frame :: rest) (frame' :: rest')

namespace ScopeStack

/-- Two stacks that differ by where their regions began. -/
structure Moved (shift : Nat) (Carried : List Frame → List Frame → Prop)
    (stack stack' : ScopeStack) : Prop where
  bottom : stack.bottom = stack'.bottom
  regions : RegionsMoved shift Carried stack.regions stack'.regions

variable {repository : Repository} {line : Line} {shift offset : Nat}
  {Carried : List Frame → List Frame → Prop}

theorem Moved.coupling (hcarried : CarriedCoupling repository line shift offset Carried) :
    Coupling repository line (shift + offset) offset (Moved shift Carried) where
  unplaced := by
    rintro ⟨bottom, regions⟩ ⟨bottom', regions'⟩ ⟨hbottom, hregions⟩
    dsimp only at hbottom hregions
    have hframes : regions.map Frame.unplaced = regions'.map Frame.unplaced := by
      induction hregions with
      | carried h => exact hcarried.unplaced h
      | push hframe _ _ ih => rw [List.map_cons, List.map_cons, hframe, ih]
    rw [ScopeStack.unplaced, ScopeStack.unplaced, hbottom, hframes]
  pop := by
    rintro ⟨bottom, regions⟩ ⟨bottom', regions'⟩ frame frame' rest rest' ⟨hbottom, hregions⟩ h h'
    cases hregions with
    | carried hregions =>
      cases regions with
      | nil => cases h
      | cons first others =>
        cases regions' with
        | nil => cases h'
        | cons first' others' =>
          cases h
          cases h'
          exact ⟨hbottom, .carried (hcarried.tail hregions)⟩
    | push hframe hstart hregions =>
      cases h
      cases h'
      exact ⟨hbottom, hregions⟩
  push := by
    rintro stack stack' ⟨hbottom, hregions⟩ rule _ frame p _
    exact ⟨hbottom, .push rfl (Nat.add_assoc _ _ _) hregions⟩
  begun := by
    rintro ⟨bottom, regions⟩ ⟨bottom', regions'⟩ ⟨hbottom, hregions⟩ rule hoffers p hbegins
    dsimp only at hbottom hregions ⊢
    clear hbottom hoffers
    induction hregions with
    | carried h => exact hcarried.begun h rule.id p hbegins
    | @push frame frame' _ _ hframe hstart _ ih =>
      -- a region that has begun during the scans began in this place on both sides or on none
      have hplace : (frame.start = shift + offset + p) ↔ (frame'.start = offset + p) := by omega
      rw [begunAt_cons, begunAt_cons, ih, decide_eq_decide.mpr hplace, (Frame.mk.inj hframe).1]

/-- With no regions carried over nothing is left to show. -/
theorem Moved.coupling_nil (repository : Repository) (line : Line) (shift offset : Nat) :
    Coupling repository line (shift + offset) offset
      (Moved shift fun regions regions' => regions = [] ∧ regions' = []) := by
  apply Moved.coupling
  constructor
  · rintro _ _ ⟨rfl, rfl⟩
    rfl
  · rintro _ _ _ _ ⟨h, _⟩
    cases h
  · rintro _ _ ⟨rfl, rfl⟩ _ _ _
    rfl

end ScopeStack

section Lines

variable {repository : Repository} {shift offset : Nat}
  {Emissions : Emission → Emission → Prop}

/-- One level of a scan of a line, given that groups are scanned in step. -/
theorem drive_begin_inStep {stallLimit : Nat} {Stacks : ScopeStack → ScopeStack → Prop} {line : Line}
    (hstacks : ScopeStack.Coupling repository line (shift + offset) offset Stacks)
    (hemissions : Emission.Coupling repository (shift + offset) offset Emissions)
    {levels : Nat}
    (hreenter : Option.Rel (Reenter.Coupled line Emissions)
      (reentry repository stallLimit (shift + offset) levels)
      (reentry repository stallLimit offset levels))
    (start : Nat) (anchor : Option Nat) {stack stack' : ScopeStack} (hstack : Stacks stack stack')
    {emission emission' : Emission} (hemission : Emissions emission emission') :
    Stacks
        (scanLine repository stallLimit (shift + offset) levels line start anchor stack emission).1
        (scanLine repository stallLimit offset levels line start anchor stack' emission').1 ∧
      Emissions
        (scanLine repository stallLimit (shift + offset) levels line start anchor stack emission).2
        (scanLine repository stallLimit offset levels line start anchor stack' emission').2 := by
  have hscan : LineScan.InStep Stacks Emissions
      { repository, stallLimit, line, offset := shift + offset,
        reenter := reentry repository stallLimit (shift + offset) levels }
      { repository, stallLimit, line, offset,
        reenter := reentry repository stallLimit offset levels } :=
    ⟨rfl, rfl, hreenter, hstacks, hemissions⟩
  have hbegin : Drive.InStep Stacks Emissions (.begin start anchor stack emission)
      (.begin start anchor stack' emission') :=
    ⟨rfl, rfl, hstack, rfl, rfl, hstacks.depth_eq hstack, hemission⟩
  have hdrive := LineScan.drive_inStep hscan rfl hbegin
  rw [scanLine_eq, scanLine_eq]
  exact ⟨hdrive.stack, hdrive.emission⟩

/-- Groups are scanned in step, however deep they nest. -/
theorem reentry_inStep (hemissions : Emission.Coupling repository (shift + offset) offset Emissions)
    (stallLimit levels : Nat) (line : Line) :
    Option.Rel (Reenter.Coupled line Emissions)
      (reentry repository stallLimit (shift + offset) levels)
      (reentry repository stallLimit offset levels) := by
  -- a group starts with a stack of its own, so nothing is carried over
  have hfresh (bottom : Frame) : ScopeStack.Moved shift
      (fun regions regions' => regions = [] ∧ regions' = []) { bottom } { bottom } :=
    ⟨rfl, .carried ⟨rfl, rfl⟩⟩
  induction levels generalizing line with
  | zero => exact .none
  | succ levels ih =>
    refine .some ?_
    intro stop start rule nameScopes emission emission' h
    exact (drive_begin_inStep (ScopeStack.Moved.coupling_nil _ _ _ _) hemissions (ih _) start none
      (hfresh _) h).2

/-- **Scans of a line stay in step**, groups that are scanned again included. -/
theorem scanLine_inStep (stallLimit : Nat) {Stacks : ScopeStack → ScopeStack → Prop} {line : Line}
    (hstacks : ScopeStack.Coupling repository line (shift + offset) offset Stacks)
    (hemissions : Emission.Coupling repository (shift + offset) offset Emissions) (levels : Nat)
    (start : Nat) (anchor : Option Nat) {stack stack' : ScopeStack} (hstack : Stacks stack stack')
    {emission emission' : Emission} (hemission : Emissions emission emission') :
    Stacks
        (scanLine repository stallLimit (shift + offset) levels line start anchor stack emission).1
        (scanLine repository stallLimit offset levels line start anchor stack' emission').1 ∧
      Emissions
        (scanLine repository stallLimit (shift + offset) levels line start anchor stack emission).2
        (scanLine repository stallLimit offset levels line start anchor stack' emission').2 :=
  drive_begin_inStep hstacks hemissions (reentry_inStep hemissions stallLimit levels line) start
    anchor hstack hemission

end Lines

end ScopeScanner
