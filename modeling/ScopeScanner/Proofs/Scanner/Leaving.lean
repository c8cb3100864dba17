import ScopeScanner.Proofs.Scanner.Stalling

/-!
# How regions leave the stack

A region leaves the stack when its own end wins, or when a character is covered by force. Only regions
that have begun since the cursor came to its present position are dropped then: a scan keeps the lowest
depth that its stack has had there (`Scene.settled`), and drops what lies above.

What a step does to the stack is said once (`LineScan.Turn`), together with the match that wins. Three
relations speak about a run: where it may get (`LineScan.Reaches`), in which states it comes to a
position (`LineScan.Arrives`), and which states follow while the cursor stays (`LineScan.Stands`).

* **`LineScan.Settled.step`**: as long as the cursor stays, some state since its arrival had the settled
  depth, and all regions above that depth have begun since.
* **`LineScan.leaves_only`**: hence each region that a step takes away has been ended by its own end, or
  has begun in the present position and is dropped as a character is covered by force.
-/

namespace ScopeScanner

namespace LineScan

variable {scan : LineScan}

/-! ## What a step does to the stack -/

/-- An empty begin of a region wins, and is refused. -/
def RefusesBegin (scan : LineScan) (state : Drive) : Prop :=
  ∃ id rule region groups, scan.winner? state = some ⟨.rule id, groups⟩ ∧
    scan.repository.rule? id = some rule ∧ rule.kind = .region region ∧
    groups.whole.isEmpty = true ∧ scan.refuses rule groups state.scene.stack = true

/-- What a step that matches does to the stack. It keeps the regions, ends the innermost one, or begins
one more. -/
inductive Turn (scan : LineScan) (state : Drive) (scene : Scene) (stop : Nat) (unwind : Bool) :
    Prop where
  | keeps (hregions : scene.stack.regions = state.scene.stack.regions)
      (hsettled : scene.settled = state.scene.settled)
      (hunwind : unwind = true → scan.RefusesBegin state)
  | ends (pattern : Pattern) (groups : Groups)
      (hwinner : scan.winner? state = some ⟨.regionEnd, groups⟩)
      (hclosing : state.scene.stack.top.closing = some pattern)
      (hfinds : scan.Finds state pattern groups)
      (hregions : scene.stack.regions = state.scene.stack.regions.tail)
      (hsettled : scene.settled = min state.scene.settled scene.stack.depth)
      (hunwind : unwind = false)
  | begins (id : RuleId) (rule : Rule) (region : Region) (groups : Groups) (frame : Frame)
      (hwinner : scan.winner? state = some ⟨.rule id, groups⟩)
      (hrule : scan.repository.rule? id = some rule) (hkind : rule.kind = .region region)
      (hfinds : scan.Finds state region.opening groups)
      (hrefuses : scan.refuses rule groups state.scene.stack = false)
      (hframe : frame.rule = rule.id) (hstart : frame.start = scan.offset + groups.whole.start)
      (hstop : stop = groups.whole.stop)
      (hregions : scene.stack.regions = frame :: state.scene.stack.regions)
      (hsettled : scene.settled = state.scene.settled) (hunwind : unwind = false)

/-- Ending a region settles the stack at its new depth, if that is the lowest so far. -/
theorem closed_settled (scan : LineScan) (groups : Groups) (scene : Scene) :
    (scan.closed groups scene).settled =
      min scene.settled (scan.closed groups scene).stack.depth := by
  obtain ⟨⟨bottom, regions⟩, _, _, _, _⟩ := scene
  cases regions with
  | nil => rfl
  | cons frame rest => rfl

/-- Each step that matches is such a turn. -/
theorem respond_turn {state : Drive} {scene : Scene} {stop : Nat} {forced unwind : Bool}
    (hresponse : scan.respond state = .matched scene stop forced unwind) :
    scan.Turn state scene stop unwind := by
  rw [respond_eq] at hresponse
  cases hwinner : scan.winner? state with
  | none =>
    rw [hwinner] at hresponse
    cases hresponse
  | some winner =>
    obtain ⟨target, groups⟩ := winner
    rw [hwinner] at hresponse
    rcases winner?_eq_some hwinner with
      ⟨htarget, pattern, hclosing, hfinds⟩ | ⟨id, hid, htarget, rule, pattern, hrule, hpattern, hfinds⟩
    · obtain rfl : target = .regionEnd := htarget
      dsimp only at hresponse
      rw [closeRegion_eq] at hresponse
      cases hresponse
      refine .ends pattern groups hwinner hclosing hfinds ?_ (closed_settled scan _ _) rfl
      rw [closed_stack]
      rfl
    · obtain rfl : target = .rule id := htarget
      dsimp only at hresponse
      rw [applyRule, hrule] at hresponse
      dsimp only at hresponse
      rw [Rule.pattern?] at hpattern
      -- a group or a link has no pattern, so it cannot have won
      cases hkind : rule.kind with
      | simple found captures =>
        rw [hkind] at hresponse
        cases hresponse
        exact .keeps rfl rfl (fun h => by cases h)
      | region region =>
        rw [hkind] at hresponse hpattern
        obtain rfl := Option.some.inj hpattern
        dsimp only at hresponse
        rw [openRegion_eq] at hresponse
        have hstack : (scan.approached state groups).stack = state.scene.stack := rfl
        rw [hstack] at hresponse
        split at hresponse
        · next hrefuses =>
          cases hresponse
          have hempty : groups.whole.isEmpty = true := by
            rw [refuses, Bool.and_eq_true] at hrefuses
            exact hrefuses.1
          exact .keeps rfl rfl fun _ => ⟨id, rule, region, groups, hwinner, hrule, hkind, hempty, hrefuses⟩
        · next hrefuses =>
          cases hresponse
          obtain ⟨frame, hpush, hframe, hstart⟩ :=
            scan.entered_stack rule region groups (scan.approached state groups)
          refine .begins id rule region groups frame hwinner hrule hkind hfinds
            (Bool.eq_false_iff.mpr hrefuses) hframe hstart rfl ?_ rfl rfl
          rw [hpush]
          rfl
      | group patterns =>
        rw [hkind] at hpattern
        cases hpattern
      | link target =>
        rw [hkind] at hpattern
        cases hpattern

/-! ## Runs -/

theorem Reaches.trans {first state last : Drive} (h : scan.Reaches first state)
    (h' : scan.Reaches state last) : scan.Reaches first last := by
  induction h with
  | refl => exact h'
  | step hinside hresponse _ ih => exact .step hinside hresponse (ih h')

/-- A scan goes on from wherever it gets. -/
theorem Reaches.drive_eq {first last : Drive} (h : scan.Reaches first last) :
    scan.drive first = scan.drive last := by
  induction h with
  | refl => rfl
  | step hinside hresponse _ ih =>
    rw [LineScan.drive_eq, if_pos hinside, hresponse]
    exact ih

/-- The states in which a scan comes to a position: the first one, and those that a step has moved
to. -/
inductive Arrives (scan : LineScan) (first : Drive) : Drive → Prop where
  | first : Arrives scan first first
  | moved {state : Drive} {scene : Scene} {stop : Nat} {forced unwind : Bool}
      (hreach : scan.Reaches first state) (hinside : state.cursor < scan.line.size)
      (hresponse : scan.respond state = .matched scene stop forced unwind)
      (hmoves : state.cursor < (scan.settle state scene stop forced unwind).cursor) :
      Arrives scan first (scan.settle state scene stop forced unwind)

/-- The states that follow one another while the cursor stays where it is. -/
inductive Stands (scan : LineScan) (arrival : Drive) : Drive → Prop where
  | arrived : Stands scan arrival arrival
  | step {state : Drive} {scene : Scene} {stop : Nat} {forced unwind : Bool}
      (h : Stands scan arrival state) (hinside : state.cursor < scan.line.size)
      (hresponse : scan.respond state = .matched scene stop forced unwind)
      (hstays : (scan.settle state scene stop forced unwind).cursor = state.cursor) :
      Stands scan arrival (scan.settle state scene stop forced unwind)

/-- A frame has been put on the regions `below` since the scan arrived, by the begin of a region that
does not end beyond the cursor. -/
def BegunSince (scan : LineScan) (arrival : Drive) (frame : Frame) (below : List Frame) : Prop :=
  ∃ state scene stop forced unwind, scan.Stands arrival state ∧ state.cursor < scan.line.size ∧
    scan.respond state = .matched scene stop forced unwind ∧ stop ≤ state.cursor ∧
    state.scene.stack.regions = below ∧ scene.stack.regions = frame :: below

/-- What is known of a scan that has come to its position in the state `arrival`. In some state since
then the stack was as deep as it is settled, and the regions above have begun since. -/
structure Settled (scan : LineScan) (arrival state : Drive) : Prop where
  stands : scan.Stands arrival state
  lowest : ∃ between, scan.Stands arrival between ∧ scan.Stands between state ∧
    between.scene.stack.depth = state.scene.settled
  begun : ∀ above frame below, state.scene.stack.regions = above ++ frame :: below →
    state.scene.settled ≤ below.length + 1 → scan.BegunSince arrival frame below

/-- A scan that has just arrived is settled. -/
theorem Settled.arrived {arrival : Drive}
    (h : arrival.scene.settled = arrival.scene.stack.depth) : scan.Settled arrival arrival where
  stands := .arrived
  lowest := ⟨arrival, .arrived, .arrived, h.symm⟩
  begun := by
    intro above frame below hregions hle
    rw [h, ScopeStack.depth, hregions, List.length_append, List.length_cons] at hle
    omega

/-- What a turn does not take away above the settled depth has begun since the arrival, and so has what
it adds. -/
theorem Turn.begun {arrival state : Drive} {scene : Scene} {stop : Nat} {forced unwind : Bool}
    (hturn : scan.Turn state scene stop unwind) (h : scan.Settled arrival state)
    (hinside : state.cursor < scan.line.size)
    (hresponse : scan.respond state = .matched scene stop forced unwind)
    (hstays : stop ≤ state.cursor) {above below : List Frame} {frame : Frame}
    (hregions : scene.stack.regions = above ++ frame :: below)
    (hle : scene.settled ≤ below.length + 1) : scan.BegunSince arrival frame below := by
  cases hturn with
  | keeps hsame hsettled hunwind =>
    exact h.begun above frame below (hsame ▸ hregions) (hsettled ▸ hle)
  | ends pattern groups hwinner hclosing hfinds htail hsettled hunwind =>
    -- the new depth lies above this frame, so the settled depth is still the one from before
    have hdepth : below.length + 1 < scene.stack.depth := by
      rw [ScopeStack.depth, hregions, List.length_append, List.length_cons]
      omega
    have hle' : state.scene.settled ≤ below.length + 1 := by omega
    cases hold : state.scene.stack.regions with
    | nil =>
      rw [htail, hold] at hregions
      simp at hregions
    | cons top rest =>
      rw [htail, hold, List.tail_cons] at hregions
      exact h.begun (top :: above) frame below (by rw [hold, hregions]; rfl) hle'
  | begins id rule region groups top hwinner hrule hkind hfinds hrefuses hframe hstart hstop hpush
      hsettled hunwind =>
    rw [hpush] at hregions
    cases above with
    | nil =>
      obtain ⟨rfl, hbelow⟩ := List.cons.inj hregions
      exact ⟨state, scene, stop, forced, unwind, h.stands, hinside, hresponse, hstays, hbelow,
        hbelow ▸ hpush⟩
    | cons _ above =>
      exact h.begun above frame below (List.cons.inj hregions).2 (hsettled ▸ hle)

/-- The lowest depth so far, and the depth after a turn. -/
theorem Turn.settled_eq {state : Drive} {scene : Scene} {stop : Nat} {unwind : Bool}
    (hturn : scan.Turn state scene stop unwind) :
    scene.settled = state.scene.settled ∨ scene.settled = scene.stack.depth := by
  cases hturn with
  | keeps _ hsettled _ => exact Or.inl hsettled
  | ends pattern groups _ _ _ _ hsettled _ => omega
  | begins id rule region groups frame _ _ _ _ _ _ _ _ _ hsettled _ => exact Or.inl hsettled

/-! ## After a turn -/

/-- What follows a turn: the cursor moves by the match, or it moves by one character that is covered by
force, or it stays. Only in the second case regions may be dropped. -/
theorem settle_cases {state : Drive} (hinside : state.cursor < scan.line.size) (scene : Scene) (stop : Nat)
    (forced unwind : Bool) :
    let next := scan.settle state scene stop forced unwind
    (state.cursor < next.cursor ∧ next.scene.settled = next.scene.stack.depth ∧
        next.scene.stack.regions = scene.stack.regions) ∨
      (stop ≤ state.cursor ∧ next.cursor = scan.line.next state.cursor ∧
        state.cursor < next.cursor ∧ next.scene.settled = next.scene.stack.depth ∧
        next.scene.stack.regions =
          scene.stack.regions.drop (scene.stack.depth - scene.settled) ∧
        (unwind = true ∨ scan.stallLimit < state.stall + 1)) ∨
      (stop ≤ state.cursor ∧
        next = { cursor := state.cursor, stall := state.stall + 1, scene }) := by
  dsimp only
  rw [settle]
  split
  · next hmoves =>
    left
    split
    · refine ⟨scan.line.lt_next_of_lt hinside hmoves, rfl, ?_⟩
      cases unwind with
      | false => rfl
      | true =>
        -- the stack has just been settled, so nothing lies above
        show (Scene.unwind { scene with settled := scene.stack.depth }).stack.regions = _
        rw [Scene.unwind, Scene.dropRegions_regions, Nat.sub_self, List.drop_zero]
    · exact ⟨hmoves, rfl, rfl⟩
  · next hstays =>
    dsimp only
    split
    · have hnext : state.cursor < scan.line.next state.cursor := scan.line.lt_next hinside
      cases hunwind : unwind || decide (scan.stallLimit < state.stall + 1) with
      | false => exact Or.inl ⟨hnext, rfl, rfl⟩
      | true =>
        rw [Bool.or_eq_true, decide_eq_true_eq] at hunwind
        exact Or.inr (Or.inl ⟨Nat.le_of_not_lt hstays, rfl, hnext, rfl,
          Scene.dropRegions_regions _ _, hunwind⟩)
    · exact Or.inr (Or.inr ⟨Nat.le_of_not_lt hstays, rfl⟩)

/-- **A scan stays settled where it stands, and is settled anew where it moves.** -/
theorem Settled.step {arrival state : Drive} (h : scan.Settled arrival state) {scene : Scene}
    {stop : Nat} {forced unwind : Bool} (hinside : state.cursor < scan.line.size)
    (hresponse : scan.respond state = .matched scene stop forced unwind) :
    let next := scan.settle state scene stop forced unwind
    (state.cursor < next.cursor ∧ scan.Settled next next) ∨ scan.Settled arrival next := by
  have hturn := respond_turn hresponse
  rcases scan.settle_cases hinside scene stop forced unwind with
    ⟨hmoves, hsettled, _⟩ | ⟨_, _, hmoves, hsettled, _⟩ | ⟨hstays, hnext⟩
  · exact Or.inl ⟨hmoves, .arrived hsettled⟩
  · exact Or.inl ⟨hmoves, .arrived hsettled⟩
  · right
    have hcursor : (scan.settle state scene stop forced unwind).cursor = state.cursor := by
      rw [hnext]
    have hscene : (scan.settle state scene stop forced unwind).scene = scene := by rw [hnext]
    refine ⟨.step h.stands hinside hresponse hcursor, ?_, ?_⟩
    · rw [hscene]
      rcases hturn.settled_eq with hsame | hlowest
      · obtain ⟨between, hsince, hbetween, hdepth⟩ := h.lowest
        exact ⟨between, hsince, .step hbetween hinside hresponse hcursor, hdepth.trans hsame.symm⟩
      · -- the turn leaves the stack at its lowest depth so far
        refine ⟨_, .step h.stands hinside hresponse hcursor, .arrived, ?_⟩
        rw [hscene, hlowest]
    · rw [hscene]
      intro above frame below hregions hle
      exact hturn.begun h hinside hresponse hstays hregions hle

/-- In whatever state a run is, it has arrived there and is settled since. -/
theorem Reaches.settled {origin state last : Drive} (h : scan.Reaches state last)
    (horigin : scan.Reaches origin state)
    (hstate : ∃ arrival, scan.Arrives origin arrival ∧ scan.Settled arrival state) :
    ∃ arrival, scan.Arrives origin arrival ∧ scan.Settled arrival last := by
  induction h with
  | refl => exact hstate
  | @step state last scene stop forced unwind hinside hresponse _ ih =>
    obtain ⟨arrival, harrives, hsettled⟩ := hstate
    refine ih (horigin.trans (.step hinside hresponse (.refl _))) ?_
    rcases hsettled.step hinside hresponse with ⟨hmoves, hnext⟩ | hnext
    · exact ⟨_, .moved horigin hinside hresponse hmoves, hnext⟩
    · exact ⟨arrival, harrives, hnext⟩

/-! ## What leaves -/

/-- The innermost region has been ended by its own end, which has won. -/
def EndsTop (scan : LineScan) (state : Drive) (scene : Scene) : Prop :=
  ∃ frame pattern groups, state.scene.stack.regions = frame :: scene.stack.regions ∧
    frame.closing = some pattern ∧ scan.Finds state pattern groups ∧
    scan.winner? state = some ⟨.regionEnd, groups⟩

/-- How regions leave in a step, for a scan that has come to its position in the state `arrival`. The
match leads to `scene`, and what follows it to `next`. -/
structure Leaves (scan : LineScan) (arrival state : Drive) (scene : Scene) (stop : Nat)
    (next : Drive) : Prop where
  ended : state.scene.stack.regions <:+ scene.stack.regions ∨ scan.EndsTop state scene
  /-- Others are dropped only where a character is covered by force, after a refused begin or too many
  steps, and they have begun there. -/
  dropped : ∃ dropped, scene.stack.regions = dropped ++ next.scene.stack.regions ∧
    (dropped ≠ [] → stop ≤ state.cursor ∧ next.cursor = scan.line.next state.cursor ∧
      (scan.RefusesBegin state ∨ scan.stallLimit < state.stall + 1)) ∧
    ∀ above frame below, dropped = above ++ frame :: below →
      scan.BegunSince arrival frame (below ++ next.scene.stack.regions)
  /-- What has been there since the arrival stays. -/
  stays : ∀ kept, (∀ between, scan.Stands arrival between → scan.Stands between state →
      kept <:+ between.scene.stack.regions) →
    kept <:+ scene.stack.regions → kept <:+ next.scene.stack.regions

/-- Turns take away the innermost region at most, and only by its end. -/
theorem Turn.ended {state : Drive} {scene : Scene} {stop : Nat} {unwind : Bool}
    (hturn : scan.Turn state scene stop unwind) :
    state.scene.stack.regions <:+ scene.stack.regions ∨ scan.EndsTop state scene := by
  cases hturn with
  | keeps hregions _ _ =>
    rw [hregions]
    exact Or.inl List.suffix_rfl
  | ends pattern groups hwinner hclosing hfinds hregions _ _ =>
    cases hold : state.scene.stack.regions with
    | nil => exact Or.inl (List.nil_suffix)
    | cons frame rest =>
      right
      rw [hold, List.tail_cons] at hregions
      refine ⟨frame, pattern, groups, by rw [hold, hregions], ?_, hfinds, hwinner⟩
      rwa [ScopeStack.top, hold] at hclosing
  | begins id rule region groups frame _ _ _ _ _ _ _ _ hregions _ _ =>
    rw [hregions]
    exact Or.inl (List.suffix_cons _ _)

/-- Only a refused begin asks for regions to be dropped. -/
theorem Turn.refuses {state : Drive} {scene : Scene} {stop : Nat} {unwind : Bool}
    (hturn : scan.Turn state scene stop unwind) (h : unwind = true) : scan.RefusesBegin state := by
  subst h
  cases hturn with
  | keeps _ _ hunwind => exact hunwind rfl
  | ends _ _ _ _ _ _ _ hunwind => cases hunwind
  | begins _ _ _ _ _ _ _ _ _ _ _ _ _ _ _ hunwind => cases hunwind

/-- What has been there since the arrival lies below the settled depth. -/
theorem Settled.length_lt {arrival state : Drive} (h : scan.Settled arrival state) {scene : Scene}
    {stop : Nat} {unwind : Bool} (hturn : scan.Turn state scene stop unwind) {kept : List Frame}
    (hkept : ∀ between, scan.Stands arrival between → scan.Stands between state →
      kept <:+ between.scene.stack.regions)
    (hscene : kept <:+ scene.stack.regions) : kept.length < scene.settled := by
  rcases hturn.settled_eq with hsame | hlowest
  · obtain ⟨between, hsince, hbetween, hdepth⟩ := h.lowest
    have hlength := (hkept between hsince hbetween).length_le
    rw [ScopeStack.depth] at hdepth
    omega
  · have hlength := hscene.length_le
    rw [ScopeStack.depth] at hlowest
    omega

theorem Settled.leaves {arrival state : Drive} (h : scan.Settled arrival state) {scene : Scene}
    {stop : Nat} {forced unwind : Bool} (hinside : state.cursor < scan.line.size)
    (hresponse : scan.respond state = .matched scene stop forced unwind) :
    scan.Leaves arrival state scene stop (scan.settle state scene stop forced unwind) := by
  have hturn := respond_turn hresponse
  -- where the regions stay as the turn has left them, there is nothing more to show
  have hnone {next : Drive} (hregions : next.scene.stack.regions = scene.stack.regions) :
      scan.Leaves arrival state scene stop next := by
    refine ⟨hturn.ended, ⟨[], by rw [hregions]; rfl, by simp, by simp⟩, ?_⟩
    intro kept _ hkept
    rwa [hregions]
  rcases scan.settle_cases hinside scene stop forced unwind with
    ⟨_, _, hregions⟩ | ⟨hstays, hcursor, _, _, hregions, hforced⟩ | ⟨_, hnext⟩
  · exact hnone hregions
  · have hlength := congrArg List.length hregions
    rw [List.length_drop, ScopeStack.depth] at hlength
    refine ⟨hturn.ended, ⟨scene.stack.regions.take (scene.stack.depth - scene.settled), ?_, ?_, ?_⟩,
      ?_⟩
    · rw [hregions, List.take_append_drop]
    · exact fun _ => ⟨hstays, hcursor, hforced.imp_left hturn.refuses⟩
    · intro above frame below hdropped
      have hscene : scene.stack.regions = above ++ frame ::
          (below ++ (scan.settle state scene stop forced unwind).scene.stack.regions) := by
        rw [hregions, ← List.cons_append, ← List.append_assoc, ← hdropped, List.take_append_drop]
      have hcount := congrArg List.length hdropped
      rw [List.length_take, List.length_append, List.length_cons, ScopeStack.depth] at hcount
      refine hturn.begun h hinside hresponse hstays hscene ?_
      rw [List.length_append]
      omega
    · intro kept hkept hscene
      have hlt := h.length_lt hturn hkept hscene
      have hle := hscene.length_le
      refine List.suffix_of_suffix_length_le hscene ?_ ?_
      · rw [hregions]
        exact List.drop_suffix _ _
      · omega
  · exact hnone (by rw [hnext])

/-- **Regions leave by their own end, or are dropped where they began.** Take any run of a scan along a
line, from any stack, and any state that it gets to. There the scan has come to its position at some
time. If nothing matches any more, the stack stays as it is. Any other step takes away the innermost
region if the end of that region has won, and then, if a character is covered by force, such regions as
have begun since the scan came to this position; a region that was there by then, and has not ended
since, stays. The lines of a buffer are scanned by such runs, each with all the frames that the one
before has left. -/
theorem leaves_only :
    (∀ (scan : LineScan) (start : Nat) (anchor : Option Nat) (stack : ScopeStack)
      (emission : Emission) (state : Drive),
      scan.Reaches (.begin start anchor stack emission) state →
        scan.drive (.begin start anchor stack emission) = scan.drive state ∧
        ∃ arrival, scan.Arrives (.begin start anchor stack emission) arrival ∧
          scan.Stands arrival state ∧
          (∀ scene, scan.respond state = .unmatched scene → scene.stack = state.scene.stack) ∧
          ∀ scene stop forced unwind, state.cursor < scan.line.size →
            scan.respond state = .matched scene stop forced unwind →
              scan.Leaves arrival state scene stop (scan.settle state scene stop forced unwind)) ∧
    ∀ (repository : Repository) (stallLimit : Nat) (progress : ScanProgress) (chars : List Char),
      ∃ anchor emission,
        (repository.scanNextLine stallLimit progress chars).stack =
          ((repository.lineScan stallLimit progress chars).drive
            (.begin 0 anchor progress.stack.clearAnchors emission)).stack ∧
        progress.stack.clearAnchors.depth = progress.stack.depth := by
  constructor
  · intro scan start anchor stack emission state hreach
    refine ⟨hreach.drive_eq, ?_⟩
    have hbegin : scan.Settled (.begin start anchor stack emission)
        (.begin start anchor stack emission) := .arrived rfl
    obtain ⟨arrival, harrives, hsettled⟩ := hreach.settled (.refl _) ⟨_, .first, hbegin⟩
    refine ⟨arrival, harrives, hsettled.stands, ?_, ?_⟩
    · intro scene hresponse
      exact (Step.unmatched_stack (hresponse ▸ respond_step scan state)).2
    · intro scene stop forced unwind hinside hresponse
      exact hsettled.leaves hinside hresponse
  · intro repository stallLimit progress chars
    refine ⟨if progress.stack.clearAnchors.top.beganAtLineEnd then some 0 else none,
      { progress.emission with
        sink := progress.emission.sink.beginLine progress.offset (Line.byteCount chars) },
      ?_, progress.stack.clearAnchors_depth⟩
    rw [repository.scanNextLine_eq]
    rfl

/-- The state that a scan gets to in so many steps, unless it ends before. -/
def afterSteps (scan : LineScan) : (steps : Nat) → Drive → Option Drive
  | 0, state => some state
  | steps + 1, state =>
    if state.cursor < scan.line.size then
      match scan.respond state with
      | .unmatched _ => none
      | .matched scene stop forced unwind =>
        scan.afterSteps steps (scan.settle state scene stop forced unwind)
    else none

theorem reaches_of_afterSteps {steps : Nat} {state last : Drive}
    (h : scan.afterSteps steps state = some last) : scan.Reaches state last := by
  induction steps generalizing state with
  | zero =>
    obtain rfl := Option.some.inj h
    exact .refl _
  | succ steps ih =>
    rw [afterSteps] at h
    split at h
    · next hinside =>
      split at h
      · cases h
      · next hresponse => exact .step hinside hresponse (ih h)
    · cases h

/-- A region `q` holds an `o` that ends before an `x`, and two regions that begin there with empty text
and hold each other. -/
def crossingGrammar : Grammar where
  scopeName := "source.t"
  patterns := [{
    opening := some "q"
    closing := some "z"
    patterns := [{ opening := some "o", closing := some "(?=x)" }, { reference := some "#a" }] }]
  repository := [
    ("a", { opening := some "(?=x)", closing := some "y", patterns := [{ reference := some "#b" }] }),
    ("b", { opening := some "(?=x)", closing := some "y", patterns := [{ reference := some "#a" }] })]

/-- The scan along the line `qox` from a fresh stack. -/
def crossingScan (repository : Repository) : LineScan :=
  repository.lineScan 32 (.begin {} {} (.fresh repository)) ['q', 'o', 'x']

def crossingStart (repository : Repository) : Drive :=
  .begin 0 none (.fresh repository) { sink := { merge := true } }

theorem crossingGrammar_drops :
    (match Repository.compile crossingGrammar 1000 with
      | .ok repository =>
        let scan := crossingScan repository
        match scan.afterSteps 5 (crossingStart repository) with
        | some state =>
          decide (state.cursor < scan.line.size) &&
          match scan.respond state with
          | .matched scene stop forced unwind =>
            decide (scene.stack.depth = 4) &&
              decide ((scan.settle state scene stop forced unwind).scene.stack.depth = 2)
          | .unmatched _ => false
        | none => false
      | .error _ => false) = true := by
  decide +kernel

/-- Before the `x` the `o` ends, both regions begin, and the first of them is refused when it begins
again. Both are dropped then, and the region `q` stays. -/
theorem leaves_only_crossing :
    ∃ repository state scene stop forced unwind arrival,
      Repository.compile crossingGrammar 1000 = .ok repository ∧
      let scan := crossingScan repository
      let next := scan.settle state scene stop forced unwind
      scan.Reaches (crossingStart repository) state ∧ state.cursor < scan.line.size ∧
        scan.respond state = .matched scene stop forced unwind ∧
        scan.Arrives (crossingStart repository) arrival ∧ scan.Stands arrival state ∧
        scan.Leaves arrival state scene stop next ∧
        scene.stack.depth = 4 ∧ next.scene.stack.depth = 2 := by
  have hdrops := crossingGrammar_drops
  split at hdrops
  · next repository hcompile =>
    dsimp only at hdrops
    split at hdrops
    · next state hsteps =>
      rw [Bool.and_eq_true, decide_eq_true_eq] at hdrops
      obtain ⟨hinside, hdrops⟩ := hdrops
      split at hdrops
      · next scene stop forced unwind hresponse =>
        rw [Bool.and_eq_true, decide_eq_true_eq, decide_eq_true_eq] at hdrops
        have hreach := reaches_of_afterSteps hsteps
        obtain ⟨_, arrival, harrives, hstands, _, hleaves⟩ :=
          leaves_only.1 (crossingScan repository) 0 none (.fresh repository)
            { sink := { merge := true } } state hreach
        exact ⟨repository, state, scene, stop, forced, unwind, arrival, hcompile, hreach, hinside,
          hresponse, harrives, hstands, hleaves scene stop forced unwind hinside hresponse, hdrops⟩
      · cases hdrops
    · cases hdrops
  · cases hdrops

end LineScan

end ScopeScanner
