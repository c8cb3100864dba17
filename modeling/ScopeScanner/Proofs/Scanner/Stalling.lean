import ScopeScanner.Proofs.Regex.Forward
import ScopeScanner.Proofs.Scanner.Ends
import ScopeScanner.Proofs.Scanner.Places

/-!
# Steps without progress

A scan along a line may stand still for some steps: regions end there and begin there with empty matches.
It cannot do so for long, even if steps without progress are not counted (`LineScan.advance`), provided
that matches do not lie before the search that finds them (`Pattern.Forward`):

* **`LineScan.Idles.count_le`**: a scan takes no more steps in a row without progress than its stack is
  deep and the repository has region rules.
* **`LineScan.exists_runsTo`**: so it gets to the end of the line.

Two measures carry this. `LineScan.patience` gets smaller with every step without progress: while regions
end, the stack gets shallower, and once one has begun, further ones can only begin, each of another rule,
because the end of a region that has begun empty in the same place counts as progress.
`LineScan.potential` never gets larger, and bounds how deep the stack can become.
-/

namespace ScopeScanner

/-- Matches do not lie before the search, for all patterns that a scan over the repository can meet. -/
structure Repository.Forward (repository : Repository) : Prop where
  rules : ∀ id rule pattern, repository.rule? id = some rule → rule.pattern? = some pattern →
    pattern.Forward
  ends : ∀ line, repository.MakesEnds line Pattern.Forward

namespace LineScan

/-! ## Scanning without a limit -/

/-- Moves to the end of a match, however many steps there have been without progress. -/
def advance (scan : LineScan) (drive : Drive) (scene : Scene) (stop : Nat) (forced unwind : Bool) :
    Drive :=
  if drive.cursor < stop then
    let scene := { scene with settled := scene.stack.depth }
    if forced then scan.force stop unwind scene else { cursor := stop, scene }
  else if forced then scan.force drive.cursor unwind scene
  else { cursor := drive.cursor, stall := drive.stall + 1, scene }

/-- Below its limit a scan advances as if there were none. -/
theorem settle_eq_advance {scan : LineScan} {drive : Drive} (h : drive.stall + 1 ≤ scan.stallLimit)
    (scene : Scene) (stop : Nat) (forced unwind : Bool) :
    scan.settle drive scene stop forced unwind = scan.advance drive scene stop forced unwind := by
  have hlimit : decide (scan.stallLimit < drive.stall + 1) = false := decide_eq_false (by omega)
  simp only [settle, advance, hlimit, Bool.or_false]

/-- A step of a scan that neither moves it nor covers a character by force. -/
inductive Idle (scan : LineScan) (state : Drive) : Drive → Prop where
  | intro {scene : Scene} {stop : Nat} {unwind : Bool} (hinside : state.cursor < scan.line.size)
      (hresponse : scan.respond state = .matched scene stop false unwind)
      (hstays : ¬ state.cursor < stop) :
      Idle scan state (scan.advance state scene stop false unwind)

/-- So many steps in a row without progress. -/
inductive Idles (scan : LineScan) : (count : Nat) → Drive → Drive → Prop where
  | none (state : Drive) : Idles scan 0 state state
  | step {count : Nat} {state next last : Drive} (hidle : scan.Idle state next)
      (hrest : Idles scan count next last) : Idles scan (count + 1) state last

/-- The states that a scan gets to, one step after the other. -/
inductive Reaches (scan : LineScan) : Drive → Drive → Prop where
  | refl (state : Drive) : Reaches scan state state
  | step {state last : Drive} {scene : Scene} {stop : Nat} {forced unwind : Bool}
      (hinside : state.cursor < scan.line.size)
      (hresponse : scan.respond state = .matched scene stop forced unwind)
      (hrest : Reaches scan (scan.settle state scene stop forced unwind) last) :
      Reaches scan state last

/-- A scan without a limit gets to its end. -/
inductive RunsTo (scan : LineScan) : Drive → Scene → Prop where
  | finish {state : Drive} (hend : scan.line.size ≤ state.cursor) : RunsTo scan state state.scene
  | unmatched {state : Drive} {scene : Scene} (hinside : state.cursor < scan.line.size)
      (hresponse : scan.respond state = .unmatched scene) : RunsTo scan state scene
  | matched {state : Drive} {scene last : Scene} {stop : Nat} {forced unwind : Bool}
      (hinside : state.cursor < scan.line.size)
      (hresponse : scan.respond state = .matched scene stop forced unwind)
      (hrest : RunsTo scan (scan.advance state scene stop forced unwind) last) :
      RunsTo scan state last

/-! ## Measures -/

/-- Number of region rules that have not begun in a place. -/
def room (scan : LineScan) (cursor : Nat) (stack : ScopeStack) : Nat :=
  scan.repository.regionCount -
    (scan.repository.begunIds stack.regions (scan.offset + cursor)).card

/-- Bounds the number of steps without progress that are left. If the innermost region has begun empty
where the scan stands, no region can end there without progress. -/
def patience (scan : LineScan) (state : Drive) : Nat :=
  if state.scene.emptyPush = some (state.scene.stack.depth, state.cursor) then
    scan.room state.cursor state.scene.stack
  else state.scene.stack.depth + scan.repository.regionCount

/-- Bounds the depth of the stack on the rest of the line: every move may open one region, and each
region rule may begin once more where the scan then stands. -/
def potential (scan : LineScan) (state : Drive) : Nat :=
  state.scene.stack.depth + scan.room state.cursor state.scene.stack +
    (scan.repository.regionCount + 1) * (scan.line.size - state.cursor)

variable {scan : LineScan} {state : Drive}

theorem room_le (scan : LineScan) (cursor : Nat) (stack : ScopeStack) :
    scan.room cursor stack ≤ scan.repository.regionCount :=
  Nat.sub_le _ _

/-- A rule that begins in a place for the first time leaves room for one less. -/
theorem room_push {stack : ScopeStack} {frame : Frame} {cursor : Nat}
    (hrule : frame.rule ∈ scan.repository.regionIds) (hstart : frame.start = scan.offset + cursor)
    (hnew : begunAt stack.regions frame.rule (scan.offset + cursor) = false) :
    scan.room cursor (stack.push frame) + 1 = scan.room cursor stack := by
  have hpushed := Repository.begunIds_push hrule hstart hnew
  have hcard : (scan.repository.begunIds (frame :: stack.regions) (scan.offset + cursor)).card ≤
      scan.repository.regionCount := Repository.begunIds_card_le _ _
  dsimp only [room, ScopeStack.push]
  omega

/-- The end of a region makes room for one more at most. -/
theorem room_pop (scan : LineScan) (cursor : Nat) (stack : ScopeStack) :
    scan.room cursor { stack with regions := stack.regions.tail } ≤ scan.room cursor stack + 1 := by
  obtain ⟨bottom, regions⟩ := stack
  cases regions with
  | nil => exact Nat.le_succ _
  | cons frame rest =>
    have hpopped : (scan.repository.begunIds (frame :: rest) (scan.offset + cursor)).card ≤
        (scan.repository.begunIds rest (scan.offset + cursor)).card + 1 :=
      Repository.begunIds_pop _ _ _
    dsimp only [room, List.tail_cons]
    omega

theorem patience_le (scan : LineScan) (state : Drive) :
    scan.patience state ≤ state.scene.stack.depth + scan.repository.regionCount := by
  have hroom := scan.room_le state.cursor state.scene.stack
  rw [patience]
  split
  · omega
  · exact Nat.le_refl _

/-- A match that does not take the scan further is empty, and lies where the scan stands. -/
theorem empty_of_stays {pattern : Pattern} (hforward : pattern.Forward) {groups : Groups}
    (hinside : state.cursor < scan.line.size) (hfinds : scan.Finds state pattern groups)
    (hstays : ¬ state.cursor < groups.whole.stop) :
    groups.whole.isEmpty = true ∧ groups.whole.start = state.cursor := by
  obtain ⟨hstart, hstop⟩ := hforward _ _ _ _ (Nat.le_of_lt hinside) hfinds
  exact ⟨decide_eq_true (by omega), by omega⟩

/-- A region that ends where the scan stands makes the stack shallower. It has not begun empty there. -/
theorem closed_idle (hopen : state.scene.stack.regions ≠ []) {groups : Groups}
    (hempty : groups.whole.isEmpty = true) (hplace : groups.whole.start = state.cursor)
    (hprogress : (scan.approached state groups).endsEmpty groups = false) (stall : Nat) :
    let next : Drive :=
      { cursor := state.cursor, stall, scene := scan.closed groups (scan.approached state groups) }
    scan.patience next < scan.patience state ∧ scan.potential next ≤ scan.potential state := by
  intro next
  have hstack : next.scene.stack =
      { state.scene.stack with regions := state.scene.stack.regions.tail } :=
    scan.closed_stack groups _
  have hdepth : next.scene.stack.depth + 1 = state.scene.stack.depth := by
    have hlength := List.length_pos_iff.mpr hopen
    rw [hstack, ScopeStack.depth, ScopeStack.depth, List.length_tail]
    omega
  have hroom : scan.room state.cursor next.scene.stack ≤
      scan.room state.cursor state.scene.stack + 1 := by
    rw [hstack]
    exact scan.room_pop state.cursor state.scene.stack
  -- had it begun empty here, its end would count as progress
  have hunlike : state.scene.emptyPush ≠ some (state.scene.stack.depth, state.cursor) := by
    rw [Scene.endsEmpty, hempty, hplace, Bool.true_and] at hprogress
    exact of_decide_eq_false hprogress
  constructor
  · -- so the patience that there was is that of the whole stack, which has lost a region
    have hpatience : scan.patience state = _ := if_neg hunlike
    have hnext := scan.patience_le next
    omega
  · refine Nat.add_le_add_right (?_ : next.scene.stack.depth +
      scan.room state.cursor next.scene.stack ≤ _) _
    omega

/-- A region that begins where the scan stands takes the place of one that may begin there. -/
theorem entered_idle {rule : Rule} {region : Region} {groups : Groups} {id : RuleId}
    (hrule : scan.repository.rule? id = some rule) (hkind : rule.kind = .region region)
    (hempty : groups.whole.isEmpty = true) (hplace : groups.whole.start = state.cursor)
    (hrefuses : scan.refuses rule groups state.scene.stack = false) (stall : Nat) :
    let next : Drive := {
      cursor := state.cursor, stall
      scene := scan.entered rule region groups (scan.approached state groups) }
    scan.patience next < scan.patience state ∧ scan.potential next ≤ scan.potential state := by
  intro next
  obtain ⟨frame, hpush, hid, hstart⟩ :=
    scan.entered_stack rule region groups (scan.approached state groups)
  have hregion := Repository.id_mem_regionIds hrule hkind
  have hnew := begunAt_of_not_refused hempty hrefuses
  rw [hplace] at hstart hnew
  rw [← hid] at hregion hnew
  have hroom := room_push hregion hstart hnew
  have hstack : next.scene.stack = state.scene.stack.push frame := hpush
  have hdepth : next.scene.stack.depth = state.scene.stack.depth + 1 := by rw [hstack]; rfl
  rw [← hstack] at hroom
  -- from here on until the scan moves, no region can end without progress
  have hbegun : next.scene.emptyPush = some (next.scene.stack.depth, state.cursor) := by
    show (if groups.whole.isEmpty then some (_, groups.whole.start) else none) = _
    rw [hempty, if_pos rfl, hplace]
    rfl
  constructor
  · have hpatience : scan.patience next = scan.room state.cursor next.scene.stack := if_pos hbegun
    have hbound := scan.room_le state.cursor state.scene.stack
    rw [hpatience, patience]
    split
    · omega
    · omega
  · refine Nat.add_le_add_right (?_ : next.scene.stack.depth +
      scan.room state.cursor next.scene.stack ≤ _) _
    omega

/-- A step without progress leaves less patience and no more potential. -/
theorem Step.idle (hforward : scan.repository.Forward)
    (hends : state.scene.stack.EndsWith Pattern.Forward) (hinside : state.cursor < scan.line.size)
    {scene : Scene} {stop : Nat} {forced unwind : Bool}
    (hstep : scan.Step state (.matched scene stop forced unwind)) (hforced : forced = false)
    (hstays : ¬ state.cursor < stop) (stall : Nat) :
    scan.patience { cursor := state.cursor, stall, scene } < scan.patience state ∧
      scan.potential { cursor := state.cursor, stall, scene } ≤ scan.potential state := by
  cases hstep with
  | close pattern groups hclosing hfinds =>
    obtain ⟨hpattern, hopen⟩ := hends.top hclosing
    obtain ⟨hempty, hplace⟩ := empty_of_stays hpattern hinside hfinds hstays
    exact closed_idle hopen hempty hplace hforced stall
  | simple id rule pattern captures groups hid hrule hkind hfinds =>
    have hpattern := hforward.rules id rule pattern hrule (by rw [Rule.pattern?, hkind])
    obtain ⟨hempty, _⟩ := empty_of_stays hpattern hinside hfinds hstays
    rw [hempty] at hforced
    cases hforced
  | refuse id rule region groups hid hrule hkind hfinds hrefuses => cases hforced
  | enter id rule region groups hid hrule hkind hfinds hrefuses =>
    have hpattern := hforward.rules id rule region.opening hrule (Rule.pattern?_of_region hkind)
    obtain ⟨hempty, hplace⟩ := empty_of_stays hpattern hinside hfinds hstays
    exact entered_idle hrule hkind hempty hplace hrefuses stall

/-- A step opens one region at most. -/
theorem Step.depth_le {scene : Scene} {stop : Nat} {forced unwind : Bool}
    (hstep : scan.Step state (.matched scene stop forced unwind)) :
    scene.stack.depth ≤ state.scene.stack.depth + 1 := by
  cases hstep with
  | close pattern groups hclosing hfinds =>
    rw [closed_stack, ScopeStack.depth, ScopeStack.depth, List.length_tail]
    show state.scene.stack.regions.length - 1 + 1 ≤ _
    omega
  | simple id rule pattern captures groups hid hrule hkind hfinds => exact Nat.le_succ _
  | refuse id rule region groups hid hrule hkind hfinds hrefuses => exact Nat.le_succ _
  | enter id rule region groups hid hrule hkind hfinds hrefuses => exact Nat.le_refl _

/-! ## Advancing -/

/-- Without a limit a scan advances as it would below one. -/
theorem advance_eq_settle (scan : LineScan) (state : Drive) (scene : Scene) (stop : Nat)
    (forced unwind : Bool) :
    scan.advance state scene stop forced unwind =
      { scan with stallLimit := state.stall + 1 }.settle state scene stop forced unwind := by
  have hlimit : state.stall + 1 ≤
      ({ scan with stallLimit := state.stall + 1 } : LineScan).stallLimit := Nat.le_refl _
  exact (settle_eq_advance hlimit scene stop forced unwind).symm

/-- A scan moves, or stands still without being forced to move. -/
theorem advance_cases (hinside : state.cursor < scan.line.size) (scene : Scene) (stop : Nat)
    (forced unwind : Bool) :
    let next := scan.advance state scene stop forced unwind
    (state.cursor < next.cursor ∧ next.stall = 0) ∨
      (forced = false ∧ ¬ state.cursor < stop ∧
        next = { cursor := state.cursor, stall := state.stall + 1, scene }) := by
  dsimp only
  rw [advance]
  split
  · next hmoved =>
    left
    split
    · exact ⟨scan.line.lt_next_of_lt hinside hmoved, rfl⟩
    · exact ⟨hmoved, rfl⟩
  · next hstays =>
    split
    · exact Or.inl ⟨scan.line.lt_next hinside, rfl⟩
    · next hforced => exact Or.inr ⟨Bool.eq_false_iff.mpr hforced, hstays, rfl⟩

/-- A move uses up the potential of at least one character, which is enough for a deeper stack and for
all rules to begin once more. -/
theorem potential_of_moved {next : Drive} (hinside : state.cursor < scan.line.size)
    (hmoved : state.cursor < next.cursor)
    (hdepth : next.scene.stack.depth ≤ state.scene.stack.depth + 1) :
    scan.potential next ≤ scan.potential state := by
  have hroom := scan.room_le next.cursor next.scene.stack
  have hleft : scan.line.size - next.cursor + 1 ≤ scan.line.size - state.cursor := by omega
  have hspent := Nat.mul_le_mul_left (scan.repository.regionCount + 1) hleft
  rw [Nat.mul_add, Nat.mul_one] at hspent
  rw [potential, potential]
  omega

/-- What a step and what follows it do to the measures. -/
theorem Step.advances (hforward : scan.repository.Forward)
    (hends : state.scene.stack.EndsWith Pattern.Forward) (hinside : state.cursor < scan.line.size)
    {scene : Scene} {stop : Nat} {forced unwind : Bool}
    (hstep : scan.Step state (.matched scene stop forced unwind)) :
    let next := scan.advance state scene stop forced unwind
    scan.potential next ≤ scan.potential state ∧
      ((state.cursor < next.cursor ∧ next.stall = 0) ∨
        (next.cursor = state.cursor ∧ next.stall = state.stall + 1 ∧
          scan.patience next < scan.patience state)) := by
  dsimp only
  rcases advance_cases hinside scene stop forced unwind with
    ⟨hmoved, hstall⟩ | ⟨hforced, hstays, hnext⟩
  · -- whatever is dropped on the way, the stack is deeper by one at most
    refine ⟨potential_of_moved hinside hmoved ?_, Or.inl ⟨hmoved, hstall⟩⟩
    obtain ⟨count, _, hregions⟩ :=
      { scan with stallLimit := state.stall + 1 }.settle_stack state scene stop forced unwind
    have hdepth := hstep.depth_le
    rw [advance_eq_settle, ScopeStack.depth, hregions, List.length_drop]
    rw [ScopeStack.depth] at hdepth
    omega
  · obtain ⟨hpatience, hpotential⟩ :=
      hstep.idle hforward hends hinside hforced hstays (state.stall + 1)
    rw [hnext]
    exact ⟨hpotential, Or.inr ⟨rfl, rfl, hpatience⟩⟩

/-- A scan that is in a sound session and waits for ends that are forward. -/
structure Ready (scan : LineScan) (state : Drive) : Prop where
  sound : state.scene.Sound scan.repository
  ends : state.scene.stack.EndsWith Pattern.Forward

/-- A scan that is ready stays ready. -/
theorem Ready.settle (h : scan.Ready state) (hscan : scan.KeepsSound)
    (hforward : scan.repository.Forward) {scene : Scene} {stop : Nat} {forced unwind : Bool}
    (hresponse : scan.respond state = .matched scene stop forced unwind) :
    scan.Ready (scan.settle state scene stop forced unwind) := by
  have hstep := hresponse ▸ respond_step scan state
  exact ⟨settle_sound hscan h.sound (respond_sound hscan h.sound hresponse) stop forced unwind,
    settle_endsWith scan (hstep.endsWith hscan (hforward.ends _) h.sound h.ends) state stop forced
      unwind⟩

theorem Ready.reaches (h : scan.Ready state) (hscan : scan.KeepsSound)
    (hforward : scan.repository.Forward) {last : Drive} (hreaches : scan.Reaches state last) :
    scan.Ready last := by
  induction hreaches with
  | refl state => exact h
  | step hinside hresponse hrest ih => exact ih (h.settle hscan hforward hresponse)

theorem Ready.advance (h : scan.Ready state) (hscan : scan.KeepsSound)
    (hforward : scan.repository.Forward) {scene : Scene} {stop : Nat} {forced unwind : Bool}
    (hresponse : scan.respond state = .matched scene stop forced unwind) :
    scan.Ready (scan.advance state scene stop forced unwind) := by
  let limited : LineScan := { scan with stallLimit := state.stall + 1 }
  have hkeeps : limited.KeepsSound := hscan
  have hready : limited.Ready state := ⟨h.sound, h.ends⟩
  have hready := hready.settle hkeeps hforward hresponse
  rw [advance_eq_settle]
  exact ⟨hready.sound, hready.ends⟩

/-! ## Scans without a limit -/

/-- Every step without progress uses up patience. -/
theorem Idles.count_le_patience (hscan : scan.KeepsSound) (hforward : scan.repository.Forward)
    {count : Nat} {last : Drive} (h : scan.Idles count state last) (hready : scan.Ready state) :
    count ≤ scan.patience state := by
  induction h with
  | none state => exact Nat.zero_le _
  | @step count state next last hidle hrest ih =>
    obtain ⟨hinside, hresponse, hstays⟩ := hidle
    obtain ⟨_, ⟨hmoved, _⟩ | ⟨_, _, hpatience⟩⟩ :=
      (hresponse ▸ respond_step scan state).advances hforward hready.ends hinside
    · rw [LineScan.advance, if_neg hstays] at hmoved
      exact absurd hmoved (Nat.lt_irrefl _)
    · exact Nat.lt_of_le_of_lt (ih (hready.advance hscan hforward hresponse)) hpatience

/-- **How long a scan stands still**: no more steps in a row than the stack is deep and there are region
rules. -/
theorem Idles.count_le (hscan : scan.KeepsSound) (hforward : scan.repository.Forward) {count : Nat}
    {last : Drive} (h : scan.Idles count state last) (hready : scan.Ready state) :
    count ≤ state.scene.stack.depth + scan.repository.regionCount :=
  (h.count_le_patience hscan hforward hready).trans (scan.patience_le state)

/-- **A scan without a limit ends.** By recursion on what is left of the line, and on the patience that
is left where the scan stands. -/
theorem exists_runsTo (hscan : scan.KeepsSound) (hforward : scan.repository.Forward) (state : Drive)
    (hready : scan.Ready state) : ∃ scene, scan.RunsTo state scene := by
  by_cases hinside : state.cursor < scan.line.size
  · cases hresponse : scan.respond state with
    | unmatched scene => exact ⟨scene, .unmatched hinside hresponse⟩
    | matched scene stop forced unwind =>
      have hadvances :=
        ((hresponse ▸ respond_step scan state).advances hforward hready.ends hinside).2
      obtain ⟨last, hrest⟩ := exists_runsTo hscan hforward
        (scan.advance state scene stop forced unwind) (hready.advance hscan hforward hresponse)
      exact ⟨last, .matched hinside hresponse hrest⟩
  · exact ⟨state.scene, .finish (Nat.le_of_not_lt hinside)⟩
termination_by (scan.line.size - state.cursor, scan.patience state)
decreasing_by
  rcases hadvances with ⟨hmoved, _⟩ | ⟨hcursor, _, hpatience⟩
  · exact Prod.Lex.left _ _ (by omega)
  · rw [hcursor]
    exact Prod.Lex.right _ hpatience

end LineScan

end ScopeScanner
