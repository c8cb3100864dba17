import ScopeScanner.Proofs.Scanner.Soundness

/-!
# The ends that a stack waits for

The bottom of a stack waits for no end, and every region for the end that was made of its begin. So what
holds of all ends that the regions of a repository can have holds of all ends on a stack
(`ScopeStack.EndsWith`), as long as a scan goes on in sound sessions: **`LineScan.Step.endsWith`** and
`LineScan.settle_endsWith`.
-/

namespace ScopeScanner

/-- The bottom waits for no end, and every region for an end of some kind or for none. -/
structure ScopeStack.EndsWith (Kind : Pattern → Prop) (stack : ScopeStack) : Prop where
  bottom : stack.bottom.closing = none
  regions : ∀ frame ∈ stack.regions, ∀ pattern, frame.closing = some pattern → Kind pattern

/-- The ends of regions that begin on a line are of some kind. -/
def Repository.MakesEnds (repository : Repository) (line : Line) (Kind : Pattern → Prop) : Prop :=
  ∀ id rule region, repository.rule? id = some rule → rule.kind = .region region →
    ∀ groups pattern, region.closing.made? repository.budget groups line = some pattern → Kind pattern

namespace ScopeStack.EndsWith

variable {Kind : Pattern → Prop} {stack : ScopeStack}

/-- A stack without regions waits for no end. -/
theorem plain {bottom : Frame} (h : bottom.closing = none) : EndsWith Kind { bottom } :=
  ⟨h, by simp⟩

theorem top (h : stack.EndsWith Kind) {pattern : Pattern}
    (hclosing : stack.top.closing = some pattern) : Kind pattern ∧ stack.regions ≠ [] := by
  obtain ⟨bottom, regions⟩ := stack
  cases regions with
  | nil =>
    have hbottom : bottom.closing = none := h.bottom
    rw [ScopeStack.top, List.headD_nil, hbottom] at hclosing
    cases hclosing
  | cons frame rest =>
    exact ⟨h.regions frame List.mem_cons_self pattern hclosing, List.cons_ne_nil _ _⟩

theorem push (h : stack.EndsWith Kind) {frame : Frame}
    (hframe : ∀ pattern, frame.closing = some pattern → Kind pattern) :
    (stack.push frame).EndsWith Kind where
  bottom := h.bottom
  regions := by
    intro other hmem
    rcases List.mem_cons.mp hmem with rfl | hmem
    · exact hframe
    · exact h.regions other hmem

/-- Dropping regions leaves ends that were there before. -/
theorem drop (h : stack.EndsWith Kind) {stack' : ScopeStack} {count : Nat}
    (hbottom : stack'.bottom = stack.bottom)
    (hregions : stack'.regions = stack.regions.drop count) : stack'.EndsWith Kind where
  bottom := by rw [hbottom]; exact h.bottom
  regions := by
    intro frame hmem
    rw [hregions] at hmem
    exact h.regions frame (List.mem_of_mem_drop hmem)

theorem clearAnchors (h : stack.EndsWith Kind) : stack.clearAnchors.EndsWith Kind where
  bottom := h.bottom
  regions := by
    intro frame hmem
    obtain ⟨other, hother, rfl⟩ := List.mem_map.mp hmem
    exact h.regions other hother

end ScopeStack.EndsWith

/-- Forgetting anchors does not change how deep a stack is. -/
theorem ScopeStack.clearAnchors_depth (stack : ScopeStack) :
    stack.clearAnchors.depth = stack.depth := by
  simp [depth, clearAnchors]

theorem ScopeStack.clearAnchors_top_rule (stack : ScopeStack) :
    stack.clearAnchors.top.rule = stack.top.rule := by
  obtain ⟨bottom, regions⟩ := stack
  cases regions with
  | nil => rfl
  | cons frame rest => rfl

/-- The regions that are left when some have been dropped. -/
theorem Scene.dropRegions_regions (count : Nat) (scene : Scene) :
    (scene.dropRegions count).stack.regions = scene.stack.regions.drop count := by
  induction count generalizing scene with
  | zero => rfl
  | succ count ih =>
    obtain ⟨⟨bottom, regions⟩, _, _, _, _⟩ := scene
    cases regions with
    | nil => rfl
    | cons frame rest => exact ih _

namespace LineScan

variable {scan : LineScan} {Kind : Pattern → Prop}

/-- Ending a region takes it off the stack. -/
theorem closed_stack (scan : LineScan) (groups : Groups) (scene : Scene) :
    (scan.closed groups scene).stack = { scene.stack with regions := scene.stack.regions.tail } := by
  obtain ⟨⟨bottom, regions⟩, _, _, _, _⟩ := scene
  cases regions with
  | nil => rfl
  | cons frame rest => rfl

/-- Leaving the line leaves the stack as it is. -/
theorem leave_stack (scan : LineScan) (cursor : Nat) (scene : Scene) :
    (scan.leave cursor scene).stack = scene.stack := by
  rw [leave]
  split
  · rfl
  · rfl

/-- Where nothing wins, a step leaves the line. -/
theorem Step.unmatched_stack {state : Drive} {scene : Scene}
    (hstep : scan.Step state (.unmatched scene)) :
    scan.winner? state = none ∧ scene.stack = state.scene.stack := by
  cases hstep with
  | unmatched hnone => exact ⟨hnone, leave_stack scan _ _⟩

/-- Covering one character by force drops regions at most. -/
theorem force_stack (scan : LineScan) (cursor : Nat) (unwind : Bool) (scene : Scene) :
    ∃ count, (scan.force cursor unwind scene).scene.stack.bottom = scene.stack.bottom ∧
      (scan.force cursor unwind scene).scene.stack.regions = scene.stack.regions.drop count := by
  cases unwind with
  | false => exact ⟨0, rfl, rfl⟩
  | true =>
    exact ⟨scene.stack.depth - scene.settled, (scene.dropRegions_frame _).1,
      scene.dropRegions_regions _⟩

/-- What follows a step drops regions at most. -/
theorem settle_stack (scan : LineScan) (state : Drive) (scene : Scene) (stop : Nat)
    (forced unwind : Bool) :
    ∃ count, (scan.settle state scene stop forced unwind).scene.stack.bottom = scene.stack.bottom ∧
      (scan.settle state scene stop forced unwind).scene.stack.regions =
        scene.stack.regions.drop count := by
  rw [settle]
  split
  · split
    · exact scan.force_stack stop unwind { scene with settled := scene.stack.depth }
    · exact ⟨0, rfl, rfl⟩
  · dsimp only
    split
    · exact scan.force_stack _ _ scene
    · exact ⟨0, rfl, rfl⟩

/-- A step keeps the kind of ends that the stack waits for. -/
theorem Step.endsWith (hscan : scan.KeepsSound) (hmakes : scan.repository.MakesEnds scan.line Kind)
    {state : Drive} (hsound : state.scene.Sound scan.repository)
    (h : state.scene.stack.EndsWith Kind) {scene : Scene} {stop : Nat} {forced unwind : Bool}
    (hstep : scan.Step state (.matched scene stop forced unwind)) : scene.stack.EndsWith Kind := by
  cases hstep with
  | close pattern groups hclosing hfinds =>
    rw [closed_stack]
    exact h.drop rfl List.drop_one.symm
  | simple id rule pattern captures groups hid hrule hkind hfinds => exact h
  | refuse id rule region groups hid hrule hkind hfinds hrefuses => exact h
  | enter id rule region groups hid hrule hkind hfinds hrefuses =>
    have happroached : (scan.approached state groups).Sound scan.repository :=
      (hsound.rules state.scene.stack.top.rule).2
    rw [entered_stack_of_sound hscan happroached]
    exact h.push fun pattern hmade => hmakes id rule region hrule hkind groups pattern hmade

theorem settle_endsWith (scan : LineScan) {scene : Scene} (h : scene.stack.EndsWith Kind)
    (state : Drive) (stop : Nat) (forced unwind : Bool) :
    (scan.settle state scene stop forced unwind).scene.stack.EndsWith Kind := by
  obtain ⟨count, hbottom, hregions⟩ := scan.settle_stack state scene stop forced unwind
  exact h.drop hbottom hregions

end LineScan

end ScopeScanner
