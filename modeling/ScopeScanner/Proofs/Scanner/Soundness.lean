import ScopeScanner.Proofs.Scanner.Displacement

/-!
# Sound sessions along a line

A scan of a line that starts in a sound session is in a sound session at every step. So what competes at
a step is the flattened list of the innermost rule, and the region that a step opens has the end that is
made of its begin: none of it depends on what the session has learned.

* **`LineScan.drive_induct_of_sound`**: what holds in sound sessions at the start of a scan of a line,
  and is kept by each step, holds at its end.
-/

namespace ScopeScanner

/-- Equal emissions, in a sound session. -/
structure Emission.SameSound (repository : Repository) (emission emission' : Emission) : Prop where
  eq : emission = emission'
  sound : emission.session.Sound repository

/-- Equal emissions stay equal, and their session stays sound. -/
theorem Emission.SameSound.coupling (repository : Repository) (offset : Nat) :
    Coupling repository offset offset (SameSound repository) where
  produce := by
    rintro emission _ ⟨rfl, h⟩ stop scopes
    exact ⟨rfl, h⟩
  remark := by
    rintro emission _ ⟨rfl, h⟩ p length
    exact ⟨rfl, h⟩
  rules := by
    rintro emission _ ⟨rfl, h⟩ id
    obtain ⟨hrules, hsound⟩ := h.rules id
    exact ⟨hrules, hrules, rfl, hsound⟩
  closing := by
    rintro emission _ ⟨rfl, h⟩ closing groups line
    exact ⟨rfl, rfl, (h.closing closing groups line).2⟩

/-- The scene is in a sound session. -/
def Scene.Sound (repository : Repository) (scene : Scene) : Prop :=
  scene.emission.session.Sound repository

namespace LineScan

variable {scan : LineScan}

/-- Scanning the text of groups leaves sessions sound. -/
def KeepsSound (scan : LineScan) : Prop :=
  Option.Rel (Reenter.Coupled scan.line (Emission.SameSound scan.repository)) scan.reenter
    scan.reenter

/-- A scan is in step with itself. -/
theorem KeepsSound.inStep (h : scan.KeepsSound) :
    scan.InStep Eq (Emission.SameSound scan.repository) scan :=
  ⟨rfl, rfl, h, .eq _ _ _, Emission.SameSound.coupling _ _⟩

/-- A scene in a sound session is in step with itself. -/
theorem inStep_of_sound {scene : Scene} (h : scene.Sound scan.repository) :
    scene.InStep Eq (Emission.SameSound scan.repository) scene :=
  ⟨rfl, rfl, rfl, rfl, rfl, h⟩

/-- What competes is the flattened list of the innermost rule. -/
theorem offered_of_sound {scene : Scene} (h : scene.Sound scan.repository) :
    scan.offered scene = scan.repository.flatten scene.stack.top.rule :=
  (h.rules _).1

/-- A region is opened with the end that is made of its begin. -/
theorem entered_stack_of_sound (hscan : scan.KeepsSound) {scene : Scene}
    (h : scene.Sound scan.repository) (rule : Rule) (region : Region) (groups : Groups) :
    (scan.entered rule region groups scene).stack =
      scene.stack.push (scan.opened rule region groups
        (region.closing.made? scan.repository.budget groups scan.line) scene.anchor) := by
  have hcapture := capture_inStep hscan.inStep groups region.openingCaptures
    (scene.stack.scopes ++ rule.scopes) (inStep_of_sound h)
  rw [entered, ← (hcapture.emission.sound.closing region.closing groups scan.line).1]

/-- A step leaves its session sound. -/
theorem respond_sound (hscan : scan.KeepsSound) {state : Drive}
    (h : state.scene.Sound scan.repository) {scene : Scene} {stop : Nat} {forced unwind : Bool}
    (hresponse : scan.respond state = .matched scene stop forced unwind) :
    scene.Sound scan.repository := by
  have hrespond := respond_inStep hscan.inStep ⟨rfl, rfl, inStep_of_sound h⟩
  rw [hresponse] at hrespond
  cases hrespond with
  | matched hscene => exact hscene.emission.sound

theorem settle_sound (hscan : scan.KeepsSound) {state : Drive}
    (h : state.scene.Sound scan.repository) {scene : Scene} (hscene : scene.Sound scan.repository)
    (stop : Nat) (forced unwind : Bool) :
    (scan.settle state scene stop forced unwind).scene.Sound scan.repository :=
  (hscan.inStep.parallel.settle rfl ⟨rfl, rfl, inStep_of_sound h⟩ (inStep_of_sound hscene) stop
    forced unwind).scene.emission.sound

/-- A scan of a line that starts in a sound session ends in one. -/
theorem drive_sound (hscan : scan.KeepsSound) {state : Drive}
    (h : state.scene.Sound scan.repository) : (scan.drive state).Sound scan.repository :=
  (drive_inStep hscan.inStep rfl ⟨rfl, rfl, inStep_of_sound h⟩).emission.sound

/-- What holds at the start of a scan and is kept by each step in a sound session holds at its end. -/
theorem drive_induct_of_sound (hscan : scan.KeepsSound) (Inv : Drive → Prop) (Done : Scene → Prop)
    (hend : ∀ state, Inv state → scan.line.size ≤ state.cursor → Done state.scene)
    (hunmatched : ∀ state scene, Inv state → state.scene.Sound scan.repository →
      state.cursor < scan.line.size → scan.Step state (.unmatched scene) → Done scene)
    (hmatched : ∀ state scene stop forced unwind, Inv state → state.scene.Sound scan.repository →
      state.cursor < scan.line.size → scan.Step state (.matched scene stop forced unwind) →
        Inv (scan.settle state scene stop forced unwind))
    (state : Drive) (h : Inv state) (hsound : state.scene.Sound scan.repository) :
    Done (scan.drive state) := by
  fun_induction drive scan state with
  | case1 state hlt scene hresponse =>
    exact hunmatched state scene h hsound hlt (hresponse ▸ respond_step scan state)
  | case2 state hlt scene stop forced unwind hresponse ih =>
    exact ih (hmatched state scene stop forced unwind h hsound hlt
        (hresponse ▸ respond_step scan state))
      (settle_sound hscan hsound (respond_sound hscan hsound hresponse) stop forced unwind)
  | case3 state hge => exact hend state h (Nat.le_of_not_lt hge)

end LineScan

/-- Scanning groups leaves sessions sound, however deep they nest. -/
theorem reentry_keepsSound (repository : Repository) (stallLimit offset levels : Nat) (line : Line) :
    Option.Rel (Reenter.Coupled line (Emission.SameSound repository))
      (reentry repository stallLimit offset levels) (reentry repository stallLimit offset levels) := by
  have hemissions : Emission.Coupling repository (0 + offset) offset
      (Emission.SameSound repository) := by
    rw [Nat.zero_add]
    exact Emission.SameSound.coupling repository offset
  have h := reentry_inStep hemissions stallLimit levels line
  rwa [Nat.zero_add] at h

namespace Repository

variable (repository : Repository) (stallLimit : Nat) {progress : ScanProgress}

theorem lineScan_keepsSound (progress : ScanProgress) (chars : List Char) :
    (repository.lineScan stallLimit progress chars).KeepsSound :=
  reentry_keepsSound repository stallLimit progress.offset maxReentry _

/-- Scanning the next line leaves the session sound. -/
theorem scanNextLine_sound (h : progress.emission.session.Sound repository) (chars : List Char) :
    (repository.scanNextLine stallLimit progress chars).emission.session.Sound repository := by
  have hstart : (progress.lineStart chars).scene.Sound repository := h
  rw [scanNextLine_eq]
  exact LineScan.drive_sound (repository.lineScan_keepsSound stallLimit progress chars) hstart

end Repository

end ScopeScanner
