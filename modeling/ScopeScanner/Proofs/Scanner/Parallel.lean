import ScopeScanner.Proofs.Repository.Relocation
import ScopeScanner.Proofs.Scanner.Step

/-!
# Two scans side by side

Two scans go along the same characters. Their stacks and their emissions are related in some way that
the steps of a scan keep. Much of this does not depend on what the relations are:

* **`resolveCaptures_renumbered`**: covering the groups of the same match keeps emissions related, if it
  survives covering the line up to the same position and scanning the same groups again. The rules of
  the groups may have other positions in the second scan.
* **`LineScan.Parallel.drive`**: scans that give the same responses in related scenes stay side by side
  to the end of the line.

What is left to each relation are the steps that look rules up.
-/

namespace ScopeScanner

/-- Two ways to scan the text of a group of a line that keep emissions related, the rule of the group
being renumbered for the second. -/
def Reenter.Renumbered (move : RuleId → RuleId) (line : Line) (Related : Emission → Emission → Prop)
    (reenter reenter' : Reenter) : Prop :=
  ∀ stop start rule nameScopes emission emission', Related emission emission' →
    Related (reenter (line.take stop) start { bottom := { rule, nameScopes } } emission)
      (reenter' (line.take stop) start { bottom := { rule := move rule, nameScopes } } emission')

/-! ## Captures -/

section Captures

variable {Related : Emission → Emission → Prop} {emission emission' : Emission}
  {move : RuleId → RuleId} {line : Line} {reenter reenter' : Option Reenter}

theorem enterGroup_renumbered
    (hreenter : Option.Rel (Reenter.Renumbered move line Related) reenter reenter')
    (span : Span) (rule : Option RuleId) (scopes : List String) (opened : List OpenGroup)
    (h : Related emission emission') :
    (enterGroup reenter line span rule scopes opened emission).1 =
        (enterGroup reenter' line span (rule.map move) scopes opened emission').1 ∧
      Related (enterGroup reenter line span rule scopes opened emission).2
        (enterGroup reenter' line span (rule.map move) scopes opened emission').2 := by
  cases rule with
  | none =>
    cases hreenter with
    | none => exact ⟨rfl, h⟩
    | some hscans => exact ⟨rfl, h⟩
  | some rule =>
    cases hreenter with
    | none => exact ⟨rfl, h⟩
    | some hscans => exact ⟨rfl, hscans _ _ _ _ _ _ h⟩

variable (hproduce : ∀ {emission emission'}, Related emission emission' → ∀ stop scopes,
  Related (emission.produce stop scopes) (emission'.produce stop scopes))

include hproduce

theorem closeGroups_related (position : Nat) (opened : List OpenGroup)
    (h : Related emission emission') :
    (closeGroups position opened emission).1 = (closeGroups position opened emission').1 ∧
      Related (closeGroups position opened emission).2 (closeGroups position opened emission').2 := by
  induction opened generalizing emission emission' with
  | nil => exact ⟨rfl, h⟩
  | cons group rest ih =>
    rw [closeGroups, closeGroups]
    split
    · exact ih (hproduce h _ _)
    · exact ⟨rfl, h⟩

theorem closeAllGroups_related (opened : List OpenGroup) (h : Related emission emission') :
    Related (closeAllGroups opened emission) (closeAllGroups opened emission') := by
  induction opened generalizing emission emission' with
  | nil => exact h
  | cons group rest ih => exact ih (hproduce h _ _)

theorem resolveCapture_renumbered
    (hreenter : Option.Rel (Reenter.Renumbered move line Related) reenter reenter')
    (groups : Groups) (scopes : List String) (number : Nat) (capture : Capture)
    (opened : List OpenGroup) (h : Related emission emission') :
    (resolveCapture reenter line groups scopes number capture opened emission).1 =
        (resolveCapture reenter' line groups scopes number (capture.renumbered move) opened
          emission').1 ∧
      Related (resolveCapture reenter line groups scopes number capture opened emission).2
        (resolveCapture reenter' line groups scopes number (capture.renumbered move) opened
          emission').2 := by
  -- a capture that stands for nothing does so on both sides
  have hidle : ((capture.renumbered move).scopes.isEmpty && (capture.renumbered move).rule.isNone) =
      (capture.scopes.isEmpty && capture.rule.isNone) := by
    rw [Capture.renumbered, Option.isNone_map]
  unfold resolveCapture
  rw [hidle]
  cases groups.clipped? number with
  | none => exact ⟨rfl, h⟩
  | some span =>
  cases capture.scopes.isEmpty && capture.rule.isNone with
  | true => exact ⟨rfl, h⟩
  | false =>
    obtain ⟨hleft, hclosed⟩ := closeGroups_related hproduce span.start opened h
    dsimp only [Bool.false_eq_true, if_false]
    rw [← hleft]
    exact enterGroup_renumbered hreenter _ _ _ _ (hproduce hclosed _ _)

theorem resolveEach_renumbered
    (hreenter : Option.Rel (Reenter.Renumbered move line Related) reenter reenter')
    (groups : Groups) (scopes : List String) (captures : CaptureMap) (opened : List OpenGroup)
    (h : Related emission emission') :
    (resolveEach reenter line groups scopes captures opened emission).1 =
        (resolveEach reenter' line groups scopes (captures.renumbered move) opened emission').1 ∧
      Related (resolveEach reenter line groups scopes captures opened emission).2
        (resolveEach reenter' line groups scopes (captures.renumbered move) opened emission').2 := by
  induction captures generalizing opened emission emission' with
  | nil => exact ⟨rfl, h⟩
  | cons entry rest ih =>
    obtain ⟨number, capture⟩ := entry
    obtain ⟨hopened, hresolved⟩ :=
      resolveCapture_renumbered hproduce hreenter groups scopes number capture opened h
    have hrest := ih (resolveCapture reenter line groups scopes number capture opened emission).1
      hresolved
    rw [CaptureMap.renumbered, List.map_cons, resolveEach, resolveEach]
    dsimp only
    rw [← hopened]
    exact hrest

/-- **Covering the same match keeps emissions related**, also if the groups with rules of their own find
these at other positions. -/
theorem resolveCaptures_renumbered
    (hreenter : Option.Rel (Reenter.Renumbered move line Related) reenter reenter')
    (groups : Groups) (captures : CaptureMap) (scopes : List String)
    (h : Related emission emission') :
    Related (resolveCaptures reenter line groups captures scopes emission)
      (resolveCaptures reenter' line groups (captures.renumbered move) scopes emission') := by
  obtain ⟨hopened, hresolved⟩ :=
    resolveEach_renumbered hproduce hreenter groups scopes captures [] h
  unfold resolveCaptures
  dsimp only
  rw [← hopened]
  exact hproduce (closeAllGroups_related hproduce _ hresolved) _ _

end Captures

/-! ## Related scenes -/

/-- Two scenes that agree in everything but their stacks and emissions, which are related. -/
structure Scene.InStep (Stacks : ScopeStack → ScopeStack → Prop)
    (Emissions : Emission → Emission → Prop) (scene scene' : Scene) : Prop where
  stack : Stacks scene.stack scene'.stack
  anchor : scene.anchor = scene'.anchor
  emptyPush : scene.emptyPush = scene'.emptyPush
  settled : scene.settled = scene'.settled
  emission : Emissions scene.emission scene'.emission

/-- Two responses of the same kind, with scenes in step. -/
inductive Response.InStep (Stacks : ScopeStack → ScopeStack → Prop)
    (Emissions : Emission → Emission → Prop) : Response → Response → Prop where
  | unmatched {scene scene' : Scene} (h : scene.InStep Stacks Emissions scene') :
      InStep Stacks Emissions (.unmatched scene) (.unmatched scene')
  | matched {scene scene' : Scene} (h : scene.InStep Stacks Emissions scene') (stop : Nat)
      (forced unwind : Bool) :
      InStep Stacks Emissions (.matched scene stop forced unwind)
        (.matched scene' stop forced unwind)

/-- Two scans at the same position of their lines, with scenes in step. -/
structure Drive.InStep (Stacks : ScopeStack → ScopeStack → Prop)
    (Emissions : Emission → Emission → Prop) (state state' : Drive) : Prop where
  cursor : state.cursor = state'.cursor
  stall : state.stall = state'.stall
  scene : state.scene.InStep Stacks Emissions state'.scene

/-- What related stacks agree in when it does not matter which rules have opened their regions, nor
where. -/
structure ScopeStack.Aligned (Related : ScopeStack → ScopeStack → Prop) : Prop where
  scopes : ∀ {stack stack'}, Related stack stack' → stack.scopes = stack'.scopes
  depth : ∀ {stack stack'}, Related stack stack' → stack.depth = stack'.depth
  pop : ∀ {stack stack'}, Related stack stack' →
    (stack.pop? = none ∧ stack'.pop? = none) ∨
      ∃ frame rest frame' rest', stack.pop? = some (frame, rest) ∧
        stack'.pop? = some (frame', rest') ∧ frame.parentAnchor = frame'.parentAnchor ∧
        Related rest rest'

/-- Two scans of the same characters, side by side: what they owe to their relations where no rule is
looked up. -/
structure LineScan.Parallel (Stacks : ScopeStack → ScopeStack → Prop)
    (Emissions : Emission → Emission → Prop) (scan scan' : LineScan) : Prop where
  line : scan.line = scan'.line
  aligned : ScopeStack.Aligned Stacks
  produce : ∀ {emission emission'}, Emissions emission emission' → ∀ stop scopes,
    Emissions (emission.produce stop scopes) (emission'.produce stop scopes)
  remark : ∀ {emission emission'}, Emissions emission emission' → ∀ p length,
    Emissions (emission.remark (.unmatchedInput (scan.offset + p) length))
      (emission'.remark (.unmatchedInput (scan'.offset + p) length))

namespace LineScan.Parallel

variable {Stacks : ScopeStack → ScopeStack → Prop} {Emissions : Emission → Emission → Prop}
  {scan scan' : LineScan} {scene scene' : Scene} {state state' : Drive}

theorem cover (hscan : scan.Parallel Stacks Emissions scan') (h : scene.InStep Stacks Emissions scene')
    (stop : Nat) : (scene.cover stop).InStep Stacks Emissions (scene'.cover stop) := by
  refine ⟨h.stack, h.anchor, h.emptyPush, h.settled, ?_⟩
  unfold Scene.cover
  rw [hscan.aligned.scopes h.stack]
  exact hscan.produce h.emission _ _

theorem dropRegions (hscan : scan.Parallel Stacks Emissions scan') (count : Nat)
    (h : scene.InStep Stacks Emissions scene') :
    (scene.dropRegions count).InStep Stacks Emissions (scene'.dropRegions count) := by
  induction count generalizing scene scene' with
  | zero => exact h
  | succ count ih =>
    unfold Scene.dropRegions
    rcases hscan.aligned.pop h.stack with
      ⟨hnone, hnone'⟩ | ⟨_, _, _, _, hsome, hsome', hanchor, hrest⟩
    · rw [hnone, hnone']
      exact h
    · rw [hsome, hsome']
      exact ih ⟨hrest, hanchor, h.emptyPush, h.settled, h.emission⟩

theorem unwind (hscan : scan.Parallel Stacks Emissions scan')
    (h : scene.InStep Stacks Emissions scene') :
    scene.unwind.InStep Stacks Emissions scene'.unwind := by
  unfold Scene.unwind
  rw [hscan.aligned.depth h.stack, h.settled]
  exact hscan.dropRegions _ h

theorem endsEmpty_eq (hscan : scan.Parallel Stacks Emissions scan')
    (h : scene.InStep Stacks Emissions scene') (groups : Groups) :
    scene.endsEmpty groups = scene'.endsEmpty groups := by
  unfold Scene.endsEmpty
  rw [h.emptyPush, hscan.aligned.depth h.stack]

theorem leave (hscan : scan.Parallel Stacks Emissions scan') (cursor : Nat)
    (h : scene.InStep Stacks Emissions scene') :
    (scan.leave cursor scene).InStep Stacks Emissions (scan'.leave cursor scene') := by
  unfold LineScan.leave
  rw [← hscan.line]
  apply hscan.cover
  split
  · exact ⟨h.stack, h.anchor, h.emptyPush, h.settled, hscan.remark h.emission _ _⟩
  · exact h

/-- Matches are covered in step, also if the rules of their groups have other positions. -/
theorem capture (hscan : scan.Parallel Stacks Emissions scan') {move : RuleId → RuleId}
    (hreenter : Option.Rel (Reenter.Renumbered move scan.line Emissions) scan.reenter scan'.reenter)
    (groups : Groups) (captures : CaptureMap) (scopes : List String)
    (h : scene.InStep Stacks Emissions scene') :
    (scan.capture groups captures scopes scene).InStep Stacks Emissions
      (scan'.capture groups (captures.renumbered move) scopes scene') := by
  refine ⟨h.stack, h.anchor, h.emptyPush, h.settled, ?_⟩
  unfold LineScan.capture
  rw [← hscan.line]
  exact resolveCaptures_renumbered hscan.produce hreenter groups captures scopes h.emission

/-- Regions end in step if their ends are covered in step. -/
theorem closed (hscan : scan.Parallel Stacks Emissions scan') {groups : Groups}
    (hstack : Stacks scene.stack scene'.stack)
    (hcaptured : (scan.capture groups (scan.closingCaptures scene.stack.top.rule)
      scene.stack.delimiterScopes scene).InStep Stacks Emissions
        (scan'.capture groups (scan'.closingCaptures scene'.stack.top.rule)
          scene'.stack.delimiterScopes scene')) :
    (scan.closed groups scene).InStep Stacks Emissions (scan'.closed groups scene') := by
  unfold LineScan.closed
  rcases hscan.aligned.pop hstack with
    ⟨hnone, hnone'⟩ | ⟨_, _, _, _, hsome, hsome', hanchor, hrest⟩
  · rw [hnone, hnone']
    dsimp only
    rw [hscan.aligned.depth hcaptured.stack, hcaptured.settled]
    exact ⟨hcaptured.stack, hcaptured.anchor, hcaptured.emptyPush, rfl, hcaptured.emission⟩
  · rw [hsome, hsome']
    dsimp only
    rw [hscan.aligned.depth hrest, hcaptured.settled]
    exact ⟨hrest, hanchor, hcaptured.emptyPush, rfl, hcaptured.emission⟩

theorem force (hscan : scan.Parallel Stacks Emissions scan') (cursor : Nat) (unwind : Bool)
    (h : scene.InStep Stacks Emissions scene') :
    (scan.force cursor unwind scene).InStep Stacks Emissions (scan'.force cursor unwind scene') := by
  have hready : (if unwind then scene.unwind else scene).InStep Stacks Emissions
      (if unwind then scene'.unwind else scene') := by
    cases unwind with
    | true => exact hscan.unwind h
    | false => exact h
  have hcovered := hscan.cover hready (scan.line.next cursor)
  unfold LineScan.force
  rw [← hscan.line]
  exact ⟨rfl, rfl, hcovered.stack, hcovered.anchor, rfl, hscan.aligned.depth hcovered.stack,
    hcovered.emission⟩

theorem settle (hscan : scan.Parallel Stacks Emissions scan')
    (hlimit : scan.stallLimit = scan'.stallLimit) (h : state.InStep Stacks Emissions state')
    (hscene : scene.InStep Stacks Emissions scene') (stop : Nat) (forced unwind : Bool) :
    (scan.settle state scene stop forced unwind).InStep Stacks Emissions
      (scan'.settle state' scene' stop forced unwind) := by
  have hmoved : Scene.InStep Stacks Emissions { scene with settled := scene.stack.depth }
      { scene' with settled := scene'.stack.depth } :=
    ⟨hscene.stack, hscene.anchor, hscene.emptyPush, hscan.aligned.depth hscene.stack,
      hscene.emission⟩
  unfold LineScan.settle
  rw [← h.cursor, ← h.stall, ← hlimit]
  split
  · split
    · exact hscan.force _ _ hmoved
    · exact ⟨rfl, rfl, hmoved⟩
  · dsimp only
    split
    · exact hscan.force _ _ hscene
    · exact ⟨rfl, rfl, hscene⟩

/-- **Scans that give the same responses stay side by side** to the end of the line. -/
theorem drive (hscan : scan.Parallel Stacks Emissions scan')
    (hlimit : scan.stallLimit = scan'.stallLimit)
    (hrespond : ∀ {state state' : Drive}, state.InStep Stacks Emissions state' →
      (scan.respond state).InStep Stacks Emissions (scan'.respond state'))
    (h : state.InStep Stacks Emissions state') :
    (scan.drive state).InStep Stacks Emissions (scan'.drive state') := by
  fun_induction LineScan.drive scan state generalizing state' with
  | case1 state hlt scene hresponse =>
    have hresponses := hrespond h
    rw [hresponse] at hresponses
    -- the other scan takes the same kind of step, so that both are left with one case
    generalize hresponse' : scan'.respond state' = response' at hresponses
    rw [scan'.drive_eq, ← h.cursor, ← hscan.line, if_pos hlt, hresponse']
    cases hresponses with
    | unmatched hscene => exact hscene
  | case2 state hlt scene stop forced unwind hresponse ih =>
    have hresponses := hrespond h
    rw [hresponse] at hresponses
    generalize hresponse' : scan'.respond state' = response' at hresponses
    rw [scan'.drive_eq, ← h.cursor, ← hscan.line, if_pos hlt, hresponse']
    cases hresponses with
    | matched hscene => exact ih (hscan.settle hlimit h hscene stop forced unwind)
  | case3 state hge =>
    rw [scan'.drive_eq, ← h.cursor, ← hscan.line, if_neg hge]
    exact h.scene

end LineScan.Parallel

end ScopeScanner
