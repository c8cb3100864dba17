import Mathlib.Tactic.Ring
import ScopeScanner.Proofs.Scanner.Stalling

/-!
# The limit on steps without progress

The limit that a scan puts on steps without progress is a safety net: a scan whose limit is large enough
for the text and the stack that it starts with never reaches it.

* **`Repository.stallLimit_spare`**: two such limits give the same output, and a scan stands still, limit
  or not, for no more steps in a row than its stack is deep and there are region rules.

A scan along a line takes no more steps in a row without progress than its stack can become deep
(`LineScan.potential`) and there are region rules (`LineScan.Patient`). From line to line the stack gets
deeper by what the line has room for (`Repository.growth`).
-/

namespace ScopeScanner

namespace LineScan

variable {scan scan' : LineScan} {state : Drive} {bound : Nat}

/-- The potential is bounded, and so is the number of steps without progress, made or still to come. -/
structure Patient (scan : LineScan) (bound : Nat) (state : Drive) : Prop where
  potential_le : scan.potential state ≤ bound
  stall_le : state.stall + scan.patience state ≤ bound + scan.repository.regionCount

theorem Patient.depth_le (h : scan.Patient bound state) : state.scene.stack.depth ≤ bound := by
  have hpotential := h.potential_le
  rw [potential] at hpotential
  omega

/-- A scan starts with patience for what it has room for. -/
theorem Patient.begin (scan : LineScan) (start : Nat) (anchor : Option Nat) (stack : ScopeStack)
    (emission : Emission)
    (hbound : stack.depth + scan.repository.regionCount +
      (scan.repository.regionCount + 1) * scan.line.size ≤ bound) :
    scan.Patient bound (.begin start anchor stack emission) := by
  have hroom := scan.room_le start stack
  have hpatience := scan.patience_le (.begin start anchor stack emission)
  have hleft := Nat.mul_le_mul_left (scan.repository.regionCount + 1)
    (Nat.sub_le scan.line.size start)
  constructor
  · show stack.depth + scan.room start stack + _ * (scan.line.size - start) ≤ bound
    omega
  · show 0 + scan.patience _ ≤ _
    have hdepth : (Drive.begin start anchor stack emission).scene.stack.depth = stack.depth := rfl
    omega

theorem Patient.advance (h : scan.Patient bound state) (hready : scan.Ready state)
    (hforward : scan.repository.Forward) (hinside : state.cursor < scan.line.size) {scene : Scene}
    {stop : Nat} {forced unwind : Bool}
    (hstep : scan.Step state (.matched scene stop forced unwind)) :
    scan.Patient bound (scan.advance state scene stop forced unwind) := by
  obtain ⟨hpotential, hmeasures⟩ := hstep.advances hforward hready.ends hinside
  have hle := hpotential.trans h.potential_le
  refine ⟨hle, ?_⟩
  rcases hmeasures with ⟨_, hstall⟩ | ⟨_, hstall, hpatience⟩
  · -- after a move the count starts anew, and the patience is that of a stack within the potential
    have hnext := scan.patience_le (scan.advance state scene stop forced unwind)
    rw [potential] at hle
    omega
  · -- the count goes up by one, and the patience goes down
    have hold := h.stall_le
    omega

/-- A limit beyond what a patient scan needs is not reached. -/
theorem Patient.settle_eq (h : scan.Patient bound state)
    (hlimit : bound + scan.repository.regionCount < scan.stallLimit) (scene : Scene) (stop : Nat)
    (forced unwind : Bool) :
    scan.settle state scene stop forced unwind = scan.advance state scene stop forced unwind := by
  have hstall := h.stall_le
  exact settle_eq_advance (by omega) scene stop forced unwind

/-- How deep a scan along a line leaves the stack, and which ends it leaves there. -/
theorem drive_ready (hscan : scan.KeepsSound) (hforward : scan.repository.Forward)
    (hlimit : bound + scan.repository.regionCount < scan.stallLimit) (state : Drive)
    (hready : scan.Ready state) (h : scan.Patient bound state) :
    (scan.drive state).stack.EndsWith Pattern.Forward ∧ (scan.drive state).stack.depth ≤ bound := by
  refine drive_induct_of_sound hscan
    (fun state => state.scene.stack.EndsWith Pattern.Forward ∧ scan.Patient bound state)
    (fun scene => scene.stack.EndsWith Pattern.Forward ∧ scene.stack.depth ≤ bound)
    ?_ ?_ ?_ state ⟨hready.ends, h⟩ hready.sound
  · rintro state ⟨hends, h⟩ _
    exact ⟨hends, h.depth_le⟩
  · rintro state scene ⟨hends, h⟩ _ _ hstep
    rw [hstep.unmatched_stack.2]
    exact ⟨hends, h.depth_le⟩
  · rintro state scene stop forced unwind ⟨hends, h⟩ hsound hinside hstep
    refine ⟨settle_endsWith scan (hstep.endsWith hscan (hforward.ends _) hsound hends) state stop
      forced unwind, ?_⟩
    rw [h.settle_eq hlimit]
    exact h.advance ⟨hsound, hends⟩ hforward hinside hstep

/-- Scans in step advance in step, whatever their limits. -/
theorem advance_inStep {Stacks : ScopeStack → ScopeStack → Prop}
    {Emissions : Emission → Emission → Prop} (hscan : scan.InStep Stacks Emissions scan')
    {state' : Drive} (h : state.InStep Stacks Emissions state') {scene scene' : Scene}
    (hscene : scene.InStep Stacks Emissions scene') (stop : Nat) (forced unwind : Bool) :
    (scan.advance state scene stop forced unwind).InStep Stacks Emissions
      (scan'.advance state' scene' stop forced unwind) := by
  have hlimited : LineScan.InStep Stacks Emissions { scan with stallLimit := state.stall + 1 }
      { scan' with stallLimit := state.stall + 1 } :=
    ⟨hscan.repository, hscan.line, hscan.reenter, hscan.onStacks, hscan.onEmissions⟩
  rw [advance_eq_settle, advance_eq_settle, ← h.stall]
  exact hlimited.parallel.settle rfl h hscene stop forced unwind

/-- Scans that do not reach their limits do the same. -/
theorem drive_inStep_of_limits (hscan : scan.InStep Eq (Emission.SameSound scan.repository) scan')
    (hkeeps : scan.KeepsSound) (hforward : scan.repository.Forward)
    (hlimit : bound + scan.repository.regionCount < scan.stallLimit)
    (hlimit' : bound + scan.repository.regionCount < scan'.stallLimit) (state : Drive)
    {state' : Drive} (hready : scan.Ready state) (hpatient : scan.Patient bound state)
    (h : state.InStep Eq (Emission.SameSound scan.repository) state') :
    (scan.drive state).InStep Eq (Emission.SameSound scan.repository) (scan'.drive state') := by
  fun_induction drive scan state generalizing state' with
  | case1 state hlt scene hresponse =>
    have hrespond := respond_inStep hscan h
    rw [hresponse] at hrespond
    generalize hresponse' : scan'.respond state' = response' at hrespond
    rw [scan'.drive_eq, ← h.cursor, ← hscan.line, if_pos hlt, hresponse']
    cases hrespond with
    | unmatched hscene => exact hscene
  | case2 state hlt scene stop forced unwind hresponse ih =>
    have hrespond := respond_inStep hscan h
    rw [hresponse] at hrespond
    generalize hresponse' : scan'.respond state' = response' at hrespond
    rw [scan'.drive_eq, ← h.cursor, ← hscan.line, if_pos hlt, hresponse']
    cases hrespond with
    | @matched _ scene' hscene =>
      have hstall := hpatient.stall_le
      rw [hpatient.settle_eq hlimit] at ih ⊢
      dsimp only
      -- neither limit is reached, so both scans advance as if there were none
      rw [settle_eq_advance (by rw [← h.stall]; omega)]
      exact ih (hready.advance hkeeps hforward hresponse)
        (hpatient.advance hready hforward hlt (hresponse ▸ respond_step scan state))
        (advance_inStep hscan h hscene stop forced unwind)
  | case3 state hge =>
    rw [scan'.drive_eq, ← h.cursor, ← hscan.line, if_neg hge]
    exact h.scene

end LineScan

/-! ## Lines -/

/-- A character in front of a line does not change how the line is terminated. -/
theorem terminated_cons (c : Char) {line : List Char} (h : line ≠ []) :
    terminated (c :: line) = c :: terminated line := by
  obtain ⟨d, rest, rfl⟩ := List.exists_cons_of_ne_nil h
  rw [terminated, terminated, List.getLast?_cons_cons]
  split
  · rfl
  · rfl

/-- As they are matched, the lines of a text hold one byte more at most: the line feed that the last one
may lack. -/
theorem Text.matchedLines_size_le (chars : List Char) :
    ((matchedLines (lines chars)).map Line.size).sum ≤ Line.byteCount chars + 1 := by
  have hsizes (lines : List (List Char)) : (matchedLines lines).map Line.size =
      lines.map fun line => Line.byteCount (terminated line) := by
    rw [matchedLines, List.map_map]
    exact List.map_congr_left fun line _ => by simp [Line.size_eq_byteCount, Line.chars_ofChars]
  have hfeed : Line.byteCount ['\n'] = 1 := by decide
  rw [hsizes]
  induction chars with
  | nil => exact Nat.zero_le _
  | cons c rest ih =>
    rw [lines, Line.byteCount_cons]
    split
    · next hc =>
      -- a line feed on its own is a line that lacks nothing
      have hline : terminated [c] = [c] := by simp [terminated, hc]
      rw [List.map_cons, List.sum_cons, hline, Line.byteCount_cons, Line.byteCount_nil]
      omega
    · next hc =>
      split
      · -- the last character of the text: here the line feed is added
        have hline : terminated [c] = [c] ++ ['\n'] := by simp [terminated, hc]
        rw [List.map_singleton, List.sum_singleton, hline, Line.byteCount_append, hfeed,
          Line.byteCount_cons, Line.byteCount_nil]
        omega
      · next first more hcons =>
        -- one more character in front of the first line of the rest
        have hne := ne_nil_of_mem_lines (hcons ▸ List.mem_cons_self : first ∈ lines rest)
        rw [hcons, List.map_cons, List.sum_cons] at ih
        rw [List.map_cons, List.sum_cons, terminated_cons c hne, Line.byteCount_cons]
        omega

section Lines

variable {repository : Repository} {limit limit' offset levels : Nat} {line : Line} {bound : Nat}

/-- One level of a scan of a line, given that groups are scanned alike. -/
theorem scanLine_of_limits (hforward : repository.Forward)
    (hlimit : bound + repository.regionCount < limit)
    (hlimit' : bound + repository.regionCount < limit')
    (hreenter : Option.Rel (Reenter.Coupled line (Emission.SameSound repository))
      (reentry repository limit offset levels) (reentry repository limit' offset levels))
    (start : Nat) (anchor : Option Nat) {stack : ScopeStack}
    (hends : stack.EndsWith Pattern.Forward)
    (hbound : stack.depth + repository.regionCount + (repository.regionCount + 1) * line.size ≤
      bound)
    {emission : Emission} (hsound : emission.session.Sound repository) :
    let result := scanLine repository limit offset levels line start anchor stack emission
    let result' := scanLine repository limit' offset levels line start anchor stack emission
    result.1 = result'.1 ∧ Emission.SameSound repository result.2 result'.2 ∧
      result.1.EndsWith Pattern.Forward ∧ result.1.depth ≤ bound := by
  let scan (limit : Nat) : LineScan :=
    { repository, stallLimit := limit, line, offset
      reenter := reentry repository limit offset levels }
  let state : Drive := .begin start anchor stack emission
  have hkeeps : (scan limit).KeepsSound :=
    reentry_keepsSound repository limit offset levels line
  have hscan : (scan limit).InStep Eq (Emission.SameSound repository) (scan limit') :=
    ⟨rfl, rfl, hreenter, .eq _ _ _, Emission.SameSound.coupling _ _⟩
  have hready : (scan limit).Ready state := ⟨hsound, hends⟩
  have hpatient : (scan limit).Patient bound state :=
    LineScan.Patient.begin (scan limit) start anchor stack emission hbound
  have hsame : state.InStep Eq (Emission.SameSound repository) state :=
    ⟨rfl, rfl, rfl, rfl, rfl, rfl, rfl, hsound⟩
  have hdrive := LineScan.drive_inStep_of_limits hscan hkeeps hforward hlimit hlimit' state hready
    hpatient hsame
  dsimp only
  rw [scanLine_eq, scanLine_eq]
  exact ⟨hdrive.stack, hdrive.emission,
    LineScan.drive_ready hkeeps hforward hlimit state hready hpatient⟩

/-- Groups are scanned alike, however deep they nest: their texts are no longer than the line, and their
stacks no deeper than one frame. -/
theorem reentry_of_limits (hforward : repository.Forward)
    (hlimit : bound + repository.regionCount < limit)
    (hlimit' : bound + repository.regionCount < limit') (offset levels : Nat) (line : Line)
    (hbound : 1 + repository.regionCount + (repository.regionCount + 1) * line.size ≤ bound) :
    Option.Rel (Reenter.Coupled line (Emission.SameSound repository))
      (reentry repository limit offset levels) (reentry repository limit' offset levels) := by
  induction levels generalizing line with
  | zero => exact .none
  | succ levels ih =>
    refine .some ?_
    rintro stop start rule nameScopes emission _ ⟨rfl, hsound⟩
    have hinner : 1 + repository.regionCount +
        (repository.regionCount + 1) * (line.take stop).size ≤ bound :=
      (Nat.add_le_add_left (Nat.mul_le_mul_left _ (line.size_take_le stop)) _).trans hbound
    have hends : ScopeStack.EndsWith Pattern.Forward { bottom := { rule, nameScopes } } :=
      .plain rfl
    exact (scanLine_of_limits hforward hlimit hlimit' (ih _ hinner) start none hends hinner
      hsound).2.1

end Lines

namespace Repository

variable {repository : Repository} {limit limit' : Nat} {progress : ScanProgress}

/-- By how much the stack may get deeper along some lines. -/
def growth (repository : Repository) (lines : List Line) : Nat :=
  (lines.map fun line =>
    repository.regionCount + (repository.regionCount + 1) * line.size).sum

/-- Limits that are large enough for the next line do not matter for it. -/
theorem scanNextLine_of_limits (hforward : repository.Forward) {bound : Nat}
    (hlimit : bound + repository.regionCount < limit)
    (hlimit' : bound + repository.regionCount < limit') (chars : List Char)
    (hends : progress.stack.EndsWith Pattern.Forward)
    (hbound : progress.stack.depth + repository.regionCount +
      (repository.regionCount + 1) * (Line.ofChars (terminated chars)).size ≤ bound)
    (hsound : progress.emission.session.Sound repository) :
    repository.scanNextLine limit progress chars = repository.scanNextLine limit' progress chars ∧
      (repository.scanNextLine limit progress chars).stack.EndsWith Pattern.Forward ∧
      (repository.scanNextLine limit progress chars).stack.depth ≤ bound := by
  have hplain : 1 + repository.regionCount +
      (repository.regionCount + 1) * (Line.ofChars (terminated chars)).size ≤ bound := by
    have hdepth : 1 ≤ progress.stack.depth := Nat.succ_pos _
    omega
  have hbegun : Session.Sound repository
      { progress.emission with
        sink := progress.emission.sink.beginLine progress.offset (Line.byteCount chars)
        : Emission }.session := hsound
  rw [← progress.stack.clearAnchors_depth] at hbound
  obtain ⟨hstack, hemission, hends', hdepth⟩ := scanLine_of_limits hforward hlimit hlimit'
    (reentry_of_limits hforward hlimit hlimit' progress.offset maxReentry _ hplain) 0
    (if progress.stack.clearAnchors.top.beganAtLineEnd then some 0 else none) hends.clearAnchors
    hbound hbegun
  rw [scanNextLine, scanNextLine]
  dsimp only
  rw [← hstack, ← hemission.eq]
  exact ⟨rfl, hends', hdepth⟩

/-- Limits that are large enough for all lines that are left do not matter. By induction on them. -/
theorem foldl_of_limits (hforward : repository.Forward) (rest : List (List Char))
    (hlimit : progress.stack.depth + repository.growth (Text.matchedLines rest) +
      repository.regionCount < limit)
    (hlimit' : progress.stack.depth + repository.growth (Text.matchedLines rest) +
      repository.regionCount < limit')
    (hends : progress.stack.EndsWith Pattern.Forward)
    (hsound : progress.emission.session.Sound repository) :
    rest.foldl (repository.scanNextLine limit) progress =
      rest.foldl (repository.scanNextLine limit') progress := by
  induction rest generalizing progress with
  | nil => rfl
  | cons chars rest ih =>
    have hgrowth : repository.growth (Text.matchedLines (chars :: rest)) =
        repository.regionCount +
          (repository.regionCount + 1) * (Line.ofChars (terminated chars)).size +
          repository.growth (Text.matchedLines rest) := rfl
    rw [hgrowth] at hlimit hlimit'
    have hline : progress.stack.depth + repository.regionCount +
        (repository.regionCount + 1) * (Line.ofChars (terminated chars)).size +
          repository.regionCount < limit := by omega
    have hline' : progress.stack.depth + repository.regionCount +
        (repository.regionCount + 1) * (Line.ofChars (terminated chars)).size +
          repository.regionCount < limit' := by omega
    obtain ⟨hnext, hends', hdepth⟩ :=
      scanNextLine_of_limits hforward hline hline' chars hends (Nat.le_refl _) hsound
    rw [List.foldl_cons, List.foldl_cons, ← hnext]
    exact ih (by omega) (by omega) hends' (repository.scanNextLine_sound limit hsound chars)

theorem growth_eq (repository : Repository) (lines : List Line) :
    repository.growth lines = lines.length * repository.regionCount +
      (repository.regionCount + 1) * (lines.map Line.size).sum := by
  induction lines with
  | nil => simp [growth]
  | cons line rest ih =>
    have hgrowth : repository.growth (line :: rest) =
        repository.regionCount + (repository.regionCount + 1) * line.size +
          repository.growth rest := rfl
    rw [hgrowth, ih, List.length_cons, List.map_cons, List.sum_cons]
    ring

/-- A limit that is large enough for a text is large enough for its lines. -/
theorem growth_lt (repository : Repository) (text : String) :
    repository.growth (Text.matchedLines (Text.lines text.toList)) + repository.regionCount <
      (repository.regionCount + 1) * (2 * text.utf8ByteSize + 3) := by
  have hcount := Text.lines_length_le text.toList
  have hsize := Text.matchedLines_size_le text.toList
  rw [Line.byteCount_eq_utf8ByteSize, String.ofList_toList] at hcount hsize
  have hlength : (Text.matchedLines (Text.lines text.toList)).length ≤ text.utf8ByteSize := by
    rw [Text.matchedLines, List.length_map]
    exact hcount
  have hlines := Nat.mul_le_mul_right repository.regionCount hlength
  have hbytes := Nat.mul_le_mul_left (repository.regionCount + 1) hsize
  have hlimit : (repository.regionCount + 1) * (2 * text.utf8ByteSize + 3) =
      text.utf8ByteSize * repository.regionCount +
        (repository.regionCount + 1) * (text.utf8ByteSize + 1) + repository.regionCount +
          (text.utf8ByteSize + repository.regionCount + 2) := by ring
  rw [growth_eq, hlimit]
  omega

/-- **The limit on steps without progress is a safety net.** Any two limits beyond what the text and the
stack to start with can need give the same output. Whatever the limit, a scan of a line that has got
anywhere takes no more steps in a row without progress than its stack is deep and there are region rules,
and it would get to the end of the line without a limit as well. -/
theorem stallLimit_spare (hforward : repository.Forward) {settings settings' : ScannerSettings}
    (hmerge : settings.mergeTokens = settings'.mergeTokens) {session session' : Session}
    (hsession : session.Sound repository) (hsession' : session'.Sound repository) (text : String)
    (state : Option ScopeStack)
    (hends : (state.getD (.fresh repository)).EndsWith Pattern.Forward)
    (hlimit : (state.getD (.fresh repository)).depth +
      (repository.regionCount + 1) * (2 * text.utf8ByteSize + 3) ≤ settings.stallLimit)
    (hlimit' : (state.getD (.fresh repository)).depth +
      (repository.regionCount + 1) * (2 * text.utf8ByteSize + 3) ≤ settings'.stallLimit) :
    (repository.scan settings session text state).1 =
        (repository.scan settings' session' text state).1 ∧
      ∀ (stallLimit offset levels : Nat) (line : Line) (start : Nat) (anchor : Option Nat)
        (stack : ScopeStack) (emission : Emission),
        stack.EndsWith Pattern.Forward → emission.session.Sound repository →
          let scan : LineScan := {
            repository, stallLimit, line, offset
            reenter := reentry repository stallLimit offset levels }
          ∀ drive, scan.Reaches (.begin start anchor stack emission) drive →
            (∀ count last, scan.Idles count drive last →
              count ≤ drive.scene.stack.depth + repository.regionCount) ∧
            ∃ scene, scan.RunsTo drive scene := by
  constructor
  · rw [repository.scan_of_sound settings' hsession' hsession, scan_eq, scan_eq]
    have hneed : (state.getD (.fresh repository)).depth +
        repository.growth (Text.matchedLines (Text.lines text.toList)) + repository.regionCount <
          (state.getD (.fresh repository)).depth +
            (repository.regionCount + 1) * (2 * text.utf8ByteSize + 3) := by
      rw [Nat.add_assoc]
      exact Nat.add_lt_add_left (repository.growth_lt text) _
    have hreached : repository.reached settings session text (state.getD (.fresh repository)) =
        repository.reached settings' session text (state.getD (.fresh repository)) := by
      have hbegin : ScanProgress.begin settings session (state.getD (.fresh repository)) =
          .begin settings' session (state.getD (.fresh repository)) := by
        rw [ScanProgress.begin, ScanProgress.begin, hmerge]
      rw [reached, reached, ← hbegin]
      exact foldl_of_limits hforward _ (Nat.lt_of_lt_of_le hneed hlimit)
        (Nat.lt_of_lt_of_le hneed hlimit') hends hsession
    rw [hreached]
  · intro stallLimit offset levels line start anchor stack emission hends hsound scan drive hreaches
    have hkeeps : scan.KeepsSound := reentry_keepsSound repository stallLimit offset levels line
    have hbegin : scan.Ready (.begin start anchor stack emission) := ⟨hsound, hends⟩
    have hready := hbegin.reaches hkeeps hforward hreaches
    exact ⟨fun count last hidles => hidles.count_le hkeeps hforward hready,
      LineScan.exists_runsTo hkeeps hforward drive hready⟩

/-! ## A grammar in which a scan stands still -/

/-- Whether all patterns that a scan can meet are run by framed automata. An end that depends on how its
region began is not known in advance. -/
def isFramed (repository : Repository) : Bool :=
  repository.rules.toList.all fun rule =>
    rule.pattern?.all Pattern.isFramed &&
      match rule.kind with
      | .region region => (match region.closing with
        | .fixed pattern => pattern.isFramed
        | .template _ => false)
      | .simple _ _ | .group _ | .link _ => true

theorem forward_of_isFramed (h : repository.isFramed = true) : repository.Forward := by
  have holds {id : RuleId} {rule : Rule} (hrule : repository.rule? id = some rule) :=
    Bool.and_eq_true_iff.mp (List.all_eq_true.mp h rule (mem_rules hrule))
  constructor
  · intro id rule pattern hrule hpattern
    have hframed := (holds hrule).1
    rw [hpattern] at hframed
    exact Pattern.forward_of_isFramed hframed
  · intro line id rule region hrule hkind groups pattern hmade
    have hframed := (holds hrule).2
    rw [hkind] at hframed
    cases hclosing : region.closing with
    | template ending => simp only [hclosing, Bool.false_eq_true] at hframed
    | fixed fixed =>
      rw [hclosing] at hmade
      simp only [hclosing] at hframed
      obtain rfl := Option.some.inj hmade
      exact Pattern.forward_of_isFramed hframed

/-- A region that begins with any number of `a`s, none included, and may hold others like it. -/
def rowGrammar : Grammar where
  scopeName := "source.t"
  patterns := [{
    opening := some "a*"
    closing := some "b*"
    name := some "row"
    patterns := [{ reference := some "$self" }, { pattern := some "c", name := some "letter" }] }]

/-- The scan along a line that holds a `c`, under a limit of 19. -/
def rowScan (repository : Repository) : LineScan where
  repository
  stallLimit := 19
  line := Line.ofString "c\n"
  offset := 0
  reenter := reentry repository 19 0 maxReentry

/-- Where a scan from a fresh stack starts. -/
def freshStart (repository : Repository) : Drive :=
  .begin 0 none (.fresh repository) { sink := { merge := true } }

theorem rowGrammar_idles :
    (match compile rowGrammar 1000 with
      | .ok repository => repository.isFramed && repository.regionCount = 1 &&
        match repository.rowScan.respond repository.freshStart with
        | .matched _ stop forced _ => stop = 0 && !forced
        | .unmatched _ => false
      | .error _ => false) = true := by
  decide +kernel

/-- Regions begin and end with empty text in front of every `c`. Limits from 19 on make no difference for
the text. A scan from a fresh stack stands still in front of a `c`, but for no more than two steps. -/
theorem stallLimit_spare_row :
    ∃ repository, compile rowGrammar 1000 = .ok repository ∧ repository.Forward ∧
      Session.Sound repository {} ∧ (ScopeStack.fresh repository).EndsWith Pattern.Forward ∧
      (ScopeStack.fresh repository).depth +
        (repository.regionCount + 1) * (2 * "cac".utf8ByteSize + 3) = 19 ∧
      (repository.scan { stallLimit := 19 } {} "cac" none).1 =
        (repository.scan { stallLimit := 1000 } {} "cac" none).1 ∧
      (∃ last, repository.rowScan.Idles 1 repository.freshStart last) ∧
      (∀ count last, repository.rowScan.Idles count repository.freshStart last → count ≤ 2) ∧
      ∃ scene, repository.rowScan.RunsTo repository.freshStart scene := by
  have hidles := rowGrammar_idles
  split at hidles
  · next repository hcompile =>
    rw [Bool.and_eq_true, Bool.and_eq_true, decide_eq_true_eq] at hidles
    obtain ⟨⟨hframed, hcount⟩, hresponds⟩ := hidles
    have hforward := forward_of_isFramed hframed
    have hends : (ScopeStack.fresh repository).EndsWith Pattern.Forward := .plain rfl
    have hneed : (ScopeStack.fresh repository).depth +
        (repository.regionCount + 1) * (2 * "cac".utf8ByteSize + 3) = 19 := by
      rw [hcount]
      rfl
    let settings (limit : Nat) : ScannerSettings := { stallLimit := limit }
    have hlimit (limit : Nat) (h : 19 ≤ limit) :
        ((none : Option ScopeStack).getD (.fresh repository)).depth +
          (repository.regionCount + 1) * (2 * "cac".utf8ByteSize + 3) ≤ (settings limit).stallLimit :=
      hneed.trans_le h
    have hmerge : (settings 19).mergeTokens = (settings 1000).mergeTokens := rfl
    obtain ⟨hsame, hidle⟩ := stallLimit_spare hforward hmerge (.new repository) (.new repository) "cac"
      none hends (hlimit 19 (Nat.le_refl _)) (hlimit 1000 (by decide))
    obtain ⟨hsteps, hruns⟩ := hidle 19 0 maxReentry (Line.ofString "c\n") 0 none (.fresh repository)
      { sink := { merge := true } } hends (.new repository) repository.freshStart (.refl _)
    refine ⟨repository, hcompile, hforward, .new repository, hends, hneed, hsame, ?_, ?_, hruns⟩
    · -- the first response is the begin of a region, with empty text
      cases hresponse : repository.rowScan.respond repository.freshStart with
      | unmatched scene => rw [hresponse] at hresponds; cases hresponds
      | matched scene stop forced unwind =>
        rw [hresponse] at hresponds
        dsimp only at hresponds
        rw [Bool.and_eq_true, decide_eq_true_eq, Bool.not_eq_true'] at hresponds
        obtain ⟨rfl, rfl⟩ := hresponds
        have hinside : repository.freshStart.cursor < repository.rowScan.line.size :=
          (by decide : 0 < (Line.ofString "c\n").size)
        exact ⟨_, .step (.intro hinside hresponse (Nat.lt_irrefl 0)) (.none _)⟩
    · rw [hcount] at hsteps
      exact hsteps
  · cases hidles

end Repository

end ScopeScanner
