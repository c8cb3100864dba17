import ScopeScanner.Proofs.Scanner.Leaving
import ScopeScanner.Proofs.Scanner.Merging
import ScopeScanner.Proofs.Scanner.Rooting
import ScopeScanner.Proofs.Scanner.StallLimit

/-!
# The shape of the stack

The stack does not remember with what its regions began, so their begins are followed beside the scan
(`Repository.begins`): the begin that wins is put down when a region begins, and forgotten when the
region leaves.

Matches do not lie before the search that finds them, and a scan does not go back. So each region begins
at or after the end of the begin below (`Stacked`), and regions can share a place only if all of these
but the topmost began with empty text. An empty begin is refused where its rule has begun, hence their
rules differ.

* **`LineScan.begins_stacked`**: a scan of a line leaves the begins one after the other, up to the end
  of the line, which is where the next line starts.
* **`Stacked.exists_run`**: begins in this order give the shape of a stack.
* **`Repository.endState_shape`**: hence the stack after a scan of a text has it.
-/

namespace ScopeScanner

/-! ## Begins one after the other -/

/-- Regions with their begins, the innermost first. Each of them begins at or after the end of the begin
below, and none ends beyond the limit. Where a begin is empty, no region of its rule had begun. -/
inductive Stacked (repository : Repository) : (limit : Nat) → List Frame → List Span → Prop where
  | nil {limit : Nat} : Stacked repository limit [] []
  | push {limit : Nat} {frame : Frame} {regions : List Frame} {begin : Span} {begins : List Span}
      (hbelow : Stacked repository begin.start regions begins)
      (hstart : frame.start = begin.start) (hspan : begin.start ≤ begin.stop)
      (hlimit : begin.stop ≤ limit) (hrule : frame.rule ∈ repository.regionIds)
      (hnew : begin.isEmpty = true → begunAt regions frame.rule begin.start = false) :
      Stacked repository limit (frame :: regions) (begin :: begins)

namespace Stacked

variable {repository : Repository} {limit : Nat} {regions : List Frame} {begins : List Span}

theorem mono (h : Stacked repository limit regions begins) {limit' : Nat} (hle : limit ≤ limit') :
    Stacked repository limit' regions begins := by
  cases h with
  | nil => exact .nil
  | push hbelow hstart hspan hlimit hrule hnew =>
    exact .push hbelow hstart hspan (Nat.le_trans hlimit hle) hrule hnew

theorem length_eq (h : Stacked repository limit regions begins) :
    begins.length = regions.length := by
  induction h with
  | nil => rfl
  | push _ _ _ _ _ _ ih => rw [List.length_cons, List.length_cons, ih]

/-- Some regions leave, and their begins with them. -/
theorem drop (h : Stacked repository limit regions begins) (count : Nat) :
    Stacked repository limit (regions.drop count) (begins.drop count) := by
  induction count generalizing limit regions begins with
  | zero => exact h
  | succ count ih =>
    cases h with
    | nil => exact .nil
    | push hbelow _ hspan hlimit _ _ =>
      exact (ih hbelow).mono (Nat.le_trans hspan hlimit)

/-- The begins of the regions that are left are the last ones. -/
theorem cut (h : Stacked repository limit regions begins) {left : List Frame} {count : Nat}
    (hleft : left = regions.drop count) :
    Stacked repository limit left (begins.drop (begins.length - left.length)) := by
  subst hleft
  rcases Nat.le_total count regions.length with hle | hge
  · have hcount : begins.length - (regions.drop count).length = count := by
      rw [h.length_eq, List.length_drop]
      omega
    rw [hcount]
    exact h.drop count
  · rw [List.drop_eq_nil_of_le hge, List.length_nil, Nat.sub_zero, List.drop_length]
    exact .nil

/-- Forgetting anchors leaves regions where they began. -/
theorem clearAnchors {stack : ScopeStack} (h : Stacked repository limit stack.regions begins) :
    Stacked repository limit stack.clearAnchors.regions begins := by
  unfold ScopeStack.clearAnchors
  dsimp only
  generalize stack.regions = regions at h
  induction h with
  | nil => exact .nil
  | push _ hstart hspan hlimit hrule hnew ih =>
    refine .push ih hstart hspan hlimit hrule fun hempty => ?_
    exact (begunAt_map (fun frame => { frame with parentAnchor := none }) (fun _ => rfl)
      (fun _ => rfl) _ _ _).trans (hnew hempty)

theorem starts_eq (h : Stacked repository limit regions begins) :
    begins.map Span.start = regions.map Frame.start := by
  induction h with
  | nil => rfl
  | push _ hstart _ _ _ _ ih => rw [List.map_cons, List.map_cons, ih, hstart]

theorem start_le (h : Stacked repository limit regions begins) :
    ∀ frame ∈ regions, frame.start ≤ limit := by
  induction h with
  | nil => simp
  | push _ hstart hspan hlimit _ _ ih =>
    intro frame hmem
    rcases List.mem_cons.mp hmem with rfl | hmem
    · omega
    · have := ih frame hmem
      omega

/-- The regions further out begin no later. -/
theorem sorted (h : Stacked repository limit regions begins) :
    regions.Pairwise fun upper lower => lower.start ≤ upper.start := by
  induction h with
  | nil => exact .nil
  | push hbelow hstart _ _ _ _ ih =>
    refine .cons ?_ ih
    intro lower hmem
    rw [hstart]
    exact hbelow.start_le lower hmem

/-- If no begin ends beyond a place, the regions that share it lie on top. All of them began with empty
text, and their rules differ. -/
theorem exists_topRun (h : Stacked repository limit regions begins) {place : Nat}
    (hle : limit ≤ place) :
    ∃ run below, regions.zip begins = run ++ below ∧
      run.map Prod.fst = regions.takeWhile (·.start = place) ∧
      (∀ entry ∈ run, entry.1.start = place ∧ entry.2.stop = entry.2.start ∧
        entry.1.rule ∈ repository.regionIds) ∧
      (run.map fun entry => entry.1.rule).Nodup ∧ ∀ entry ∈ below, entry.1.start ≠ place := by
  induction h with
  | nil => exact ⟨[], [], rfl, rfl, by simp, by simp, by simp⟩
  | @push limit frame regions begin begins hbelow hstart hspan hlimit hrule hnew ih =>
    by_cases hplace : frame.start = place
    · -- the begin lies between the place and the limit, so it is empty
      have hbegin : begin.start = place := hstart.symm.trans hplace
      have hstop : begin.stop = begin.start := by omega
      obtain ⟨run, below, hzip, htop, hrun, hnodup, hothers⟩ := ih (Nat.le_of_eq hbegin)
      have hempty : begin.isEmpty = true := decide_eq_true (Nat.le_of_eq hstop)
      have hnone := hnew hempty
      rw [hbegin, begunAt, ← htop, List.any_map, List.any_eq_false] at hnone
      refine ⟨(frame, begin) :: run, below, ?_, ?_, ?_, ?_, hothers⟩
      · rw [List.zip_cons_cons, hzip, List.cons_append]
      · rw [List.map_cons, htop, List.takeWhile_cons, if_pos (decide_eq_true hplace)]
      · exact List.forall_mem_cons.mpr ⟨⟨hplace, hstop, hrule⟩, hrun⟩
      · rw [List.map_cons]
        refine List.nodup_cons.mpr ⟨?_, hnodup⟩
        intro hmem
        obtain ⟨entry, hentry, hsame⟩ := List.mem_map.mp hmem
        exact hnone entry hentry (decide_eq_true hsame)
    · have hlower : ∀ lower ∈ frame :: regions, lower.start ≠ place := by
        intro lower hmem
        rcases List.mem_cons.mp hmem with rfl | hmem
        · exact hplace
        · have hbelow := hbelow.start_le lower hmem
          omega
      refine ⟨[], (frame, begin) :: regions.zip begins, rfl, ?_, by simp, by simp, ?_⟩
      · rw [List.takeWhile_cons, if_neg (by simpa using hplace), List.map_nil]
      · rintro ⟨lower, span⟩ hmem
        rw [← List.zip_cons_cons] at hmem
        exact hlower lower (List.of_mem_zip hmem).1

/-- The regions that share a place, with their begins, and what lies above and below them. All of them
but the topmost began with empty text, and their rules differ. -/
theorem exists_run (h : Stacked repository limit regions begins) (place : Nat) :
    ∃ above run below, regions.zip begins = above ++ run ++ below ∧
      (∀ entry ∈ run, entry.1.start = place) ∧
      (∀ entry ∈ above ++ below, entry.1.start ≠ place) ∧
      (∀ entry ∈ run.tail, entry.2.stop = entry.2.start) ∧
      (run.tail.map fun entry => entry.1.rule).Nodup ∧
      run.length ≤ repository.regionCount + 1 := by
  induction h with
  | nil => exact ⟨[], [], [], rfl, by simp, by simp, by simp, by simp, Nat.zero_le _⟩
  | @push limit frame regions begin begins hbelow hstart hspan hlimit hrule hnew ih =>
    by_cases hplace : frame.start = place
    · obtain ⟨run, below, hzip, _, hrun, hnodup, hothers⟩ :=
        hbelow.exists_topRun (Nat.le_of_eq (hstart.symm.trans hplace))
      refine ⟨[], (frame, begin) :: run, below, ?_, ?_, ?_, ?_, hnodup, ?_⟩
      · rw [List.zip_cons_cons, hzip]
        rfl
      · exact List.forall_mem_cons.mpr ⟨hplace, fun entry hmem => (hrun entry hmem).1⟩
      · exact hothers
      · exact fun entry hmem => (hrun entry hmem).2.1
      · have hrules : (run.map fun entry => entry.1.rule).toFinset ⊆ repository.regionIds := by
          intro id hmem
          obtain ⟨entry, hentry, rfl⟩ := List.mem_map.mp (List.mem_toFinset.mp hmem)
          exact (hrun entry hentry).2.2
        have hcard := (Finset.card_le_card hrules).trans repository.regionIds_card_le
        rw [List.toFinset_card_of_nodup hnodup, List.length_map] at hcard
        rw [List.length_cons]
        omega
    · obtain ⟨above, run, below, hzip, hrun, hothers, hshape⟩ := ih
      refine ⟨(frame, begin) :: above, run, below, ?_, hrun, ?_, hshape⟩
      · rw [List.zip_cons_cons, hzip]
        rfl
      · exact List.forall_mem_cons.mpr ⟨hplace, hothers⟩

end Stacked

/-! ## Following the begins -/

namespace LineScan

variable {scan : LineScan}

/-- Where the begin of a region lies in the buffer. -/
def placed (scan : LineScan) (groups : Groups) : Span where
  start := scan.offset + groups.whole.start
  stop := scan.offset + groups.whole.stop

/-- The begins after a step that leads to `scene`, and on to `next`. The begin of a region that is new is
put in front; then as many are forgotten as regions have left. -/
def follow (scan : LineScan) (state : Drive) (scene : Scene) (next : Drive) (begins : List Span) :
    List Span :=
  let begins :=
    if state.scene.stack.depth < scene.stack.depth then
      ((scan.winner? state).map fun winner => scan.placed winner.groups).toList ++ begins
    else begins
  begins.drop (begins.length - next.scene.stack.regions.length)

-- `h` is used by `decreasing_by` only.
set_option linter.unusedVariables false in
/-- The begins of the open regions when a scan of a line ends, from those that are open in a state of
it. -/
def begins (scan : LineScan) (state : Drive) (begun : List Span) : List Span :=
  if h : state.cursor < scan.line.size then
    match scan.respond state with
    | .unmatched _ => begun
    | .matched scene stop forced unwind =>
      let next := scan.settle state scene stop forced unwind
      scan.begins next (scan.follow state scene next begun)
  else begun
termination_by (scan.line.size - state.cursor, scan.stallLimit + 1 - state.stall)
decreasing_by
  rcases scan.settle_progress state scene stop forced unwind h with hlt | ⟨hcursor, hstall, hle⟩
  · exact Prod.Lex.left _ _ (by omega)
  · rw [hcursor, hstall]
    exact Prod.Lex.right _ (by omega)

/-- A scan does not go back. -/
theorem cursor_le_settle (scan : LineScan) {state : Drive} (hinside : state.cursor < scan.line.size)
    (scene : Scene) (stop : Nat) (forced unwind : Bool) :
    state.cursor ≤ (scan.settle state scene stop forced unwind).cursor := by
  rcases scan.settle_progress state scene stop forced unwind hinside with hlt | ⟨heq, _⟩
  · exact Nat.le_of_lt hlt
  · exact Nat.le_of_eq heq.symm

/-- Wherever a match ends on the line, the scan goes there at least. -/
theorem stop_le_settle (scan : LineScan) {state : Drive} (hinside : state.cursor < scan.line.size)
    {stop : Nat} (hstop : stop ≤ scan.line.size) (scene : Scene) (forced unwind : Bool) :
    stop ≤ (scan.settle state scene stop forced unwind).cursor := by
  rcases Nat.lt_or_ge state.cursor stop with hmoves | hstays
  · rw [settle, if_pos hmoves]
    dsimp only
    split
    · show stop ≤ scan.line.next stop
      rcases Nat.lt_or_ge stop scan.line.size with hlt | hge
      · exact Nat.le_of_lt (scan.line.lt_next hlt)
      · rw [scan.line.next_of_size_le hge]
        exact hstop
    · exact Nat.le_refl _
  · exact Nat.le_trans hstays (scan.cursor_le_settle hinside scene stop forced unwind)

/-- **A step leaves the begins one after the other**, up to the cursor. -/
theorem Turn.follow_stacked (hforward : scan.repository.Forward) {state : Drive} {scene : Scene}
    {stop : Nat} {unwind : Bool} (hturn : scan.Turn state scene stop unwind)
    (hinside : state.cursor < scan.line.size) {begun : List Span}
    (h : Stacked scan.repository (scan.offset + min state.cursor scan.line.size)
      state.scene.stack.regions begun) (forced : Bool) :
    let next := scan.settle state scene stop forced unwind
    Stacked scan.repository (scan.offset + min next.cursor scan.line.size)
      next.scene.stack.regions (scan.follow state scene next begun) := by
  dsimp only
  obtain ⟨count, _, hleft⟩ := scan.settle_stack state scene stop forced unwind
  have hcursor := scan.cursor_le_settle hinside scene stop forced unwind
  have hbelow : Stacked scan.repository
      (scan.offset + min (scan.settle state scene stop forced unwind).cursor scan.line.size)
      state.scene.stack.regions begun := h.mono (by omega)
  cases hturn with
  | keeps hregions hsettled hunwind =>
    have hdepth : ¬ state.scene.stack.depth < scene.stack.depth := by
      rw [ScopeStack.depth, ScopeStack.depth, hregions]
      exact Nat.lt_irrefl _
    rw [follow, if_neg hdepth]
    exact hbelow.cut (hleft.trans (by rw [hregions]))
  | ends pattern groups hwinner hclosing hfinds hregions hsettled hunwind =>
    have hdepth : ¬ state.scene.stack.depth < scene.stack.depth := by
      rw [ScopeStack.depth, ScopeStack.depth, hregions, List.length_tail]
      omega
    rw [follow, if_neg hdepth]
    rw [hregions, ← List.drop_one, List.drop_drop] at hleft
    exact hbelow.cut hleft
  | begins id rule region groups frame hwinner hrule hkind hfinds hrefuses hframe hstart hstop
      hregions hsettled hunwind =>
    subst hstop
    have hdepth : state.scene.stack.depth < scene.stack.depth := by
      rw [ScopeStack.depth, ScopeStack.depth, hregions]
      exact Nat.lt_succ_self _
    obtain ⟨hfrom, hspan⟩ := hforward.rules id rule region.opening hrule
      (Rule.pattern?_of_region hkind) _ _ _ _ (Nat.le_of_lt hinside) hfinds
    have hsize : groups.whole.stop ≤ scan.line.size := (Pattern.findAt_onLine hfinds).whole.2.le_size
    have hnext := scan.stop_le_settle hinside hsize scene forced unwind
    rw [follow, if_pos hdepth, hwinner]
    refine Stacked.cut ?_ (hleft.trans (by rw [hregions]))
    -- what has begun so far lies before the cursor, and the match does not start before it
    refine .push (h.mono ?_) hstart ?_ ?_ ?_ ?_
    · show scan.offset + min state.cursor scan.line.size ≤ scan.offset + groups.whole.start
      omega
    · exact Nat.add_le_add_left hspan _
    · exact Nat.add_le_add_left (Nat.le_min.mpr ⟨hnext, hsize⟩) _
    · rw [hframe]
      exact Repository.id_mem_regionIds hrule hkind
    · intro hempty
      have hle : scan.offset + groups.whole.stop ≤ scan.offset + groups.whole.start :=
        of_decide_eq_true hempty
      have hnothing : groups.whole.isEmpty = true := decide_eq_true (Nat.le_of_add_le_add_left hle)
      rw [hframe]
      exact begunAt_of_not_refused hnothing hrefuses

/-- **A scan of a line leaves the begins one after the other**, up to the end of the line. -/
theorem begins_stacked (hforward : scan.repository.Forward) (state : Drive) (begun : List Span)
    (h : Stacked scan.repository (scan.offset + min state.cursor scan.line.size)
      state.scene.stack.regions begun) :
    Stacked scan.repository (scan.offset + scan.line.size) (scan.drive state).stack.regions
      (scan.begins state begun) := by
  fun_induction begins scan state begun with
  | case1 state begun hinside scene hresponse =>
    have hstack := (Step.unmatched_stack (hresponse ▸ respond_step scan state)).2
    rw [drive_eq, if_pos hinside, hresponse]
    dsimp only
    rw [hstack]
    exact h.mono (by omega)
  | case2 state begun hinside scene stop forced unwind hresponse next ih =>
    rw [drive_eq, if_pos hinside, hresponse]
    exact ih ((respond_turn hresponse).follow_stacked hforward hinside h forced)
  | case3 state begun hend =>
    rw [drive_eq, if_neg hend]
    exact h.mono (by omega)

end LineScan

/-! ## Whole buffers -/

namespace Repository

variable (repository : Repository)

/-- Scans the next line of a buffer and follows the begins of the open regions. -/
def followNextLine (stallLimit : Nat) (followed : ScanProgress × List Span) (chars : List Char) :
    ScanProgress × List Span :=
  (repository.scanNextLine stallLimit followed.1 chars,
    (repository.lineScan stallLimit followed.1 chars).begins (followed.1.lineStart chars) followed.2)

/-- The begins of the regions that are open after a scan of a text from a fresh stack, the innermost
first. -/
def begins (settings : ScannerSettings) (session : Session) (text : String) : List Span :=
  ((Text.lines text.toList).foldl (repository.followNextLine settings.stallLimit)
    (.begin settings session (.fresh repository), [])).2

/-- Following the begins does not change the scan. -/
theorem foldl_followNextLine_fst (stallLimit : Nat) (lines : List (List Char))
    (followed : ScanProgress × List Span) :
    (lines.foldl (repository.followNextLine stallLimit) followed).1 =
      lines.foldl (repository.scanNextLine stallLimit) followed.1 := by
  induction lines generalizing followed with
  | nil => rfl
  | cons chars rest ih => exact ih _

variable {repository}

theorem followNextLine_stacked (hforward : repository.Forward) (stallLimit : Nat)
    {followed : ScanProgress × List Span}
    (h : Stacked repository followed.1.offset followed.1.stack.regions followed.2)
    (chars : List Char) :
    let next := repository.followNextLine stallLimit followed chars
    Stacked repository (followed.1.offset + (Line.ofChars (terminated chars)).size)
      next.1.stack.regions next.2 := by
  have hbegin := (repository.lineScan stallLimit followed.1 chars).begins_stacked hforward
    (followed.1.lineStart chars) followed.2 (h.clearAnchors.mono (Nat.le_add_right _ _))
  dsimp only [followNextLine]
  rw [scanNextLine_eq]
  exact hbegin

/-- Line after line the begins stay one after the other. A line with another behind it ends with a line
feed, so it is matched as it is, and the next one starts where it ends. -/
theorem foldl_followNextLine_stacked (hforward : repository.Forward) (stallLimit : Nat)
    {text : List Char} (rest : List (List Char)) {before : List (List Char)}
    (hlines : Text.lines text = before ++ rest) {followed : ScanProgress × List Span}
    (h : Stacked repository followed.1.offset followed.1.stack.regions followed.2) :
    ∃ limit, Stacked repository limit
      (rest.foldl (repository.followNextLine stallLimit) followed).1.stack.regions
      (rest.foldl (repository.followNextLine stallLimit) followed).2 := by
  induction rest generalizing before followed with
  | nil => exact ⟨_, h⟩
  | cons chars rest ih =>
    have hnext := followNextLine_stacked hforward stallLimit h chars
    cases rest with
    | nil => exact ⟨_, hnext⟩
    | cons line rest =>
      have hrest : Text.lines text = (before ++ [chars]) ++ line :: rest := by simpa using hlines
      refine ih hrest ?_
      have hfeed := Text.getLast?_of_lines hlines (List.cons_ne_nil line rest)
      have hsize : (Line.ofChars (terminated chars)).size = Line.byteCount chars := by
        rw [Line.size_eq_byteCount, Line.chars_ofChars, terminated, if_pos hfeed]
      rw [hsize] at hnext
      exact hnext

/-- A stack with the begins of its regions, the innermost first. The frames are sorted by their places
from the bottom to the top, and the regions that share a place lie together. All of these but the topmost
began with empty text, with rules that differ, so there is at most one more than there are region
rules. -/
structure Shape (repository : Repository) (stack : ScopeStack) (begins : List Span) : Prop where
  starts : begins.map Span.start = stack.regions.map Frame.start
  sorted : stack.frames.Pairwise fun lower upper => lower.start ≤ upper.start
  runs : ∀ place, ∃ above run below, stack.regions.zip begins = above ++ run ++ below ∧
    (∀ entry ∈ run, entry.1.start = place) ∧
    (∀ entry ∈ above ++ below, entry.1.start ≠ place) ∧
    (∀ entry ∈ run.tail, entry.2.stop = entry.2.start) ∧
    (run.tail.map fun entry => entry.1.rule).Nodup ∧
    run.length ≤ repository.regionCount + 1

/-- **The shape of the stack after a scan.** This holds for each text that is scanned from a fresh stack,
if matches do not lie before the search that finds them. -/
theorem endState_shape (hforward : repository.Forward) (settings : ScannerSettings)
    (session : Session) (text : String) :
    Shape repository (repository.scan settings session text none).1.endState
      (repository.begins settings session text) := by
  have hfresh : Stacked repository 0 (ScopeStack.fresh repository).regions [] := .nil
  obtain ⟨limit, h⟩ := foldl_followNextLine_stacked hforward settings.stallLimit
    (Text.lines text.toList) (List.nil_append _).symm
    (show Stacked repository (ScanProgress.begin settings session (.fresh repository), []).1.offset
      _ [] from hfresh)
  rw [foldl_followNextLine_fst] at h
  refine ⟨h.starts_eq, ?_, h.exists_run⟩
  -- the bottom is the one of the fresh stack, which lies at the start of the buffer
  have hbottom := (repository.scan_rooted settings session text Continues.fresh.bottom_eq).1
  rw [ScopeStack.frames, hbottom]
  exact .cons (fun _ _ => Nat.zero_le _) (List.pairwise_reverse.mpr h.sorted)

/-- A region that begins with an `a` to which the anchor points, or with empty text. -/
def twiceGrammar : Grammar where
  scopeName := "source.t"
  patterns := [{ reference := some "#twice" }]
  repository := [("twice", {
    opening := some "(\\Ga)?"
    closing := some "z"
    patterns := [{ reference := some "#twice" }] })]

theorem twiceGrammar_starts :
    (match compile twiceGrammar 1000 with
      | .ok repository => repository.isFramed && repository.regionCount = 1 &&
        decide (((Text.lines "a".toList).foldl (repository.scanNextLineWithin 32 8)
          (.begin {} {} (.fresh repository))).stack.regions.map Frame.start = [0, 0])
      | .error _ => false) = true := by
  decide +kernel

/-- It begins with empty text in front of an `a`, and with the `a` again. So two regions share a place,
one more than there are region rules. -/
theorem endState_shape_twice :
    ∃ repository, compile twiceGrammar 1000 = .ok repository ∧ repository.Forward ∧
      repository.regionCount = 1 ∧
      let stack := (repository.scan {} {} "a" none).1.endState
      stack.regions.map Frame.start = [0, 0] ∧
        Shape repository stack (repository.begins {} {} "a") := by
  have hstarts := twiceGrammar_starts
  split at hstarts
  · next repository hcompile =>
    simp only [scanNextLineWithin_eq, Bool.and_eq_true, decide_eq_true_eq] at hstarts
    obtain ⟨⟨hframed, hcount⟩, hstarts⟩ := hstarts
    have hforward := forward_of_isFramed hframed
    exact ⟨repository, hcompile, hforward, hcount, hstarts, endState_shape hforward {} {} "a"⟩
  · cases hstarts

end Repository

end ScopeScanner
