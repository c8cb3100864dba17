import Mathlib.Algebra.GroupWithZero.Nat
import Mathlib.Data.Nat.Count
import ScopeScanner.Proofs.Scanner.Ends
import ScopeScanner.Proofs.Scanner.Places

/-!
# How deep empty begins nest

Suppose that nothing in a text matches but begins of regions, that all regions share one begin, and that
it matches nothing but empty text (`Repository.OnlyBegins`). Then regions open one inside the other and
never end. When a rule comes round again in one place, its begin is refused, and the regions opened since
the scan last moved are dropped. Two kinds of regions are not dropped: one whose begin is found further
on than where the scan stands, because by beginning it moves the scan, and one whose begin is not found
any more once the anchor holds in its place. A place where this can happen is loose
(`Pattern.isLoose`).

* **`Repository.endState_depth_le`**: at the end of the text no more regions are open than there are
  loose places in it, and in one place as many as there are region rules.

The invariant of a scan along a line is `LineScan.Piled`: so many regions have begun where the scan
stands, on top of those that loose places have left behind.
-/

namespace ScopeScanner

/-! ## Loose places -/

namespace Pattern

/-- What a search finds, if it finds anything, meets a condition. -/
def findsOnly (pattern : Pattern) (line : Line) (start : Nat) (atAnchor : Bool)
    (condition : Groups → Bool) : Bool :=
  match pattern.findAt line start atAnchor with
  | .ok (some groups) => condition groups
  | _ => true

/-- All searches along a line find empty text only, at or after their starts. -/
def emptyOn (pattern : Pattern) (line : Line) : Bool :=
  (List.range line.size).all fun start => [false, true].all fun atAnchor =>
    pattern.findsOnly line start atAnchor fun groups =>
      start ≤ groups.whole.start && groups.whole.stop = groups.whole.start

/-- No search along a line finds anything. -/
def missesOn (pattern : Pattern) (line : Line) : Bool :=
  (List.range line.size).all fun start => [false, true].all fun atAnchor =>
    pattern.findsOnly line start atAnchor fun _ => false

/-- A search finds a match that starts in a place. -/
def findsIn (pattern : Pattern) (line : Line) (start : Nat) (atAnchor : Bool) (place : Nat) : Bool :=
  match pattern.findAt line start atAnchor with
  | .ok (some groups) => groups.whole.start = place
  | _ => false

/-- Whether some search finds a place from further ahead, or finds it although the search from right
there does not when the anchor holds. -/
def isLoose (pattern : Pattern) (line : Line) (place : Nat) : Bool :=
  (List.range line.size).any fun start => [false, true].any fun atAnchor =>
    pattern.findsIn line start atAnchor place &&
      (start < place || !pattern.findsIn line place true place)

/-- Number of loose places before a position. -/
def looseBefore (pattern : Pattern) (line : Line) (position : Nat) : Nat :=
  Nat.count (fun place => pattern.isLoose line place = true) position

/-- Number of loose places on some lines. -/
def looseOn (pattern : Pattern) (lines : List Line) : Nat :=
  (lines.map fun line => pattern.looseBefore line (line.size + 1)).sum

variable {pattern : Pattern} {line : Line} {start place : Nat} {atAnchor : Bool} {groups : Groups}

theorem start_le_of_emptyOn (h : pattern.emptyOn line = true) (hstart : start < line.size)
    (hfinds : pattern.findAt line start atAnchor = .ok (some groups)) :
    start ≤ groups.whole.start ∧ groups.whole.stop = groups.whole.start := by
  simp only [emptyOn, List.all_eq_true, List.mem_range] at h
  have hfound := h start hstart atAnchor (by cases atAnchor <;> simp)
  simpa [findsOnly, hfinds] using hfound

theorem not_finds_of_missesOn (h : pattern.missesOn line = true) (hstart : start < line.size) :
    pattern.findAt line start atAnchor ≠ .ok (some groups) := by
  intro hfinds
  simp only [missesOn, List.all_eq_true, List.mem_range] at h
  have hfound := h start hstart atAnchor (by cases atAnchor <;> simp)
  simp [findsOnly, hfinds] at hfound

theorem findsIn_of_finds (hfinds : pattern.findAt line start atAnchor = .ok (some groups)) :
    pattern.findsIn line start atAnchor place = decide (groups.whole.start = place) := by
  rw [findsIn, hfinds]

theorem isLoose_of_findsIn (hstart : start < line.size)
    (hfinds : pattern.findsIn line start atAnchor place = true)
    (hloose : start < place ∨ pattern.findsIn line place true place = false) :
    pattern.isLoose line place = true := by
  simp only [isLoose, List.any_eq_true, List.mem_range]
  refine ⟨start, hstart, atAnchor, by cases atAnchor <;> simp, ?_⟩
  simpa [hfinds] using hloose

theorem looseBefore_mono (pattern : Pattern) (line : Line) {first second : Nat}
    (h : first ≤ second) :
    pattern.looseBefore line first ≤ pattern.looseBefore line second :=
  Nat.count_monotone _ h

theorem looseBefore_succ (h : pattern.isLoose line place = true) :
    pattern.looseBefore line (place + 1) = pattern.looseBefore line place + 1 := by
  rw [looseBefore, Nat.count_succ, if_pos h]
  rfl

end Pattern

/-! ## Texts in which nothing but begins matches -/

/-- An end that is found nowhere on some lines. -/
def EndlessOn (lines : List Line) (pattern : Pattern) : Prop :=
  ∀ line ∈ lines, pattern.missesOn line = true

/-- In some lines the repository matches nothing but the begin that all its regions share, and this
begin matches empty text only. -/
structure Repository.OnlyBegins (repository : Repository) (opening : Pattern) (lines : List Line) :
    Prop where
  regions : ∀ id rule pattern, repository.rule? id = some rule → rule.pattern? = some pattern →
    ∃ region, rule.kind = .region region ∧ region.opening = opening
  empty : ∀ line ∈ lines, opening.emptyOn line = true
  endless : ∀ line ∈ lines, repository.MakesEnds line (EndlessOn lines)

/-- Nothing that matches is on offer in a stack. -/
def Repository.Silent (repository : Repository) (stack : ScopeStack) : Prop :=
  ∀ rule, repository.Offers stack rule → rule.pattern? = none

/-- The stack is at most `bound` deep or, if nothing that matches is on offer any more, deeper by one
region for each rule. -/
def Repository.Bounded (repository : Repository) (bound : Nat) (stack : ScopeStack) : Prop :=
  stack.depth ≤ bound ∨
    repository.Silent stack ∧ stack.depth ≤ bound + repository.regionCount

/-- Dropped are the regions above the settled ones. -/
theorem Scene.unwind_depth {scene : Scene} (hpos : 0 < scene.settled)
    (hle : scene.settled ≤ scene.stack.depth) : scene.unwind.stack.depth = scene.settled := by
  rw [ScopeStack.depth] at hle
  rw [ScopeStack.depth, unwind, dropRegions_regions, List.length_drop, ScopeStack.depth]
  omega

/-! ## Steps -/

/-- If nothing wins, no candidate matches. -/
theorem findAmong_eq_none {line : Line} {start : Nat} {atAnchor : Bool} {candidates : List Candidate}
    {best : Option Winner} (h : findAmong line start atAnchor candidates best = none) :
    best = none ∧ ∀ candidate ∈ candidates, candidate.match? line start atAnchor = none := by
  induction candidates generalizing best with
  | nil => exact ⟨h, by simp⟩
  | cons candidate rest ih =>
    cases hmatch : candidate.match? line start atAnchor with
    | none =>
      rw [findAmong, hmatch] at h
      obtain ⟨hbest, hrest⟩ := ih h
      exact ⟨hbest, List.forall_mem_cons.mpr ⟨hmatch, hrest⟩⟩
    | some found =>
      -- a match is given up for nothing but a better one
      have kept : (if found.groups.whole.start = start then some found
          else findAmong line start atAnchor rest (some found)) ≠ none := by
        split
        · exact Option.some_ne_none _
        · exact fun hnone => absurd (ih hnone).1 (Option.some_ne_none _)
      rw [findAmong, hmatch] at h
      cases best with
      | none => exact absurd h kept
      | some best =>
        dsimp only at h
        split at h
        · exact absurd h kept
        · cases (ih h).1

namespace LineScan

variable {scan : LineScan} {opening : Pattern} {lines : List Line}

/-- A rule on offer competes with its pattern. -/
theorem candidate_of_rule {stack : ScopeStack} {rules : List RuleId} {id : RuleId} {rule : Rule}
    {pattern : Pattern} (hid : id ∈ rules) (hrule : scan.repository.rule? id = some rule)
    (hpattern : rule.pattern? = some pattern) :
    { target := .rule id, pattern } ∈ scan.candidates stack rules := by
  have hinner : { target := .rule id, pattern } ∈ rules.filterMap fun id =>
      ((scan.repository.rule? id).bind Rule.pattern?).map fun pattern =>
        ({ target := .rule id, pattern } : Candidate) :=
    List.mem_filterMap.mpr ⟨id, hid, by rw [hrule, Option.bind_some, hpattern]; rfl⟩
  rw [candidates]
  dsimp only
  split
  · exact hinner
  · have either (last : Bool) (inner : List Candidate) (closing : Candidate)
        (hmem : { target := .rule id, pattern } ∈ inner) :
        { target := .rule id, pattern } ∈
          if last then inner ++ [closing] else closing :: inner := by
      cases last with
      | true => exact List.mem_append_left _ hmem
      | false => exact List.mem_cons_of_mem _ hmem
    exact either _ _ _ hinner

/-- Where nothing wins, nothing that matches is on offer, or the begin is not found. -/
theorem silent_or_missed (honly : scan.repository.OnlyBegins opening lines) {state : Drive}
    (hsound : state.scene.Sound scan.repository) (hnone : scan.winner? state = none) (place : Nat) :
    scan.repository.Silent state.scene.stack ∨
      opening.findsIn scan.line state.cursor (state.scene.anchor = some state.cursor) place =
        false := by
  by_cases hsilent : scan.repository.Silent state.scene.stack
  · exact Or.inl hsilent
  · right
    simp only [Repository.Silent, not_forall] at hsilent
    obtain ⟨rule, ⟨id, hid, hrule⟩, hpattern⟩ := hsilent
    obtain ⟨pattern, hsome⟩ := Option.ne_none_iff_exists'.mp hpattern
    obtain ⟨region, hkind, rfl⟩ := honly.regions id rule pattern hrule hsome
    have hopening : pattern = region.opening := by
      rw [Rule.pattern?_of_region hkind] at hsome
      exact (Option.some.inj hsome).symm
    rw [← offered_of_sound hsound] at hid
    have hlost := (findAmong_eq_none hnone).2 _ (candidate_of_rule hid hrule (hopening ▸ hsome))
    have hmissed (groups : Groups) : region.opening.findAt scan.line state.cursor
        (state.scene.anchor = some state.cursor) ≠ .ok (some groups) := by
      intro hfinds
      simp only [Candidate.match?, hfinds, reduceCtorEq] at hlost
    rw [Pattern.findsIn]
    split
    · next groups hfinds => exact absurd hfinds (hmissed groups)
    · rfl

/-- How a stack is piled up along a line. Below are at most `floor` frames and one for each loose place
that the scan has passed; above them are `fresh` regions that have begun where the scan stands. If the
first of these was found from further ahead, it is settled already. -/
structure Piled (scan : LineScan) (opening : Pattern) (floor fresh : Nat) (state : Drive) : Prop where
  cursor_le : state.cursor ≤ scan.line.size
  depth_le : state.scene.stack.depth ≤
    floor + opening.looseBefore scan.line state.cursor + fresh
  fresh_lt : fresh < state.scene.stack.depth
  begun : fresh ≤
    (scan.repository.begunIds state.scene.stack.regions (scan.offset + state.cursor)).card
  anchored : 0 < fresh → state.scene.anchor = some state.cursor
  found : 0 < fresh → ∃ start < scan.line.size, ∃ atAnchor,
    opening.findsIn scan.line start atAnchor state.cursor = true
  again : 1 < fresh → opening.findsIn scan.line state.cursor true state.cursor = true
  settled : state.scene.settled + fresh = state.scene.stack.depth ∨
    (state.scene.settled + fresh = state.scene.stack.depth + 1 ∧ 0 < fresh ∧
      opening.isLoose scan.line state.cursor = true)
  atEnd : scan.line.size ≤ state.cursor → state.scene.settled = state.scene.stack.depth

namespace Piled

variable {floor fresh : Nat} {state : Drive}

theorem begin (scan : LineScan) (opening : Pattern) (anchor : Option Nat) (stack : ScopeStack)
    (emission : Emission) :
    scan.Piled opening stack.depth 0 (.begin 0 anchor stack emission) where
  cursor_le := Nat.zero_le _
  depth_le := Nat.le_add_right _ _
  fresh_lt := Nat.succ_pos _
  begun := Nat.zero_le _
  anchored := fun h => absurd h (Nat.lt_irrefl 0)
  found := fun h => absurd h (Nat.lt_irrefl 0)
  again := fun h => absurd h (by omega)
  settled := Or.inl rfl
  atEnd := fun _ => rfl

/-- What is settled is what loose places have left behind, the present one included. -/
theorem settled_le (h : scan.Piled opening floor fresh state) :
    0 < state.scene.settled ∧ state.scene.settled ≤ state.scene.stack.depth ∧
      state.scene.settled ≤ floor + opening.looseBefore scan.line (state.cursor + 1) := by
  have hdepth := h.depth_le
  have hfresh := h.fresh_lt
  rcases h.settled with hsettled | ⟨hsettled, hpos, hloose⟩
  · have hmono := opening.looseBefore_mono scan.line (Nat.le_add_right state.cursor 1)
    omega
  · have hsucc := Pattern.looseBefore_succ hloose
    omega

/-- Where the begin is not found any more, at most one region has begun, in a loose place. -/
theorem depth_le_of_missed (h : scan.Piled opening floor fresh state)
    (hmissed : opening.findsIn scan.line state.cursor (state.scene.anchor = some state.cursor)
      state.cursor = false) :
    state.scene.stack.depth ≤ floor + opening.looseBefore scan.line (state.cursor + 1) := by
  have hdepth := h.depth_le
  rcases Nat.eq_zero_or_pos fresh with rfl | hpos
  · have hmono := opening.looseBefore_mono scan.line (Nat.le_add_right state.cursor 1)
    omega
  · -- a second region would have been found right here with the anchor in place
    rw [h.anchored hpos, decide_eq_true rfl] at hmissed
    have hfew : fresh ≤ 1 := by
      refine Nat.le_of_not_lt fun hmany => ?_
      rw [h.again hmany] at hmissed
      cases hmissed
    obtain ⟨start, hstart, atAnchor, hfound⟩ := h.found hpos
    have hsucc := Pattern.looseBefore_succ
      (Pattern.isLoose_of_findsIn hstart hfound (Or.inr hmissed))
    omega

/-- At the end of the line nothing has begun that is not settled. -/
theorem depth_le_of_end (h : scan.Piled opening floor fresh state)
    (hend : scan.line.size ≤ state.cursor) :
    state.scene.stack.depth ≤ floor + opening.looseBefore scan.line (state.cursor + 1) := by
  rw [← h.atEnd hend]
  exact h.settled_le.2.2

/-- No more regions have begun where the scan stands than there are region rules. -/
theorem fresh_le (h : scan.Piled opening floor fresh state) :
    fresh ≤ scan.repository.regionCount :=
  h.begun.trans (Repository.begunIds_card_le _ _)

/-- Covering one character by force leaves what is settled. -/
theorem force {scene : Scene} {cursor : Nat} (hpos : 0 < scene.settled)
    (hle : scene.settled ≤ scene.stack.depth)
    (hfloor : scene.settled ≤ floor + opening.looseBefore scan.line (scan.line.next cursor)) :
    scan.Piled opening floor 0 (scan.force cursor true scene) where
  cursor_le := (scan.line.next_boundary cursor).le_size
  depth_le := by
    show scene.unwind.stack.depth ≤ _
    rw [Scene.unwind_depth hpos hle]
    exact hfloor
  fresh_lt := Nat.succ_pos _
  begun := Nat.zero_le _
  anchored := fun h => absurd h (Nat.lt_irrefl 0)
  found := fun h => absurd h (Nat.lt_irrefl 0)
  again := fun h => absurd h (by omega)
  settled := Or.inl rfl
  atEnd := fun _ => rfl

/-- A refused begin drops what is not settled. -/
theorem refuse (h : scan.Piled opening floor fresh state) (hlt : state.cursor < scan.line.size)
    {groups : Groups} (hfinds : scan.Finds state opening groups)
    (hempty : groups.whole.stop = groups.whole.start) :
    scan.Piled opening floor 0
      (scan.settle state (scan.approached state groups) groups.whole.stop true true) := by
  rw [settle]
  split
  · next hmoved =>
    -- the begin is found further on, so nothing is dropped
    have hmissed := h.depth_le_of_missed (by
      rw [Pattern.findsIn_of_finds hfinds]
      exact decide_eq_false (by omega))
    have hnext := scan.line.lt_next_of_lt hlt hmoved
    exact force (Nat.succ_pos _) (Nat.le_refl _)
      (hmissed.trans (Nat.add_le_add_left (opening.looseBefore_mono _ hnext) _))
  · obtain ⟨hpos, hle, hfloor⟩ := h.settled_le
    have hnext := scan.line.lt_next hlt
    dsimp only
    rw [Bool.true_or, if_pos rfl]
    exact force hpos hle (hfloor.trans (Nat.add_le_add_left (opening.looseBefore_mono _ hnext) _))

variable {scene : Scene} {frame : Frame} {place : Nat}

/-- A region whose begin is found further on is the first one there. It is settled at once, and its place
is loose. -/
theorem ahead (h : scan.Piled opening floor fresh state) (hlt : state.cursor < scan.line.size)
    (hfound : opening.findsIn scan.line state.cursor (state.scene.anchor = some state.cursor) place =
      true)
    (hmoved : state.cursor < place) (hplace : place ≤ scan.line.size)
    (hmissed : opening.findsIn scan.line state.cursor (state.scene.anchor = some state.cursor)
      state.cursor = false)
    (hstack : scene.stack = state.scene.stack.push frame)
    (hrule : frame.rule ∈ scan.repository.regionIds) (hstart : frame.start = scan.offset + place)
    (hanchor : scene.anchor = some place) :
    scan.Piled opening floor 1
      { cursor := place, scene := { scene with settled := scene.stack.depth } } where
  cursor_le := hplace
  depth_le := by
    have hleft := h.depth_le_of_missed hmissed
    have hmono := opening.looseBefore_mono scan.line (show state.cursor + 1 ≤ place from hmoved)
    show scene.stack.depth ≤ floor + opening.looseBefore scan.line place + 1
    rw [hstack]
    show state.scene.stack.depth + 1 ≤ _
    omega
  fresh_lt := by
    show 1 < scene.stack.depth
    rw [hstack]
    exact Nat.succ_lt_succ (Nat.succ_pos _)
  begun := by
    show 1 ≤ (scan.repository.begunIds scene.stack.regions (scan.offset + place)).card
    rw [hstack]
    show 1 ≤ (scan.repository.begunIds (frame :: state.scene.stack.regions) _).card
    rw [Repository.begunIds_cons hrule hstart]
    exact Finset.card_pos.mpr (Finset.insert_nonempty _ _)
  anchored := fun _ => hanchor
  found := fun _ => ⟨state.cursor, hlt, _, hfound⟩
  again := fun hmany => absurd hmany (Nat.lt_irrefl 1)
  settled := Or.inr ⟨rfl, Nat.one_pos, Pattern.isLoose_of_findsIn hlt hfound (Or.inl hmoved)⟩
  atEnd := fun _ => rfl

/-- A region whose begin is found where the scan stands is one more. -/
theorem here (h : scan.Piled opening floor fresh state) (hlt : state.cursor < scan.line.size)
    (hfound : opening.findsIn scan.line state.cursor (state.scene.anchor = some state.cursor)
      state.cursor = true)
    (hstack : scene.stack = state.scene.stack.push frame)
    (hrule : frame.rule ∈ scan.repository.regionIds)
    (hstart : frame.start = scan.offset + state.cursor)
    (hnew : begunAt state.scene.stack.regions frame.rule (scan.offset + state.cursor) = false)
    (hanchor : scene.anchor = some state.cursor) (hsettled : scene.settled = state.scene.settled)
    (stall : Nat) :
    scan.Piled opening floor (fresh + 1) { cursor := state.cursor, stall, scene } where
  cursor_le := h.cursor_le
  depth_le := by
    show scene.stack.depth ≤ _
    rw [hstack]
    exact Nat.succ_le_succ h.depth_le
  fresh_lt := by
    show _ < scene.stack.depth
    rw [hstack]
    exact Nat.succ_lt_succ h.fresh_lt
  begun := by
    show _ ≤ (scan.repository.begunIds scene.stack.regions (scan.offset + state.cursor)).card
    rw [hstack]
    show _ ≤ (scan.repository.begunIds (frame :: state.scene.stack.regions) _).card
    rw [Repository.begunIds_push hrule hstart hnew]
    exact Nat.succ_le_succ h.begun
  anchored := fun _ => hanchor
  found := fun _ => ⟨state.cursor, hlt, _, hfound⟩
  again := by
    intro hmany
    rw [h.anchored (by omega), decide_eq_true rfl] at hfound
    exact hfound
  settled := by
    show scene.settled + _ = scene.stack.depth ∨ scene.settled + _ = scene.stack.depth + 1 ∧ _
    rw [hstack, hsettled]
    exact h.settled.imp (congrArg Nat.succ)
      fun ⟨hcount, _, hloose⟩ => ⟨congrArg Nat.succ hcount, Nat.succ_pos _, hloose⟩
  atEnd := fun hend => absurd hlt (Nat.not_lt.mpr hend)

/-- A begin that is not refused opens a region where it is found. -/
theorem enter (h : scan.Piled opening floor fresh state) (hlt : state.cursor < scan.line.size)
    {id : RuleId} {rule : Rule} {region : Region} {groups : Groups}
    (hrule : scan.repository.rule? id = some rule) (hkind : rule.kind = .region region)
    (hfinds : scan.Finds state opening groups) (hstart : state.cursor ≤ groups.whole.start)
    (hempty : groups.whole.stop = groups.whole.start)
    (hrefuses : scan.refuses rule groups state.scene.stack = false) :
    ∃ fresh', scan.Piled opening floor fresh'
      (scan.settle state (scan.entered rule region groups (scan.approached state groups))
        groups.whole.stop false false) := by
  obtain ⟨frame, hstack, hid, hframe⟩ :=
    scan.entered_stack rule region groups (scan.approached state groups)
  have hregion := Repository.id_mem_regionIds hrule hkind
  rw [← hid] at hregion
  have hfound (place : Nat) : opening.findsIn scan.line state.cursor
      (state.scene.anchor = some state.cursor) place = decide (groups.whole.start = place) :=
    Pattern.findsIn_of_finds hfinds
  have hplace : frame.start = scan.offset + groups.whole.stop := by rw [hframe, hempty]
  rw [settle]
  split
  · next hmoved =>
    exact ⟨1, h.ahead hlt ((hfound _).trans (decide_eq_true hempty.symm)) hmoved
      (Pattern.findAt_onLine hfinds).whole.2.le_size
      ((hfound _).trans (decide_eq_false (by omega))) hstack hregion hplace rfl⟩
  · have hcursor : groups.whole.stop = state.cursor := by omega
    -- the scan stays where it is, unless it has done so too often
    dsimp only
    split
    · next hstalled =>
      -- too many steps without progress: the new region is dropped with the others
      obtain ⟨hpos, hle, hfloor⟩ := h.settled_le
      have hnext := opening.looseBefore_mono scan.line
        (show state.cursor + 1 ≤ _ from scan.line.lt_next hlt)
      rw [Bool.false_or] at hstalled
      rw [Bool.false_or, hstalled]
      exact ⟨0, force hpos (Nat.le_succ_of_le hle) (hfloor.trans (Nat.add_le_add_left hnext _))⟩
    · have hnew := begunAt_of_not_refused (by simp [Span.isEmpty, hempty]) hrefuses
      rw [← hempty, hcursor, ← hid] at hnew
      rw [hcursor] at hplace
      exact ⟨fresh + 1, h.here hlt ((hfound _).trans (decide_eq_true (hempty ▸ hcursor))) hstack
        hregion hplace hnew (congrArg some hcursor) rfl _⟩

end Piled

/-- Ends that are found nowhere do not match. -/
theorem not_finds_closing (hline : scan.line ∈ lines) {state : Drive}
    (hends : state.scene.stack.EndsWith (EndlessOn lines)) (hlt : state.cursor < scan.line.size)
    {pattern : Pattern} (hclosing : state.scene.stack.top.closing = some pattern) {groups : Groups} :
    ¬ scan.Finds state pattern groups :=
  Pattern.not_finds_of_missesOn ((hends.top hclosing).1 scan.line hline) hlt

/-- A step in which something matches piles up regions or drops them. -/
theorem Piled.step (honly : scan.repository.OnlyBegins opening lines) (hline : scan.line ∈ lines)
    {floor fresh : Nat} {state : Drive} (h : scan.Piled opening floor fresh state)
    (hends : state.scene.stack.EndsWith (EndlessOn lines)) (hlt : state.cursor < scan.line.size)
    {scene : Scene} {stop : Nat} {forced unwind : Bool}
    (hstep : scan.Step state (.matched scene stop forced unwind)) :
    ∃ fresh', scan.Piled opening floor fresh' (scan.settle state scene stop forced unwind) := by
  have isOpening {id : RuleId} {rule : Rule} {region : Region}
      (hrule : scan.repository.rule? id = some rule) (hkind : rule.kind = .region region) :
      region.opening = opening := by
    obtain ⟨other, hother, hopening⟩ :=
      honly.regions id rule region.opening hrule (Rule.pattern?_of_region hkind)
    rw [hkind] at hother
    cases hother
    exact hopening
  cases hstep with
  | close pattern groups hclosing hfinds =>
    exact absurd hfinds (not_finds_closing hline hends hlt hclosing)
  | simple id rule pattern captures groups hid hrule hkind hfinds =>
    obtain ⟨region, hregion, _⟩ :=
      honly.regions id rule pattern hrule (by rw [Rule.pattern?, hkind])
    rw [hkind] at hregion
    cases hregion
  | refuse id rule region groups hid hrule hkind hfinds hrefuses =>
    rw [isOpening hrule hkind] at hfinds
    obtain ⟨_, hempty⟩ := Pattern.start_le_of_emptyOn (honly.empty _ hline) hlt hfinds
    exact ⟨0, h.refuse hlt hfinds hempty⟩
  | enter id rule region groups hid hrule hkind hfinds hrefuses =>
    rw [isOpening hrule hkind] at hfinds
    obtain ⟨hstart, hempty⟩ := Pattern.start_le_of_emptyOn (honly.empty _ hline) hlt hfinds
    exact h.enter hlt hrule hkind hfinds hstart hempty hrefuses

/-- Where nothing that matches is on offer, nothing happens to the stack. -/
theorem drive_silent (hline : scan.line ∈ lines) (state : Drive)
    (hends : state.scene.stack.EndsWith (EndlessOn lines))
    (hsilent : scan.repository.Silent state.scene.stack)
    (hsound : state.scene.Sound scan.repository) :
    (scan.drive state).stack = state.scene.stack := by
  have silent {id : RuleId} {rule : Rule} {pattern : Pattern} (hid : id ∈ scan.offered state.scene)
      (hrule : scan.repository.rule? id = some rule) : rule.pattern? ≠ some pattern := by
    rw [hsilent rule ⟨id, offered_of_sound hsound ▸ hid, hrule⟩]
    exact nofun
  rw [drive_eq]
  split
  · next hlt =>
    have hstep := respond_step scan state
    generalize scan.respond state = response at hstep
    cases hstep with
    | unmatched hnone => exact leave_stack scan _ _
    | close pattern groups hclosing hfinds =>
      exact absurd hfinds (not_finds_closing hline hends hlt hclosing)
    | simple id rule pattern captures groups hid hrule hkind hfinds =>
      have hpattern : rule.pattern? = some pattern := by rw [Rule.pattern?, hkind]
      exact absurd hpattern (silent hid hrule)
    | refuse id rule region groups hid hrule hkind hfinds hrefuses =>
      exact absurd (Rule.pattern?_of_region hkind) (silent hid hrule)
    | enter id rule region groups hid hrule hkind hfinds hrefuses =>
      exact absurd (Rule.pattern?_of_region hkind) (silent hid hrule)
  · rfl

/-- A scan along a line leaves the stack as deep as loose places account for. -/
theorem drive_bounded (hscan : scan.KeepsSound) (honly : scan.repository.OnlyBegins opening lines)
    (hline : scan.line ∈ lines) {floor fresh : Nat} (state : Drive)
    (h : scan.Piled opening floor fresh state)
    (hends : state.scene.stack.EndsWith (EndlessOn lines))
    (hsound : state.scene.Sound scan.repository) :
    (scan.drive state).stack.EndsWith (EndlessOn lines) ∧
      scan.repository.Bounded (floor + opening.looseBefore scan.line (scan.line.size + 1))
        (scan.drive state).stack := by
  have hpassed {cursor : Nat} (hle : cursor ≤ scan.line.size) :
      opening.looseBefore scan.line (cursor + 1) ≤
        opening.looseBefore scan.line (scan.line.size + 1) :=
    opening.looseBefore_mono scan.line (Nat.succ_le_succ hle)
  refine drive_induct_of_sound hscan
    (fun state => state.scene.stack.EndsWith (EndlessOn lines) ∧
      ∃ fresh, scan.Piled opening floor fresh state)
    (fun scene => scene.stack.EndsWith (EndlessOn lines) ∧ scan.repository.Bounded
      (floor + opening.looseBefore scan.line (scan.line.size + 1)) scene.stack)
    ?_ ?_ ?_ state ⟨hends, fresh, h⟩ hsound
  · rintro state ⟨hends, fresh, h⟩ hend
    have hdepth := h.depth_le_of_end hend
    have hloose := hpassed h.cursor_le
    exact ⟨hends, Or.inl (by omega)⟩
  · rintro state scene ⟨hends, fresh, h⟩ hsound hlt hstep
    obtain ⟨hnone, hsame⟩ := hstep.unmatched_stack
    rw [hsame]
    refine ⟨hends, ?_⟩
    have hloose := hpassed (Nat.le_of_lt hlt)
    rcases silent_or_missed honly hsound hnone state.cursor with hsilent | hmissed
    · -- nothing is on offer in the innermost region: the regions begun here stay, but they are the last
      have hdepth := h.depth_le
      have hfresh := h.fresh_le
      have hmono := opening.looseBefore_mono scan.line (Nat.le_add_right state.cursor 1)
      exact Or.inr ⟨hsilent, by omega⟩
    · have hdepth := h.depth_le_of_missed hmissed
      exact Or.inl (by omega)
  · rintro state scene stop forced unwind ⟨hends, fresh, h⟩ hsound hlt hstep
    exact ⟨settle_endsWith scan (hstep.endsWith hscan (honly.endless _ hline) hsound hends) state stop
      forced unwind, h.step honly hline hends hlt hstep⟩

end LineScan

/-! ## Texts -/

namespace Repository

variable {repository : Repository} {opening : Pattern} {lines : List Line}

theorem Bounded.mono {bound bound' : Nat} {stack : ScopeStack} (h : repository.Bounded bound stack)
    (hle : bound ≤ bound') : repository.Bounded bound' stack :=
  h.imp (fun hdepth => hdepth.trans hle)
    fun ⟨hsilent, hdepth⟩ => ⟨hsilent, hdepth.trans (Nat.add_le_add_right hle _)⟩

/-- One more line adds its loose places. -/
theorem scanNextLine_bounded (stallLimit : Nat) (honly : repository.OnlyBegins opening lines)
    {chars : List Char} (hline : Line.ofChars (terminated chars) ∈ lines) {progress : ScanProgress}
    (hsound : progress.emission.session.Sound repository)
    (hends : progress.stack.EndsWith (EndlessOn lines)) {bound : Nat}
    (h : repository.Bounded bound progress.stack) :
    let line := Line.ofChars (terminated chars)
    let next := repository.scanNextLine stallLimit progress chars
    next.stack.EndsWith (EndlessOn lines) ∧
      repository.Bounded (bound + opening.looseBefore line (line.size + 1)) next.stack := by
  have hkeeps := repository.lineScan_keepsSound stallLimit progress chars
  have hmatched : (repository.lineScan stallLimit progress chars).line ∈ lines := hline
  dsimp only
  rw [scanNextLine_eq]
  dsimp only
  rcases h with hdepth | ⟨hsilent, hdepth⟩
  · obtain ⟨hends', hbounded⟩ := LineScan.drive_bounded hkeeps honly hmatched
      (progress.lineStart chars) (.begin _ opening _ _ _) hends.clearAnchors hsound
    rw [ScopeStack.clearAnchors_depth] at hbounded
    exact ⟨hends', hbounded.mono (Nat.add_le_add_right hdepth _)⟩
  · have hsilent' : repository.Silent progress.stack.clearAnchors := by
      intro rule hoffers
      rw [Offers, ScopeStack.clearAnchors_top_rule] at hoffers
      exact hsilent rule hoffers
    have hsame := LineScan.drive_silent hmatched (progress.lineStart chars) hends.clearAnchors hsilent'
      hsound
    rw [hsame]
    refine ⟨hends.clearAnchors, Or.inr ⟨hsilent', ?_⟩⟩
    show progress.stack.clearAnchors.depth ≤ _
    rw [ScopeStack.clearAnchors_depth]
    omega

/-- The lines that are left add their loose places. By induction on them. -/
theorem foldl_bounded (stallLimit : Nat) (honly : repository.OnlyBegins opening lines)
    {rest : List (List Char)} (hlines : ∀ line ∈ Text.matchedLines rest, line ∈ lines)
    {progress : ScanProgress} (hsound : progress.emission.session.Sound repository)
    (hends : progress.stack.EndsWith (EndlessOn lines)) {bound : Nat}
    (h : repository.Bounded bound progress.stack) :
    repository.Bounded (bound + opening.looseOn (Text.matchedLines rest))
      (rest.foldl (repository.scanNextLine stallLimit) progress).stack := by
  induction rest generalizing progress bound with
  | nil => exact h
  | cons chars rest ih =>
    obtain ⟨hfirst, hrest⟩ := List.forall_mem_cons.mp hlines
    obtain ⟨hends', h'⟩ := scanNextLine_bounded stallLimit honly hfirst hsound hends h
    have hsound' := repository.scanNextLine_sound stallLimit hsound chars
    have hbounded := ih hrest hsound' hends' h'
    rw [Nat.add_assoc] at hbounded
    exact hbounded

/-- **How deep empty begins nest.** If nothing in a text matches but the begin that all regions share, and
that with empty text, then a scan from a fresh stack ends with a stack that is, besides the bottom, no
deeper than there are region rules and loose places in the text. -/
theorem endState_depth_le (settings : ScannerSettings) {session : Session}
    (hsession : session.Sound repository) (text : String)
    (honly : repository.OnlyBegins opening (Text.matchedLines (Text.lines text.toList))) :
    (repository.scan settings session text none).1.endState.depth ≤
      1 + repository.regionCount +
        opening.looseOn (Text.matchedLines (Text.lines text.toList)) := by
  have hfresh : repository.Bounded 1 (ScopeStack.fresh repository) := Or.inl (Nat.le_refl 1)
  have hbounded : repository.Bounded (1 + opening.looseOn _)
      (repository.reached settings session text (.fresh repository)).stack :=
    foldl_bounded settings.stallLimit honly (fun _ hmem => hmem) hsession (.plain rfl) hfresh
  rw [scan_eq]
  dsimp only [Option.getD_none]
  rcases hbounded with hdepth | ⟨_, hdepth⟩
  · omega
  · omega

/-! ## Two regions that begin in loose places -/

/-- Whether nothing matches in some lines but one begin, for ends that are always the same. -/
def beginsOnly (repository : Repository) (opening : Pattern) (lines : List Line) : Bool :=
  lines.all opening.emptyOn && repository.rules.toList.all fun rule =>
    match rule.kind with
    | .simple _ _ => false
    | .region region => region.opening = opening &&
      match region.closing with
      | .fixed pattern => lines.all pattern.missesOn
      | .template _ => false
    | .group _ | .link _ => true

theorem onlyBegins_of_beginsOnly (h : repository.beginsOnly opening lines = true) :
    repository.OnlyBegins opening lines := by
  simp only [beginsOnly, Bool.and_eq_true, List.all_eq_true] at h
  obtain ⟨hempty, hrules⟩ := h
  have holds {id : RuleId} {rule : Rule} (hrule : repository.rule? id = some rule) :=
    hrules rule (mem_rules hrule)
  refine ⟨?_, hempty, ?_⟩
  · intro id rule pattern hrule hpattern
    have hkept := holds hrule
    rw [Rule.pattern?] at hpattern
    cases hkind : rule.kind with
    | simple found captures => rw [hkind] at hkept; cases hkept
    | region region =>
      rw [hkind] at hkept
      exact ⟨region, rfl, of_decide_eq_true (Bool.and_eq_true_iff.mp hkept).1⟩
    | group patterns => rw [hkind] at hpattern; cases hpattern
    | link target => rw [hkind] at hpattern; cases hpattern
  · intro line _ id rule region hrule hkind groups pattern hmade
    have hkept := holds hrule
    rw [hkind] at hkept
    have hends := (Bool.and_eq_true_iff.mp hkept).2
    cases hclosing : region.closing with
    | template ending => rw [hclosing] at hends; cases hends
    | fixed fixed =>
      rw [hclosing] at hends hmade
      obtain rfl := Option.some.inj hmade
      exact List.all_eq_true.mp hends

/-- Two regions that hold each other. Both begin, with empty text, before an `x`. -/
def lookaheadGrammar : Grammar where
  scopeName := "source.t"
  patterns := [{ reference := some "#a" }]
  repository := [
    ("a", {
      opening := some "(?=x)"
      closing := some "y"
      name := some "a"
      patterns := [{ reference := some "#b" }] }),
    ("b", {
      opening := some "(?=x)"
      closing := some "y"
      name := some "b"
      patterns := [{ reference := some "#a" }] })]

theorem lookaheadGrammar_depth :
    (match compile lookaheadGrammar 1000, Pattern.compile "(?=x)" 1000 with
      | .ok repository, .ok opening =>
        let lines := Text.lines "oxoxox".toList
        repository.beginsOnly opening (Text.matchedLines lines) && repository.regionCount = 2 &&
          (lines.foldl (repository.scanNextLineWithin 32 16)
            (.begin {} {} (.fresh repository))).stack.depth = 4
      | _, _ => false) = true := by
  decide +kernel

/-- Each `x` behind an `o` is a loose place, and leaves one region behind: there are two region rules,
but three regions are open at the end. -/
theorem endState_depth_le_lookahead :
    ∃ repository opening, compile lookaheadGrammar 1000 = .ok repository ∧
      Session.Sound repository {} ∧
      repository.OnlyBegins opening (Text.matchedLines (Text.lines "oxoxox".toList)) ∧
      let depth := (repository.scan {} {} "oxoxox" none).1.endState.depth
      depth = 4 ∧ ¬ depth ≤ 1 + repository.regionCount ∧
        depth ≤ 1 + repository.regionCount +
          opening.looseOn (Text.matchedLines (Text.lines "oxoxox".toList)) := by
  have hdepth := lookaheadGrammar_depth
  split at hdepth
  · next repository opening hcompile _ =>
    simp only [scanNextLineWithin_eq, Bool.and_eq_true, decide_eq_true_eq] at hdepth
    obtain ⟨⟨honly, hcount⟩, hdepth⟩ := hdepth
    have honly := onlyBegins_of_beginsOnly honly
    have hend : (repository.scan {} {} "oxoxox" none).1.endState.depth = 4 := by
      rw [scan_eq]
      dsimp only [reached, Option.getD_none]
      exact hdepth
    refine ⟨repository, opening, hcompile, .new repository, honly, hend, ?_, ?_⟩
    · rw [hend, hcount]
      decide
    · exact endState_depth_le {} (.new repository) "oxoxox" honly
  · cases hdepth

end Repository

end ScopeScanner
