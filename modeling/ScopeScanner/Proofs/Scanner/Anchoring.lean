import ScopeScanner.Proofs.Scanner.Leaving
import ScopeScanner.Proofs.Scanner.Rooting

/-!
# Where the anchor holds

The anchor of a region is the place where its begin has ended. A scan keeps it in a variable: each frame
saves the value that the variable has had before, and gives it back when the region leaves. At the start
of a line all saved values are forgotten, and the variable is made anew from the innermost frame.

What the variable stands for is said beside the scan. For each open region it is put down where its begin
has ended, whether that was the end of the line, and how many lines have been entered since (`Birth`).

* **`Anchored`**: the variable and the saved values as the births account for them, an inductive
  predicate with one case for what a line starts with, one for what is left of it, and one for a region
  that has begun on the line. `Anchored.step` shows that a step keeps it.
* **`LineScan.visits_anchored`**: hence it holds in all states of a scan along a line.
* **`Repository.anchor_iff`**: so on every line, and however often scans have been resumed, the anchor
  holds where the begin of the innermost region has ended on this line, or at the very end of the line
  before. It holds in one more place: at the start of each later line, as long as the region is the
  innermost one.
-/

namespace ScopeScanner

/-- Where the begin of a region has ended. -/
structure Birth where
  /-- How many lines have been entered since. -/
  age : Nat := 0
  /-- The position on the line of the begin. -/
  stop : Nat
  /-- Whether this is the end of the line. -/
  atEnd : Bool
deriving DecidableEq, Repr

namespace Birth

/-- A birth when one more line has been entered. -/
def older (birth : Birth) : Birth :=
  { birth with age := birth.age + 1 }

/-- The anchor of a region as it is meant: where its begin has ended on this line, or the start of the
line if that was the end of the line before. -/
def Anchors (birth : Birth) (position : Nat) : Prop :=
  birth.age = 0 ∧ position = birth.stop ∨ birth.age = 1 ∧ birth.atEnd = true ∧ position = 0

/-- A birth at the end of the line that is being scanned. -/
def EndsLine (birth : Birth) : Prop :=
  birth.age = 0 ∧ birth.atEnd = true

/-- The start of a line that is not the one behind the begin, if that went up to the end of its line. -/
def Lingers (birth : Birth) (position : Nat) : Prop :=
  2 ≤ birth.age ∧ birth.atEnd = true ∧ position = 0

theorem Lingers.not_anchors {birth : Birth} {position : Nat} (h : birth.Lingers position) :
    ¬ birth.Anchors position := by
  rintro (⟨hage, _⟩ | ⟨hage, _⟩)
  · exact absurd (hage ▸ h.1) (by decide)
  · exact absurd (hage ▸ h.1) (by decide)

end Birth

namespace LineScan

variable {scan : LineScan}

/-! ## Following the births -/

/-- The births after a step that leads to `scene` by a match up to `stop`, and on to `next`. A region that
is new has been born where the match ends; then as many births are forgotten as regions have left. -/
def birthsAfter (scan : LineScan) (state : Drive) (scene : Scene) (stop : Nat) (next : Drive)
    (births : List Birth) : List Birth :=
  let births :=
    if state.scene.stack.depth < scene.stack.depth then
      { stop, atEnd := stop = scan.line.size } :: births
    else births
  births.drop (births.length - next.scene.stack.regions.length)

-- `h` is used by `decreasing_by` only.
set_option linter.unusedVariables false in
/-- The states that a scan along a line gets to, each with the births of the open regions, the innermost
first. -/
def visits (scan : LineScan) (state : Drive) (births : List Birth) : List (Drive × List Birth) :=
  if h : state.cursor < scan.line.size then
    match scan.respond state with
    | .unmatched _ => [(state, births)]
    | .matched scene stop forced unwind =>
      let next := scan.settle state scene stop forced unwind
      (state, births) :: scan.visits next (scan.birthsAfter state scene stop next births)
  else [(state, births)]
termination_by (scan.line.size - state.cursor, scan.stallLimit + 1 - state.stall)
decreasing_by
  rcases scan.settle_progress state scene stop forced unwind h with hlt | ⟨hcursor, hstall, hle⟩
  · exact Prod.Lex.left _ _ (by omega)
  · rw [hcursor, hstall]
    exact Prod.Lex.right _ (by omega)

/-- The births of the regions that are open at the end of a line. -/
def lastBirths (scan : LineScan) (state : Drive) (births : List Birth) : List Birth :=
  ((scan.visits state births).getLast?.map Prod.snd).getD births

/-- The visits with the first steps spelt out, so that they can be evaluated. -/
def visitsWithin (scan : LineScan) : (steps : Nat) → Drive → List Birth → List (Drive × List Birth)
  | 0, state, births => scan.visits state births
  | steps + 1, state, births =>
    if state.cursor < scan.line.size then
      match scan.respond state with
      | .unmatched _ => [(state, births)]
      | .matched scene stop forced unwind =>
        let next := scan.settle state scene stop forced unwind
        (state, births) ::
          scan.visitsWithin steps next (scan.birthsAfter state scene stop next births)
    else [(state, births)]

theorem visits_eq (scan : LineScan) (state : Drive) (births : List Birth) :
    scan.visits state births =
      if state.cursor < scan.line.size then
        match scan.respond state with
        | .unmatched _ => [(state, births)]
        | .matched scene stop forced unwind =>
          let next := scan.settle state scene stop forced unwind
          (state, births) :: scan.visits next (scan.birthsAfter state scene stop next births)
      else [(state, births)] := by
  rw [visits]
  split <;> rfl

theorem visitsWithin_eq (scan : LineScan) (steps : Nat) (state : Drive) (births : List Birth) :
    scan.visitsWithin steps state births = scan.visits state births := by
  induction steps generalizing state births with
  | zero => rfl
  | succ steps ih =>
    rw [visitsWithin, visits_eq]
    simp only [ih]

/-- What holds of the first visit and is kept by each step holds of all visits. -/
theorem visits_induct (Holds : Drive → List Birth → Prop)
    (hstep : ∀ state births scene stop forced unwind, Holds state births →
      state.cursor < scan.line.size → scan.respond state = .matched scene stop forced unwind →
        let next := scan.settle state scene stop forced unwind
        Holds next (scan.birthsAfter state scene stop next births))
    {state : Drive} {births : List Birth} (h : Holds state births) :
    ∀ visit ∈ scan.visits state births, Holds visit.1 visit.2 := by
  fun_induction visits scan state births with
  | case1 state births hinside scene hresponse => simpa using h
  | case2 state births hinside scene stop forced unwind hresponse next ih =>
    exact List.forall_mem_cons.mpr ⟨h, ih (hstep _ _ _ _ _ _ h hinside hresponse)⟩
  | case3 state births hend => simpa using h

theorem self_mem_visits (scan : LineScan) (state : Drive) (births : List Birth) :
    (state, births) ∈ scan.visits state births := by
  rw [visits_eq]
  split
  · split
    · exact List.mem_cons_self
    · exact List.mem_cons_self
  · exact List.mem_cons_self

/-- The visits are the states that the scan gets to. -/
theorem mem_visits_iff (state last : Drive) (births : List Birth) :
    (∃ visit ∈ scan.visits state births, visit.1 = last) ↔ scan.Reaches state last := by
  constructor
  · rintro ⟨visit, hmem, rfl⟩
    refine visits_induct (fun last _ => scan.Reaches state last) ?_ (.refl state) visit hmem
    intro between births scene stop forced unwind hreach hinside hresponse
    exact hreach.trans (.step hinside hresponse (.refl _))
  · intro hreach
    induction hreach generalizing births with
    | refl state => exact ⟨_, scan.self_mem_visits state births, rfl⟩
    | step hinside hresponse _ ih =>
      obtain ⟨visit, hmem, hlast⟩ := ih _
      rw [visits_eq, if_pos hinside, hresponse]
      exact ⟨visit, List.mem_cons_of_mem _ hmem, hlast⟩

/-- A scan of a line ends with the stack of its last visit. -/
theorem exists_last_visit (state : Drive) (births : List Birth) :
    ∃ visit, (scan.visits state births).getLast? = some visit ∧
      visit.1.scene.stack = (scan.drive state).stack := by
  fun_induction visits scan state births with
  | case1 state births hinside scene hresponse =>
    have hstack := (Step.unmatched_stack (hresponse ▸ respond_step scan state)).2
    rw [drive_eq, if_pos hinside, hresponse]
    exact ⟨_, rfl, hstack.symm⟩
  | case2 state births hinside scene stop forced unwind hresponse next ih =>
    obtain ⟨visit, hlast, hstack⟩ := ih
    rw [drive_eq, if_pos hinside, hresponse]
    exact ⟨visit, by rw [List.getLast?_cons, hlast]; rfl, hstack⟩
  | case3 state births hend =>
    rw [drive_eq, if_neg hend]
    exact ⟨_, rfl, rfl⟩

end LineScan

/-! ## What the variable and the saved values stand for -/

/-- The value of the variable where these regions are open, and the values that their frames have saved,
as their births account for them. The scan of the line has started with the regions `carried`, of which
no frame has saved anything, and with the value `first`. That value lasts as long as no region of them
has left; once some have, there is none. A region that has begun on the line has saved the value of the
regions below. -/
inductive Anchored (scan : LineScan) (carried : List Frame) (old : List Birth) (first : Option Nat) :
    List Frame → List Birth → Option Nat → Prop where
  | carried : Anchored scan carried old first carried old first
  | left (count : Nat) (hsome : 0 < count) (hle : count ≤ carried.length) :
      Anchored scan carried old first (carried.drop count) (old.drop count) none
  | begun {regions : List Frame} {births : List Birth} {anchor : Option Nat} {frame : Frame} {stop : Nat}
      (hbelow : Anchored scan carried old first regions births anchor)
      (hsaved : frame.parentAnchor = anchor)
      (hend : frame.beganAtLineEnd = decide (stop = scan.line.size)) :
      Anchored scan carried old first (frame :: regions)
        ({ stop, atEnd := stop = scan.line.size } :: births) (some stop)

/-- What the scan of a line starts with. -/
structure Carries (carried : List Frame) (old : List Birth) : Prop where
  cleared : ∀ frame ∈ carried, frame.parentAnchor = none
  ends : carried.map Frame.beganAtLineEnd = old.map Birth.atEnd
  aged : ∀ birth ∈ old, birth.age ≠ 0

theorem Carries.length_eq {carried : List Frame} {old : List Birth} (h : Carries carried old) :
    old.length = carried.length := by
  have hlength := congrArg List.length h.ends
  rw [List.length_map, List.length_map] at hlength
  exact hlength.symm

namespace Anchored

variable {scan : LineScan} {carried regions : List Frame} {old births : List Birth}
  {first anchor : Option Nat}

/-- The frames remember which begins went up to the end of their line. -/
theorem ends (hcarries : Carries carried old)
    (h : Anchored scan carried old first regions births anchor) :
    regions.map Frame.beganAtLineEnd = births.map Birth.atEnd := by
  induction h with
  | carried => exact hcarries.ends
  | left count hsome hle => rw [List.map_drop, List.map_drop, hcarries.ends]
  | begun hbelow hsaved hend ih => rw [List.map_cons, List.map_cons, ih, hend]

theorem length_eq (hcarries : Carries carried old)
    (h : Anchored scan carried old first regions births anchor) : births.length = regions.length := by
  have hlength := congrArg List.length (h.ends hcarries)
  rw [List.length_map, List.length_map] at hlength
  exact hlength.symm

/-- When the innermost region leaves, the value that it has saved is the one for what is left. -/
theorem pop (hcarries : Carries carried old) {frame : Frame}
    (h : Anchored scan carried old first (frame :: regions) births anchor) :
    Anchored scan carried old first regions births.tail frame.parentAnchor := by
  -- what has been carried along has saved nothing
  have hleaves {count : Nat} (hregions : carried.drop count = frame :: regions) :
      Anchored scan carried old first regions (old.drop count).tail frame.parentAnchor := by
    have hmem : frame ∈ carried.drop count := hregions ▸ List.mem_cons_self
    have hrest : regions = carried.drop (count + 1) := by
      rw [← List.tail_drop, hregions, List.tail_cons]
    have hlength : count < carried.length := by
      have := congrArg List.length hregions
      rw [List.length_drop, List.length_cons] at this
      omega
    rw [hcarries.cleared frame (List.mem_of_mem_drop hmem), List.tail_drop, hrest]
    exact .left (count + 1) (Nat.succ_pos _) hlength
  generalize hstack : frame :: regions = stack at h
  cases h with
  | carried =>
    have hregions : carried.drop 0 = frame :: regions := hstack.symm
    exact hleaves hregions
  | left count hsome hle => exact hleaves hstack.symm
  | begun hbelow hsaved hend =>
    obtain ⟨rfl, rfl⟩ := List.cons.inj hstack
    rw [hsaved]
    exact hbelow

/-- So it is when several regions are dropped. -/
theorem dropRegions (hcarries : Carries carried old) (count : Nat) {scene : Scene}
    (h : Anchored scan carried old first scene.stack.regions births scene.anchor) :
    Anchored scan carried old first (scene.dropRegions count).stack.regions (births.drop count)
      (scene.dropRegions count).anchor := by
  induction count generalizing scene births with
  | zero => exact h
  | succ count ih =>
    obtain ⟨⟨bottom, regions⟩, anchor, emptyPush, settled, emission⟩ := scene
    cases regions with
    | nil =>
      obtain rfl := List.eq_nil_of_length_eq_zero (h.length_eq hcarries)
      exact h
    | cons frame rest =>
      rw [← List.drop_tail]
      exact ih (h.pop hcarries)

/-- **The value of the variable in plain terms.** The line has started with the value that its
innermost region asks for, and no other of its regions has begun at the end of the line before. Then the
anchor is that of the innermost region, or it lingers. -/
theorem anchor_iff (hcarries : Carries carried old)
    (hfirst : first = if old.head?.any Birth.atEnd then some 0 else none)
    (hbelow : ∀ birth ∈ old.tail, birth.age = 1 → birth.atEnd = false)
    (h : Anchored scan carried old first regions births anchor) (position : Nat) :
    anchor = some position ↔ ∃ birth, births.head? = some birth ∧
      (birth.Anchors position ∨ birth.Lingers position ∧ regions.length = carried.length) := by
  cases h with
  | carried =>
    cases old with
    | nil => simp [hfirst]
    | cons birth old =>
      obtain ⟨age, stop, atEnd⟩ := birth
      have haged : age ≠ 0 := hcarries.aged _ List.mem_cons_self
      simp only [hfirst, List.head?_cons, Option.any_some, Option.some.injEq, exists_eq_left',
        Birth.Anchors, Birth.Lingers]
      cases atEnd with
      | false => simp [haged]
      | true =>
        simp only [if_true, Option.some.injEq, true_and, and_true]
        omega
  | left count hsome hle =>
    refine ⟨nofun, ?_⟩
    rintro ⟨birth, hhead, hanchors | ⟨_, hlength⟩⟩
    · -- a region that lies further down has not begun at the end of the line before
      have hmem : birth ∈ old.drop count := List.mem_of_head? hhead
      have hdeeper : birth ∈ old.tail := by
        obtain ⟨count, rfl⟩ := Nat.exists_eq_succ_of_ne_zero (Nat.pos_iff_ne_zero.mp hsome)
        rw [← List.drop_tail] at hmem
        exact List.mem_of_mem_drop hmem
      rcases hanchors with ⟨hnew, _⟩ | ⟨hage, hend, _⟩
      · exact absurd hnew (hcarries.aged birth (List.mem_of_mem_tail hdeeper))
      · rw [hbelow birth hdeeper hage] at hend
        cases hend
    · rw [List.length_drop] at hlength
      omega
  | begun hrest hsaved hend =>
    constructor
    · intro hposition
      exact ⟨_, rfl, Or.inl (Or.inl ⟨rfl, (Option.some.inj hposition).symm⟩)⟩
    · rintro ⟨birth, hhead, hanchors⟩
      obtain rfl := Option.some.inj hhead
      rcases hanchors with (⟨_, rfl⟩ | ⟨hage, _⟩) | ⟨⟨hage, _⟩, _⟩
      · rfl
      · exact absurd hage Nat.zero_ne_one
      · exact absurd hage (Nat.not_succ_le_zero 1)

end Anchored

namespace LineScan

variable {scan : LineScan} {carried : List Frame} {old births : List Birth} {first : Option Nat}

/-! ## What a step does to the variable -/

/-- What follows a match drops regions at most, and the variable with them. -/
theorem settle_dropRegions (scan : LineScan) (state : Drive) (scene : Scene) (stop : Nat)
    (forced unwind : Bool) :
    ∃ count, (scan.settle state scene stop forced unwind).scene.stack =
        (scene.dropRegions count).stack ∧
      (scan.settle state scene stop forced unwind).scene.anchor =
        (scene.dropRegions count).anchor := by
  rw [settle]
  split
  · split
    · cases unwind with
      | false => exact ⟨0, rfl, rfl⟩
      | true =>
        -- the stack has just been settled, so nothing lies above
        refine ⟨0, ?_, ?_⟩
        · show (Scene.unwind { scene with settled := scene.stack.depth }).stack = _
          rw [Scene.unwind, Nat.sub_self]
          rfl
        · show (Scene.unwind { scene with settled := scene.stack.depth }).anchor = _
          rw [Scene.unwind, Nat.sub_self]
          rfl
    · exact ⟨0, rfl, rfl⟩
  · dsimp only
    split
    · cases unwind || decide (scan.stallLimit < state.stall + 1) with
      | false => exact ⟨0, rfl, rfl⟩
      | true => exact ⟨scene.stack.depth - scene.settled, rfl, rfl⟩
    · exact ⟨0, rfl, rfl⟩

/-- What a match does to the regions and the variable: it drops a region or none, or begins one. -/
inductive Saves (scan : LineScan) (state : Drive) (scene : Scene) (stop : Nat) (forced : Bool) :
    Prop where
  | drops (count : Nat) (hstack : scene.stack = (state.scene.dropRegions count).stack)
      (hanchor : scene.anchor = (state.scene.dropRegions count).anchor)
  | begins (frame : Frame) (hregions : scene.stack.regions = frame :: state.scene.stack.regions)
      (hsaved : frame.parentAnchor = state.scene.anchor)
      (hend : frame.beganAtLineEnd = decide (stop = scan.line.size))
      (hanchor : scene.anchor = some stop) (hforced : forced = false)

theorem respond_saves {state : Drive} {scene : Scene} {stop : Nat} {forced unwind : Bool}
    (hresponse : scan.respond state = .matched scene stop forced unwind) :
    scan.Saves state scene stop forced := by
  have hstep := hresponse ▸ respond_step scan state
  cases hstep with
  | close pattern groups hclosing hfinds =>
    obtain ⟨_, _, ⟨⟨bottom, regions⟩, _, _, _, _⟩⟩ := state
    cases regions with
    | nil => exact .drops 0 rfl rfl
    | cons frame rest => exact .drops 1 rfl rfl
  | simple id rule pattern captures groups hid hrule hkind hfinds => exact .drops 0 rfl rfl
  | refuse id rule region groups hid hrule hkind hfinds hrefuses => exact .drops 0 rfl rfl
  | enter id rule region groups hid hrule hkind hfinds hrefuses =>
    exact .begins _ rfl rfl rfl rfl rfl

/-- Where regions are dropped, the births are the last ones of those before. -/
theorem birthsAfter_of_drops {state : Drive} {scene : Scene} {count : Nat}
    (h : scene.stack = (state.scene.dropRegions count).stack) (stop : Nat) (next : Drive) :
    scan.birthsAfter state scene stop next births =
      births.drop (births.length - next.scene.stack.regions.length) := by
  have hdepth : ¬ state.scene.stack.depth < scene.stack.depth := by
    rw [h, ScopeStack.depth, ScopeStack.depth, Scene.dropRegions_regions, List.length_drop]
    omega
  rw [birthsAfter, if_neg hdepth]

/-- Where a region begins, its birth is put in front. -/
theorem birthsAfter_of_begins {state : Drive} {scene : Scene} {frame : Frame}
    (h : scene.stack.regions = frame :: state.scene.stack.regions) (stop : Nat) (next : Drive) :
    scan.birthsAfter state scene stop next births =
      ({ stop, atEnd := stop = scan.line.size } :: births).drop
        (births.length + 1 - next.scene.stack.regions.length) := by
  have hdepth : state.scene.stack.depth < scene.stack.depth := by
    rw [ScopeStack.depth, ScopeStack.depth, h, List.length_cons]
    exact Nat.lt_succ_self _
  rw [birthsAfter, if_pos hdepth]
  rfl

/-- **A step keeps the variable and the saved values accounted for.** -/
theorem step_anchored (hcarries : Carries carried old) {state : Drive} {scene : Scene} {stop : Nat}
    {forced unwind : Bool}
    (h : Anchored scan carried old first state.scene.stack.regions births state.scene.anchor)
    (hresponse : scan.respond state = .matched scene stop forced unwind) :
    let next := scan.settle state scene stop forced unwind
    Anchored scan carried old first next.scene.stack.regions
      (scan.birthsAfter state scene stop next births) next.scene.anchor := by
  dsimp only
  obtain ⟨count, hstack, hanchor⟩ := scan.settle_dropRegions state scene stop forced unwind
  -- the births that are left are the last ones, as many as there are regions
  have hcut {all : List Birth} (left : List Birth) (hleft : left <:+ all)
      (hscene : Anchored scan carried old first scene.stack.regions left scene.anchor) :
      Anchored scan carried old first
        (scan.settle state scene stop forced unwind).scene.stack.regions
        (all.drop (all.length -
          (scan.settle state scene stop forced unwind).scene.stack.regions.length))
        (scan.settle state scene stop forced unwind).scene.anchor := by
    have hdropped := hscene.dropRegions hcarries count
    rw [← hstack, ← hanchor] at hdropped
    have hsuffix : left.drop count <:+ all := (List.drop_suffix count left).trans hleft
    rw [← hdropped.length_eq hcarries, ← List.suffix_iff_eq_drop.mp hsuffix]
    exact hdropped
  cases respond_saves hresponse with
  | drops count hleft hsaved =>
    rw [birthsAfter_of_drops hleft]
    refine hcut (births.drop count) (List.drop_suffix count births) ?_
    rw [hleft, hsaved]
    exact h.dropRegions hcarries count
  | begins frame hregions hsaved hend hnew hforced =>
    rw [birthsAfter_of_begins hregions]
    refine hcut ({ stop, atEnd := stop = scan.line.size } :: births) List.suffix_rfl ?_
    rw [hregions, hnew]
    exact .begun h hsaved hend

/-- **In all states of a scan along a line the variable is accounted for.** -/
theorem visits_anchored (hcarries : Carries carried old) {state : Drive}
    (h : Anchored scan carried old first state.scene.stack.regions births state.scene.anchor) :
    ∀ visit ∈ scan.visits state births,
      Anchored scan carried old first visit.1.scene.stack.regions visit.2 visit.1.scene.anchor :=
  visits_induct (fun state births =>
      Anchored scan carried old first state.scene.stack.regions births state.scene.anchor)
    (fun _ _ _ _ _ _ h _ hresponse => step_anchored hcarries h hresponse) h

/-! ## Begins at the end of a line -/

/-- No region but the innermost can have begun at the end of the line, and as long as the scan is inside
the line there is none at all. -/
structure LastBegun (scan : LineScan) (state : Drive) (births : List Birth) : Prop where
  below : ∀ birth ∈ births.tail, ¬ birth.EndsLine
  inside : state.cursor < scan.line.size → ∀ birth ∈ births, ¬ birth.EndsLine

/-- A begin that goes up to the end of the line is the last match on it. -/
theorem LastBegun.step {state : Drive} {scene : Scene} {stop : Nat} {forced unwind : Bool}
    (h : scan.LastBegun state births) (hinside : state.cursor < scan.line.size)
    (hresponse : scan.respond state = .matched scene stop forced unwind) :
    let next := scan.settle state scene stop forced unwind
    scan.LastBegun next (scan.birthsAfter state scene stop next births) := by
  dsimp only
  have hnone := h.inside hinside
  have hdropped {count : Nat} {birth : Birth} (hmem : birth ∈ births.drop count) : ¬ birth.EndsLine :=
    hnone birth (List.mem_of_mem_drop hmem)
  cases respond_saves hresponse with
  | drops count hleft hsaved =>
    rw [birthsAfter_of_drops hleft]
    exact ⟨fun birth hmem => hdropped (List.mem_of_mem_tail hmem), fun _ _ => hdropped⟩
  | begins frame hregions hsaved hend hnew hforced =>
    subst hforced
    rw [birthsAfter_of_begins hregions]
    cases hcount : births.length + 1 -
        (scan.settle state scene stop false unwind).scene.stack.regions.length with
    | succ count => exact ⟨fun birth hmem => hdropped (List.mem_of_mem_tail hmem), fun _ _ => hdropped⟩
    | zero =>
      refine ⟨hnone, fun hfurther => List.forall_mem_cons.mpr ⟨?_, hnone⟩⟩
      -- the scan goes to the end of the match, and that lies inside the line
      rintro ⟨_, hatEnd⟩
      have hstop : stop = scan.line.size := of_decide_eq_true hatEnd
      rw [settle, hstop, if_pos hinside] at hfurther
      exact absurd hfurther (Nat.lt_irrefl _)

/-- In all states of a scan along a line no region but the innermost has begun at the end of the
line. -/
theorem visits_lastBegun {state : Drive} (h : scan.LastBegun state births) :
    ∀ visit ∈ scan.visits state births, scan.LastBegun visit.1 visit.2 :=
  visits_induct (scan.LastBegun · ·)
    (fun _ _ _ _ _ _ h hinside hresponse => h.step hinside hresponse) h

end LineScan

/-! ## Line after line -/

/-- A stack between two lines with the births of its regions. -/
structure Accounted (stack : ScopeStack) (births : List Birth) : Prop where
  bottom : stack.bottom.beganAtLineEnd = false
  ends : stack.regions.map Frame.beganAtLineEnd = births.map Birth.atEnd
  below : ∀ birth ∈ births.tail, ¬ birth.EndsLine

namespace Accounted

variable {stack : ScopeStack} {births : List Birth}

/-- What a line carries along from the lines before. -/
theorem carries (h : Accounted stack births) :
    Carries stack.clearAnchors.regions (births.map .older) where
  cleared := by
    intro frame hmem
    obtain ⟨other, _, rfl⟩ := List.mem_map.mp hmem
    rfl
  ends := by
    rw [ScopeStack.clearAnchors, List.map_map, List.map_map]
    exact h.ends
  aged := by
    intro birth hmem
    obtain ⟨other, _, rfl⟩ := List.mem_map.mp hmem
    exact Nat.succ_ne_zero _

/-- The value that a line starts with is what the innermost region asks for. -/
theorem first_eq (h : Accounted stack births) :
    (if stack.clearAnchors.top.beganAtLineEnd then some 0 else none) =
      if (births.map Birth.older).head?.any Birth.atEnd then some 0 else none := by
  obtain ⟨bottom, regions⟩ := stack
  have hends : regions.map Frame.beganAtLineEnd = births.map Birth.atEnd := h.ends
  cases regions with
  | nil =>
    obtain rfl := List.map_eq_nil_iff.mp hends.symm
    exact if_neg (ne_true_of_eq_false h.bottom)
  | cons frame rest =>
    obtain ⟨birth, below, rfl, hhead, _⟩ := List.map_eq_cons_iff.mp hends.symm
    show (if frame.beganAtLineEnd then some 0 else none) = if birth.atEnd then some 0 else none
    rw [hhead]

/-- No other region has begun at the end of the line before. -/
theorem older_below (h : Accounted stack births) :
    ∀ birth ∈ (births.map Birth.older).tail, birth.age = 1 → birth.atEnd = false := by
  intro birth hmem hage
  rw [← List.map_tail] at hmem
  obtain ⟨other, hother, rfl⟩ := List.mem_map.mp hmem
  exact Bool.eq_false_iff.mpr fun hend => h.below other hother ⟨Nat.succ.inj hage, hend⟩

/-- A line starts with the values accounted for. -/
theorem lineStart {progress : ScanProgress} (h : Accounted progress.stack births) (scan : LineScan)
    (chars : List Char) :
    let start := progress.lineStart chars
    Anchored scan start.scene.stack.regions (births.map .older) start.scene.anchor
        start.scene.stack.regions (births.map .older) start.scene.anchor ∧
      scan.LastBegun start (births.map .older) := by
  refine ⟨.carried, ?_⟩
  have hnone : ∀ birth ∈ births.map Birth.older, ¬ birth.EndsLine :=
    fun birth hmem hends => h.carries.aged birth hmem hends.1
  exact ⟨fun birth hmem => hnone birth (List.mem_of_mem_tail hmem), fun _ => hnone⟩

end Accounted

namespace Repository

variable (repository : Repository)

/-- Scans the next line of a buffer and follows the births of the open regions. -/
def trackNextLine (stallLimit : Nat) (tracked : ScanProgress × List Birth) (chars : List Char) :
    ScanProgress × List Birth :=
  (repository.scanNextLine stallLimit tracked.1 chars,
    (repository.lineScan stallLimit tracked.1 chars).lastBirths (tracked.1.lineStart chars)
      (tracked.2.map .older))

/-- A scan behind some lines, with the births of the open regions. -/
def tracked (settings : ScannerSettings) (session : Session) (state : Option ScopeStack)
    (births : List Birth) (lines : List (List Char)) : ScanProgress × List Birth :=
  lines.foldl (repository.trackNextLine settings.stallLimit)
    (.begin settings session (state.getD (.fresh repository)), births)

/-- What a scan may start with, and the births of the regions that are open then. Settings and sessions
may change from one scan to the next. -/
inductive Tracks : Option ScopeStack → List Birth → Prop where
  | fresh : Tracks none []
  | resume {state : Option ScopeStack} {births : List Birth} (h : Tracks state births)
      (settings : ScannerSettings) (session : Session) (text : String) :
      Tracks (some (repository.scan settings session text state).1.endState)
        (repository.tracked settings session state births (Text.lines text.toList)).2

variable {repository}

/-- Following the births does not change the scan. -/
theorem tracked_fst (settings : ScannerSettings) (session : Session) (state : Option ScopeStack)
    (births : List Birth) (lines : List (List Char)) :
    (repository.tracked settings session state births lines).1 =
      lines.foldl (repository.scanNextLine settings.stallLimit)
        (.begin settings session (state.getD (.fresh repository))) := by
  unfold tracked
  generalize ScanProgress.begin settings session (state.getD (.fresh repository)) = progress
  induction lines generalizing progress births with
  | nil => rfl
  | cons chars rest ih => exact ih _ _

/-- There are births for whatever a scan may start with. -/
theorem Continues.exists_tracks {state : Option ScopeStack} (h : repository.Continues state) :
    ∃ births, repository.Tracks state births := by
  induction h with
  | fresh => exact ⟨_, .fresh⟩
  | resume _ settings session text ih =>
    obtain ⟨births, htracks⟩ := ih
    exact ⟨_, htracks.resume settings session text⟩

/-- **One more line leaves the stack accounted for.** -/
theorem trackNextLine_accounted (stallLimit : Nat) {tracked : ScanProgress × List Birth}
    (h : Accounted tracked.1.stack tracked.2) (chars : List Char) :
    let next := repository.trackNextLine stallLimit tracked chars
    Accounted next.1.stack next.2 := by
  dsimp only [trackNextLine]
  obtain ⟨hanchored, hlast⟩ :=
    h.lineStart (repository.lineScan stallLimit tracked.1 chars) chars
  obtain ⟨visit, hvisit, hstack⟩ := (repository.lineScan stallLimit tracked.1 chars).exists_last_visit
    (tracked.1.lineStart chars) (tracked.2.map .older)
  have hmem := List.mem_of_getLast? hvisit
  have hbirths : (repository.lineScan stallLimit tracked.1 chars).lastBirths
      (tracked.1.lineStart chars) (tracked.2.map .older) = visit.2 := by
    rw [LineScan.lastBirths, hvisit]
    rfl
  rw [hbirths]
  refine ⟨?_, ?_, (LineScan.visits_lastBegun hlast visit hmem).below⟩
  · rw [(repository.scanNextLine_grows stallLimit tracked.1 chars).1]
    exact h.bottom
  · have hends := (LineScan.visits_anchored h.carries hanchored visit hmem).ends h.carries
    rw [hstack] at hends
    rw [scanNextLine_eq]
    exact hends

/-- Line after line the stack stays accounted for. -/
theorem tracked_accounted (settings : ScannerSettings) (session : Session) {state : Option ScopeStack}
    {births : List Birth} (h : Accounted (state.getD (.fresh repository)) births)
    (lines : List (List Char)) :
    Accounted (repository.tracked settings session state births lines).1.stack
      (repository.tracked settings session state births lines).2 := by
  have hfold (tracked : ScanProgress × List Birth) (htracked : Accounted tracked.1.stack tracked.2) :
      Accounted (lines.foldl (repository.trackNextLine settings.stallLimit) tracked).1.stack
        (lines.foldl (repository.trackNextLine settings.stallLimit) tracked).2 := by
    induction lines generalizing tracked with
    | nil => exact htracked
    | cons chars rest ih => exact ih _ (trackNextLine_accounted _ htracked chars)
  exact hfold _ h

/-- However often scans are resumed, the stack is accounted for. -/
theorem Tracks.accounted {state : Option ScopeStack} {births : List Birth}
    (h : repository.Tracks state births) : Accounted (state.getD (.fresh repository)) births := by
  induction h with
  | fresh => exact ⟨rfl, rfl, by simp⟩
  | @resume state births _ settings session text ih =>
    have haccounted := tracked_accounted settings session ih (Text.lines text.toList)
    rw [tracked_fst] at haccounted
    exact haccounted

/-- **Where the anchor holds.** Take any scan that starts with a fresh stack, or with the stack that ends
an earlier one, and any line of it. The visits of the line are all states that the scan gets to there. In
each of them every open region has its birth, and a search is one at the anchor if that of the innermost
region is meant to be there: where its begin has ended on this line, or at the start of the line if its
begin has ended at the very end of the line before. It is one also if the anchor lingers: at the start of
every later line, while the region is the innermost one that has been open there. So the anchor holds
only where it is meant to, exactly if it does not linger. In the text of a group with rules of its own it
never does. Whatever stack earlier scans have left, there are such births of its regions. -/
theorem anchor_holds_iff {state : Option ScopeStack} {births : List Birth}
    (hstate : repository.Tracks state births) (settings : ScannerSettings) (session : Session)
    (before : List (List Char)) (chars : List Char) :
    let tracked := repository.tracked settings session state births before
    let scan := repository.lineScan settings.stallLimit tracked.1 chars
    let start := tracked.1.lineStart chars
    let visits := scan.visits start (tracked.2.map .older)
    (∀ last, scan.Reaches start last ↔ ∃ visit ∈ visits, visit.1 = last) ∧
    (∀ visit ∈ visits,
      let holds := visit.1.scene.anchor = some visit.1.cursor
      let meant := ∃ birth, visit.2.head? = some birth ∧ birth.Anchors visit.1.cursor
      let lingers := ∃ birth, visit.2.head? = some birth ∧ birth.Lingers visit.1.cursor ∧
        visit.1.scene.stack.depth = start.scene.stack.depth
      visit.2.length = visit.1.scene.stack.regions.length ∧
        (holds ↔ meant ∨ lingers) ∧ ((holds → meant) ↔ ¬ lingers)) ∧
    (∀ (scan : LineScan) (start : Nat) (bottom : Frame) (emission : Emission),
      ∀ visit ∈ scan.visits (.begin start none { bottom } emission) [],
        visit.1.scene.anchor = some visit.1.cursor ↔
          ∃ birth, visit.2.head? = some birth ∧ birth.Anchors visit.1.cursor) ∧
    ∀ other, repository.Continues other → ∃ births, repository.Tracks other births := by
  dsimp only
  refine ⟨fun last => (LineScan.mem_visits_iff _ last _).symm, fun visit hmem => ?_,
    fun scan start bottom emission visit hmem => ?_, fun _ => Continues.exists_tracks⟩
  · have haccounted := tracked_accounted settings session hstate.accounted before
    have hcarries := haccounted.carries
    have hanchored := LineScan.visits_anchored hcarries
      (haccounted.lineStart (repository.lineScan settings.stallLimit _ chars) chars).1 visit hmem
    have hiff := hanchored.anchor_iff hcarries haccounted.first_eq haccounted.older_below
      visit.1.cursor
    have hholds : visit.1.scene.anchor = some visit.1.cursor ↔
        (∃ birth, visit.2.head? = some birth ∧ birth.Anchors visit.1.cursor) ∨
          ∃ birth, visit.2.head? = some birth ∧ birth.Lingers visit.1.cursor ∧
            visit.1.scene.stack.depth =
              ((repository.tracked settings session state births before).1.lineStart
                chars).scene.stack.depth := by
      simp only [hiff, ScopeStack.depth, Nat.add_right_cancel_iff, and_or_left, exists_or]
      rfl
    refine ⟨hanchored.length_eq hcarries, hholds, fun hmeant => ?_, fun hlingers hanchor => ?_⟩
    · rintro ⟨birth, hhead, hlingers, hdepth⟩
      obtain ⟨other, hother, hanchors⟩ :=
        hmeant (hholds.mpr (Or.inr ⟨birth, hhead, hlingers, hdepth⟩))
      obtain rfl := Option.some.inj (hhead.symm.trans hother)
      exact hlingers.not_anchors hanchors
    · exact (hholds.mp hanchor).resolve_right hlingers
  · have hcarries : Carries [] [] := ⟨List.forall_mem_nil _, rfl, List.forall_mem_nil _⟩
    have hanchored := LineScan.visits_anchored hcarries
      (Anchored.carried : Anchored scan [] [] none [] [] none) visit hmem
    rw [hanchored.anchor_iff hcarries rfl (List.forall_mem_nil _)]
    constructor
    · rintro ⟨birth, hhead, hanchors | ⟨_, hlength⟩⟩
      · exact ⟨birth, hhead, hanchors⟩
      · -- a region that is open has begun on the line
        rw [List.length_nil, ← hanchored.length_eq hcarries] at hlength
        rw [List.eq_nil_of_length_eq_zero hlength] at hhead
        cases hhead
    · rintro ⟨birth, hhead, hanchors⟩
      exact ⟨birth, hhead, Or.inl hanchors⟩

/-- A region whose begin takes the end of its line, with an anchored letter inside. -/
def clingingGrammar : Grammar where
  scopeName := "source.t"
  patterns := [{
    opening := some "a\\n"
    closing := some "z"
    name := some "region"
    patterns := [{ pattern := some "\\Gb", name := some "anchored" }] }]

/-- One more line is scanned and followed, with the first steps along it spelt out. -/
def trackNextLineWithin (repository : Repository) (stallLimit steps : Nat)
    (tracked : ScanProgress × List Birth) (chars : List Char) : ScanProgress × List Birth :=
  (repository.scanNextLineWithin stallLimit steps tracked.1 chars,
    (((repository.lineScan stallLimit tracked.1 chars).visitsWithin steps
      (tracked.1.lineStart chars) (tracked.2.map .older)).getLast?.map Prod.snd).getD
        (tracked.2.map .older))

theorem trackNextLineWithin_eq (repository : Repository) (stallLimit steps : Nat) :
    repository.trackNextLineWithin stallLimit steps = repository.trackNextLine stallLimit := by
  funext tracked chars
  rw [trackNextLineWithin, scanNextLineWithin_eq, LineScan.visitsWithin_eq]
  rfl

theorem clingingGrammar_lingers :
    (match compile clingingGrammar 1000 with
      | .ok repository =>
        let tracked := [['a', '\n'], ['b', '\n']].foldl (repository.trackNextLineWithin 32 8)
          (.begin {} {} (.fresh repository), [])
        decide (tracked.2 = [⟨1, 2, true⟩])
      | .error _ => false) = true := by
  decide +kernel

/-- The region has been open for a whole further line. Still the anchor holds at the start of the third
line, where it is not meant to. -/
theorem anchor_holds_iff_clinging :
    ∃ repository, compile clingingGrammar 1000 = .ok repository ∧ repository.Tracks none [] ∧
      let tracked := repository.tracked {} {} none [] [['a', '\n'], ['b', '\n']]
      let start := tracked.1.lineStart ['b', '\n']
      let visits := (repository.lineScan 32 tracked.1 ['b', '\n']).visits start [⟨2, 2, true⟩]
      (start, [⟨2, 2, true⟩]) ∈ visits ∧ start.scene.anchor = some start.cursor ∧
        ¬ (⟨2, 2, true⟩ : Birth).Anchors start.cursor := by
  have hlingers := clingingGrammar_lingers
  split at hlingers
  · next repository hcompile =>
    simp only [trackNextLineWithin_eq, decide_eq_true_eq] at hlingers
    have hbirths : (repository.tracked {} {} none [] [['a', '\n'], ['b', '\n']]).2.map Birth.older =
        [⟨2, 2, true⟩] := congrArg (List.map Birth.older) hlingers
    obtain ⟨_, hvisits, _⟩ :=
      anchor_holds_iff (.fresh : repository.Tracks none []) {} {} [['a', '\n'], ['b', '\n']] ['b', '\n']
    rw [hbirths] at hvisits
    have hmem := LineScan.self_mem_visits
      (repository.lineScan 32 (repository.tracked {} {} none [] [['a', '\n'], ['b', '\n']]).1 ['b', '\n'])
      ((repository.tracked {} {} none [] [['a', '\n'], ['b', '\n']]).1.lineStart ['b', '\n'])
      [⟨2, 2, true⟩]
    obtain ⟨_, _, hmeant⟩ := hvisits _ hmem
    have hfails := fun h => hmeant.mp h ⟨_, rfl, ⟨Nat.le_refl 2, rfl, rfl⟩, rfl⟩
    obtain ⟨hholds, hnot⟩ := Classical.not_imp.mp hfails
    exact ⟨repository, hcompile, .fresh, hmem, hholds, fun hanchors => hnot ⟨_, rfl, hanchors⟩⟩
  · cases hlingers

end Repository

end ScopeScanner
