import ScopeScanner.Pattern.Basic
import ScopeScanner.Proofs.Regex.Forward

/-!
# Groups end behind their starts

The two marks of a group stand around the steps of its body, so a walk that notes the end of a group has
noted a start of it before. To see this, the steps of an automaton are coloured: at which addresses is a
group open (`Plain.openAt`)?

* **`Plain.steps_respect`**: every step goes on at addresses of its own colour. Only the marks of the group
  change it, and only the mark of its start opens the group.
* **`Automaton.follow_upright`**: so what a finished walk has noted of a group is upright, since walks go
  ahead in the text.
* **`Pattern.upright_of_compile`**: the match that a compiled pattern finds does not end before it starts.
  For programs this is how their matches are read off.
-/

namespace ScopeScanner

namespace Regex

/-! ## Colours -/

/-- What holds of each item of a list together with its address. -/
def Along {α : Type} (P : Nat → α → Prop) (start : Nat) (items : List α) : Prop :=
  ∀ i item, items[i]? = some item → P (start + i) item

section Along

variable {α : Type} {P : Nat → α → Prop} {start : Nat}

@[simp] theorem along_nil : Along P start [] := by
  intro i item h
  cases h

@[simp] theorem along_cons {item : α} {items : List α} :
    Along P start (item :: items) ↔ P start item ∧ Along P (start + 1) items := by
  constructor
  · intro h
    refine ⟨h 0 item rfl, fun i item hitem => ?_⟩
    rw [Nat.add_assoc, Nat.add_comm 1]
    exact h (i + 1) item hitem
  · rintro ⟨hitem, hitems⟩ i other hother
    cases i with
    | zero => exact Option.some.inj hother ▸ hitem
    | succ i =>
      have := hitems i other hother
      rwa [Nat.add_assoc, Nat.add_comm 1] at this

@[simp] theorem along_append {items items' : List α} :
    Along P start (items ++ items') ↔ Along P start items ∧ Along P (start + items.length) items' := by
  induction items generalizing start with
  | nil => simp
  | cons item items ih =>
    rw [List.cons_append, along_cons, along_cons, ih, and_assoc, List.length_cons,
      Nat.add_assoc, Nat.add_comm 1]

end Along

namespace Plain

/-- For each step of an expression, whether group `k` is open in front of it, if it is `outer` around the
expression. -/
def openAt (k : Nat) : Plain → (outer : Bool) → List Bool
  | empty, _ => []
  | set _, outer | assertion _, outer => [outer]
  | seq first second, outer => first.openAt k outer ++ second.openAt k outer
  | alt preferred other, outer =>
    outer :: preferred.openAt k outer ++ outer :: other.openAt k outer
  | group number body, outer =>
    let inner := outer || number = k
    outer :: body.openAt k inner ++ [inner]
  | repeated least (some most) _ body, outer =>
    (List.replicate least (body.openAt k outer)).flatten ++
      (List.replicate (most - least) (outer :: body.openAt k outer)).flatten
  | repeated 0 none _ body, outer => outer :: body.openAt k outer ++ [outer]
  | repeated (least + 1) none _ body, outer =>
    (List.replicate (least + 1) (body.openAt k outer)).flatten ++ [outer]

@[simp] theorem openAt_length (k : Nat) (plain : Plain) (outer : Bool) :
    (plain.openAt k outer).length = plain.stepCount := by
  induction plain generalizing outer with
  | empty | set s | assertion a => rfl
  | seq first second ihfirst ihsecond => simp [openAt, stepCount, ihfirst, ihsecond]
  | alt preferred other ihpreferred ihother =>
    simp only [openAt, stepCount, List.length_append, List.length_cons, ihpreferred, ihother]
    omega
  | group number body ih => simp [openAt, stepCount, ih]
  | repeated least most greedy body ih =>
    rcases most with _ | most
    · cases least <;> simp [openAt, stepCount, ih]
    · simp [openAt, stepCount, ih]

theorem copies_succ (steps : Nat → List Step) (size count start : Nat) :
    copies steps size (count + 1) start = steps start ++ copies steps size count (start + size) := by
  have hnext (i : Nat) : start + (i + 1) * size = start + size + i * size := by
    rw [Nat.add_mul, Nat.one_mul]
    omega
  simp [copies, List.range_succ_eq_map, List.flatMap_map, hnext]

theorem copies_length {steps : Nat → List Step} {size : Nat}
    (hsteps : ∀ start, (steps start).length = size) (count start : Nat) :
    (copies steps size count start).length = count * size := by
  induction count generalizing start with
  | zero => simp [copies]
  | succ count ih =>
    rw [copies_succ, List.length_append, hsteps, ih, Nat.add_mul, Nat.one_mul, Nat.add_comm]

@[simp] theorem steps_length (plain : Plain) (start : Nat) :
    (plain.steps start).length = plain.stepCount := by
  induction plain generalizing start with
  | empty | set s | assertion a => rfl
  | seq first second ihfirst ihsecond => simp [steps, stepCount, ihfirst, ihsecond]
  | alt preferred other ihpreferred ihother =>
    simp only [steps, stepCount, List.length_append, List.length_cons, ihpreferred, ihother]
    omega
  | group number body ih => simp [steps, stepCount, ih]
  | repeated least most greedy body ih =>
    have hchoice (stop : Nat) (start : Nat) :
        (Step.choice greedy (start + 1) stop :: body.steps (start + 1)).length = body.stepCount + 1 := by
      rw [List.length_cons, ih]
    rcases most with _ | most
    · cases least <;> simp [steps, stepCount, ih, copies_length]
    · simp [steps, stepCount, ih, copies_length, hchoice]

end Plain

/-- A step goes on where its colour is that of its own address, unless it is a mark of group `k`. -/
def Step.Respects (k : Nat) (opened : Nat → Bool) (address : Nat) : Step → Prop
  | .consume _ | .require _ => opened (address + 1) = opened address
  | .mark slot =>
    if slot = 2 * k then opened (address + 1) = true
    else if slot = 2 * k + 1 then opened address = true
    else opened (address + 1) = opened address
  | .fork preferred other => opened preferred = opened address ∧ opened other = opened address
  | .jump target => opened target = opened address

theorem Step.respects_choice {k : Nat} {opened : Nat → Bool} {address onward away : Nat} {greedy : Bool}
    (honward : opened onward = opened address) (haway : opened away = opened address) :
    (Step.choice greedy onward away).Respects k opened address := by
  cases greedy with
  | true => exact ⟨honward, haway⟩
  | false => exact ⟨haway, honward⟩

namespace Plain

/-- A colouring of addresses that agrees with an expression, and has the colour from around it where the
expression ends. -/
structure Coloured (k : Nat) (opened : Nat → Bool) (plain : Plain) (outer : Bool) (start : Nat) :
    Prop where
  along : Along (fun address colour => opened address = colour) start (plain.openAt k outer)
  stop : opened (start + plain.stepCount) = outer

/-- However the addresses of an expression are coloured, it starts in the colour from around it and its
steps respect the colours. -/
def Respecting (k : Nat) (opened : Nat → Bool) (plain : Plain) (outer : Bool) : Prop :=
  ∀ start, Coloured k opened plain outer start →
    opened start = outer ∧
      Along (fun address step => step.Respects k opened address) start (plain.steps start)

namespace Respecting

variable {k : Nat} {opened : Nat → Bool} {outer : Bool}

theorem seq {first second : Plain} (hfirst : Respecting k opened first outer)
    (hsecond : Respecting k opened second outer) : Respecting k opened (.seq first second) outer := by
  intro start h
  obtain ⟨halong, halong'⟩ := along_append.mp h.along
  rw [openAt_length] at halong'
  obtain ⟨hmiddle, hsteps'⟩ := hsecond _ ⟨halong', by rw [Nat.add_assoc]; exact h.stop⟩
  obtain ⟨hstart, hsteps⟩ := hfirst start ⟨halong, hmiddle⟩
  exact ⟨hstart, along_append.mpr ⟨hsteps, by rwa [steps_length]⟩⟩

theorem alt {preferred other : Plain} (hpreferred : Respecting k opened preferred outer)
    (hother : Respecting k opened other outer) : Respecting k opened (.alt preferred other) outer := by
  intro start h
  obtain ⟨hfirst, hsecond⟩ := along_append.mp h.along
  obtain ⟨hstart, halong⟩ := along_cons.mp hfirst
  obtain ⟨hmiddle, halong'⟩ := along_cons.mp hsecond
  have haddress : start + (preferred.stepCount + 1) = start + 1 + preferred.stepCount := by omega
  rw [List.length_cons, openAt_length, haddress] at hmiddle halong'
  have hstop : opened (start + 1 + preferred.stepCount + 1 + other.stepCount) = outer := by
    rw [← h.stop, stepCount]
    congr 1
    omega
  obtain ⟨hinto, hsteps⟩ := hpreferred (start + 1) ⟨halong, hmiddle⟩
  obtain ⟨hinto', hsteps'⟩ := hother _ ⟨halong', hstop⟩
  refine ⟨hstart, along_append.mpr
    ⟨along_cons.mpr ⟨⟨hinto.trans hstart.symm, hinto'.trans hstart.symm⟩, hsteps⟩, ?_⟩⟩
  rw [List.length_cons, steps_length, haddress]
  exact along_cons.mpr ⟨hstop.trans hmiddle.symm, hsteps'⟩

theorem group {number : Nat} {body : Plain}
    (hbody : Respecting k opened body (outer || number = k)) :
    Respecting k opened (.group number body) outer := by
  intro start h
  obtain ⟨hfirst, hsecond⟩ := along_append.mp h.along
  obtain ⟨hstart, halong⟩ := along_cons.mp hfirst
  obtain ⟨hleave, _⟩ := along_cons.mp hsecond
  have haddress : start + (body.stepCount + 1) = start + 1 + body.stepCount := by omega
  rw [List.length_cons, openAt_length, haddress] at hleave
  have hstop : opened (start + 1 + body.stepCount + 1) = outer := by
    rw [← h.stop, stepCount]
    congr 1
    omega
  obtain ⟨hinto, hsteps⟩ := hbody (start + 1) ⟨halong, hleave⟩
  have hcolour (hne : number ≠ k) : (outer || decide (number = k)) = outer := by
    rw [decide_eq_false hne, Bool.or_false]
  refine ⟨hstart, along_append.mpr ⟨along_cons.mpr ⟨?_, hsteps⟩, ?_⟩⟩
  · -- the mark of its start
    rw [Step.Respects]
    split
    · next heq => rw [hinto, decide_eq_true (by omega : number = k), Bool.or_true]
    · next hne =>
      rw [if_neg (by omega), hinto, hstart]
      exact hcolour (by omega)
  · -- the mark of its end
    rw [List.length_cons, steps_length, haddress]
    refine along_cons.mpr ⟨?_, along_nil⟩
    rw [Step.Respects, if_neg (by omega)]
    split
    · next heq => rw [hleave, decide_eq_true (by omega : number = k), Bool.or_true]
    · next hne =>
      rw [hstop, hleave]
      exact (hcolour (by omega)).symm

/-- One copy behind the other, each of them entered and left in the colour from around. -/
theorem copied {size : Nat} (steps : Nat → List Step) {colours : List Bool}
    (hcolours : colours.length = size) (hsteps : ∀ start, (steps start).length = size)
    (hcopy : ∀ start, Along (fun address colour => opened address = colour) start colours →
      opened (start + size) = outer →
        opened start = outer ∧
          Along (fun address step => step.Respects k opened address) start (steps start))
    (count : Nat) {start : Nat}
    (halong : Along (fun address colour => opened address = colour) start
      (List.replicate count colours).flatten)
    (hstop : opened (start + count * size) = outer) :
    opened start = outer ∧
      Along (fun address step => step.Respects k opened address) start
        (copies steps size count start) := by
  induction count generalizing start with
  | zero => exact ⟨by simpa using hstop, by simp [Plain.copies]⟩
  | succ count ih =>
    obtain ⟨hfirst, hrest⟩ := along_append.mp halong
    rw [hcolours] at hrest
    obtain ⟨hnext, hrest⟩ := ih hrest (by rwa [Nat.add_assoc, Nat.add_comm size, ← Nat.succ_mul])
    obtain ⟨hstart, hfirst⟩ := hcopy start hfirst hnext
    rw [copies_succ]
    exact ⟨hstart, along_append.mpr ⟨hfirst, by rwa [hsteps]⟩⟩

/-- Any number of iterations: from behind the body one goes back to where it is entered or left. -/
theorem loop {greedy : Bool} {body : Plain} (hbody : Respecting k opened body outer) :
    Respecting k opened (.repeated 0 none greedy body) outer := by
  intro start h
  obtain ⟨hfirst, hsecond⟩ := along_append.mp h.along
  obtain ⟨hstart, halong⟩ := along_cons.mp hfirst
  obtain ⟨hagain, _⟩ := along_cons.mp hsecond
  have haddress : start + (body.stepCount + 1) = start + 1 + body.stepCount := by omega
  rw [List.length_cons, openAt_length, haddress] at hagain
  have hstop : opened (start + body.stepCount + 2) = outer := h.stop
  obtain ⟨hinto, hsteps⟩ := hbody (start + 1) ⟨halong, hagain⟩
  refine ⟨hstart, along_append.mpr ⟨along_cons.mpr ⟨?_, hsteps⟩, ?_⟩⟩
  · exact Step.respects_choice (hinto.trans hstart.symm) (hstop.trans hstart.symm)
  · rw [List.length_cons, steps_length, haddress]
    refine along_cons.mpr ⟨?_, along_nil⟩
    split
    · exact Step.respects_choice (hinto.trans hagain.symm) (hstop.trans hagain.symm)
    · exact hstart.trans hagain.symm

/-- At least one iteration: the last copy is the one that is gone through again. -/
theorem atLeast {least : Nat} {greedy : Bool} {body : Plain} (hbody : Respecting k opened body outer) :
    Respecting k opened (.repeated (least + 1) none greedy body) outer := by
  intro start h
  obtain ⟨hall, hchoice⟩ := along_append.mp h.along
  obtain ⟨hchoice, _⟩ := along_cons.mp hchoice
  have hsize : ((List.replicate (least + 1) (body.openAt k outer)).flatten).length =
      (least + 1) * body.stepCount := by simp
  rw [hsize] at hchoice
  have hstop : opened (start + least * body.stepCount + body.stepCount + 1) = outer := by
    rw [← h.stop, stepCount, Nat.succ_mul]
    congr 1
    omega
  have hlast : opened (start + least * body.stepCount) = outer := by
    have hsplit := hall
    rw [List.replicate_succ', List.flatten_append, along_append] at hsplit
    refine (hbody _ ⟨by simpa using hsplit.2, ?_⟩).1
    rwa [Nat.add_assoc, ← Nat.succ_mul]
  obtain ⟨hstart, hsteps⟩ := copied body.steps (openAt_length k body outer) (steps_length body)
    (fun start halong hstop => hbody start ⟨halong, hstop⟩) (least + 1) hall hchoice
  refine ⟨hstart, along_append.mpr ⟨hsteps, along_cons.mpr ⟨?_, along_nil⟩⟩⟩
  rw [copies_length (steps_length body)]
  exact Step.respects_choice (hlast.trans hchoice.symm) (hstop.trans hchoice.symm)

/-- A limited number of iterations: those that may be left out begin with a choice. -/
theorem atMost {least most : Nat} {greedy : Bool} {body : Plain}
    (hbody : Respecting k opened body outer) :
    Respecting k opened (.repeated least (some most) greedy body) outer := by
  intro start h
  obtain ⟨hleast, hmore⟩ := along_append.mp h.along
  have hsize : ((List.replicate least (body.openAt k outer)).flatten).length =
      least * body.stepCount := by simp
  rw [hsize] at hmore
  have hstop : opened (start + least * body.stepCount + (most - least) * (body.stepCount + 1)) =
      outer := by
    rw [← h.stop, stepCount, Nat.add_assoc]
  have hoptional (address : Nat)
      (halong : Along (fun address colour => opened address = colour) address
        (outer :: body.openAt k outer))
      (hend : opened (address + (body.stepCount + 1)) = outer) :
      opened address = outer ∧
        Along (fun address step => step.Respects k opened address) address
          (.choice greedy (address + 1)
            (start + least * body.stepCount + (most - least) * (body.stepCount + 1)) ::
              body.steps (address + 1)) := by
    obtain ⟨hhere, halong⟩ := along_cons.mp halong
    obtain ⟨hinto, hsteps⟩ :=
      hbody (address + 1) ⟨halong, by rwa [Nat.add_assoc, Nat.add_comm 1]⟩
    exact ⟨hhere, along_cons.mpr
      ⟨Step.respects_choice (hinto.trans hhere.symm) (hstop.trans hhere.symm), hsteps⟩⟩
  obtain ⟨hmiddle, hsteps'⟩ := copied _ (by rw [List.length_cons, openAt_length])
    (fun _ => by rw [List.length_cons, steps_length]) hoptional (most - least) hmore hstop
  obtain ⟨hstart, hsteps⟩ := copied body.steps (openAt_length k body outer) (steps_length body)
    (fun start halong hstop => hbody start ⟨halong, hstop⟩) least hleast hmiddle
  exact ⟨hstart, along_append.mpr ⟨hsteps, by rwa [copies_length (steps_length body)]⟩⟩

end Respecting

/-- **Every step respects the colours.** By induction on the expression; where its parts end is where the
next ones start. -/
theorem respecting (k : Nat) (opened : Nat → Bool) (plain : Plain) (outer : Bool) :
    Respecting k opened plain outer := by
  induction plain generalizing outer with
  | empty => exact fun start h => ⟨h.stop, along_nil⟩
  | set s =>
    intro start h
    obtain ⟨hstart, _⟩ := along_cons.mp h.along
    exact ⟨hstart, along_cons.mpr ⟨h.stop.trans hstart.symm, along_nil⟩⟩
  | assertion a =>
    intro start h
    obtain ⟨hstart, _⟩ := along_cons.mp h.along
    exact ⟨hstart, along_cons.mpr ⟨h.stop.trans hstart.symm, along_nil⟩⟩
  | seq first second ihfirst ihsecond => exact (ihfirst outer).seq (ihsecond outer)
  | alt preferred other ihpreferred ihother => exact (ihpreferred outer).alt (ihother outer)
  | group number body ih => exact .group (ih _)
  | repeated least most greedy body ih =>
    rcases most with _ | most
    · cases least with
      | zero => exact (ih outer).loop
      | succ least => exact (ih outer).atLeast
    · exact (ih outer).atMost

/-- The colours of the addresses of an expression on its own; the group is not open outside. -/
def isOpenAt (k : Nat) (plain : Plain) (address : Nat) : Bool :=
  (plain.openAt k false)[address]?.getD false

theorem isOpenAt_of_le {k : Nat} {plain : Plain} {address : Nat} (h : plain.stepCount ≤ address) :
    plain.isOpenAt k address = false := by
  rw [isOpenAt, List.getElem?_eq_none (by rwa [openAt_length]), Option.getD_none]

/-- **Every step of an expression respects its colours**, and it starts outside of the group. -/
theorem steps_respect (k : Nat) (plain : Plain) :
    plain.isOpenAt k 0 = false ∧ ∀ address (step : Step),
      (plain.steps 0)[address]? = some step → step.Respects k (plain.isOpenAt k) address := by
  have hcoloured : Coloured k (plain.isOpenAt k) plain false 0 := by
    refine ⟨fun address colour hcolour => ?_, isOpenAt_of_le (Nat.le_of_eq (Nat.zero_add _).symm)⟩
    show ((plain.openAt k false)[0 + address]?).getD false = colour
    rw [Nat.zero_add, hcolour, Option.getD_some]
  obtain ⟨hstart, halong⟩ := respecting k _ plain false 0 hcoloured
  refine ⟨hstart, fun address step hstep => ?_⟩
  have hrespects := halong address step hstep
  rwa [Nat.zero_add] at hrespects

end Plain

/-! ## Walks -/

/-- What is known of a walk that has come to a step of an expression: if group `k` is open there its start
has been noted, and otherwise what has been noted of it is upright. -/
structure Walk.Upright (k : Nat) (plain : Plain) (walk : Walk) : Prop where
  opened : plain.isOpenAt k walk.step = true →
    ∃ first, walk.marks.lookup (2 * k) = some first ∧ first ≤ walk.pos
  closed : plain.isOpenAt k walk.step = false → ∀ span, walk.group? k = some span →
    span.start ≤ span.stop

namespace Walk.Upright

variable {k : Nat} {plain : Plain} {walk : Walk}

theorem begin (k : Nat) (plain : Plain) (pos : Nat) : Upright k plain { pos } where
  opened h := by
    rw [(plain.steps_respect k).1] at h
    cases h
  closed _ span h := by cases h

/-- A walk that notes nothing goes on in the same colour. -/
theorem go (h : Upright k plain walk) {step pos : Nat}
    (hcolour : plain.isOpenAt k step = plain.isOpenAt k walk.step) (hpos : walk.pos ≤ pos) :
    Upright k plain { walk with step, pos } where
  opened hopen := by
    obtain ⟨first, hfirst, hle⟩ := h.opened (hcolour ▸ hopen)
    exact ⟨first, hfirst, Nat.le_trans hle hpos⟩
  closed hclosed := h.closed (hcolour ▸ hclosed)

/-- A walk notes an end of some group. -/
theorem mark (h : Upright k plain walk) {slot : Nat}
    (hrespects : (Step.mark slot).Respects k (plain.isOpenAt k) walk.step) :
    Upright k plain
      { walk with step := walk.step + 1, marks := (slot, walk.pos) :: walk.marks } := by
  rw [Step.Respects] at hrespects
  split at hrespects
  · -- the start of the group
    next hslot =>
    subst hslot
    refine ⟨fun _ => ⟨walk.pos, List.lookup_cons_self, Nat.le_refl _⟩, fun hclosed => ?_⟩
    rw [hrespects] at hclosed
    cases hclosed
  next hstart =>
  have hsame : ((slot, walk.pos) :: walk.marks).lookup (2 * k) = walk.marks.lookup (2 * k) := by
    rw [List.lookup_cons, beq_eq_false_iff_ne.mpr (Ne.symm hstart)]
  split at hrespects
  · -- the end of the group
    next hslot =>
    subst hslot
    obtain ⟨first, hfirst, hle⟩ := h.opened hrespects
    refine ⟨fun _ => ⟨first, hsame.trans hfirst, hle⟩, fun _ span hspan => ?_⟩
    rw [group?] at hspan
    dsimp only at hspan
    rw [hsame, hfirst, List.lookup_cons_self] at hspan
    obtain rfl := Option.some.inj hspan
    exact hle
  · next hstop =>
    have hsame' : ((slot, walk.pos) :: walk.marks).lookup (2 * k + 1) =
        walk.marks.lookup (2 * k + 1) := by
      rw [List.lookup_cons, beq_eq_false_iff_ne.mpr (Ne.symm hstop)]
    refine ⟨fun hopen => ?_, fun hclosed span hspan => ?_⟩
    · obtain ⟨first, hfirst, hle⟩ := h.opened (hrespects ▸ hopen)
      exact ⟨first, hsame.trans hfirst, hle⟩
    · refine h.closed (hrespects ▸ hclosed) span ?_
      rw [group?] at hspan ⊢
      dsimp only at hspan
      rwa [hsame, hsame'] at hspan

end Walk.Upright

namespace Automaton

/-- **What a walk that gets through has noted of a group is upright.** By induction on the fuel, with one
case for each kind of step. -/
theorem follow_upright (k : Nat) (plain : Plain) (input : Array Char) (limit fuel : Nat)
    (waiting : List Walk) (visited : Visited) (h : ∀ walk ∈ waiting, walk.Upright k plain) {walk : Walk}
    (hfound : ((ofPlain plain).follow input limit .ahead fuel waiting visited).1 = some walk)
    {span : Span} (hspan : walk.group? k = some span) : span.start ≤ span.stop := by
  induction fuel generalizing waiting visited with
  | zero => cases hfound
  | succ fuel ih =>
    cases waiting with
    | nil => cases hfound
    | cons next waiting =>
      obtain ⟨hnext, hwaiting⟩ := List.forall_mem_cons.mp h
      cases hstep : (ofPlain plain).steps[next.step]? with
      | none =>
        -- past the last step no group is open
        simp only [follow, hstep] at hfound
        obtain rfl := Option.some.inj hfound
        refine hnext.closed (Plain.isOpenAt_of_le ?_) span hspan
        rw [ofPlain, List.getElem?_toArray, List.getElem?_eq_none_iff, Plain.steps_length] at hstep
        exact hstep
      | some step =>
        have hrespects : step.Respects k (plain.isOpenAt k) next.step := by
          refine (plain.steps_respect k).2 next.step step ?_
          rwa [ofPlain, List.getElem?_toArray] at hstep
        cases step with
        | consume set =>
          simp only [follow, hstep] at hfound
          split at hfound
          · next pos hpass =>
            have hpos : next.pos ≤ pos := by rw [pass?_ahead hpass]; exact Nat.le_succ _
            exact ih _ _ (List.forall_mem_cons.mpr ⟨hnext.go hrespects hpos, hwaiting⟩) hfound
          · exact ih _ _ hwaiting hfound
        | require assertion =>
          simp only [follow, hstep] at hfound
          split at hfound
          · exact ih _ _ (List.forall_mem_cons.mpr
              ⟨hnext.go hrespects (Nat.le_refl _), hwaiting⟩) hfound
          · exact ih _ _ hwaiting hfound
        | mark slot =>
          simp only [follow, hstep] at hfound
          exact ih _ _ (List.forall_mem_cons.mpr ⟨hnext.mark hrespects, hwaiting⟩) hfound
        | fork preferred other =>
          obtain ⟨hpreferred, hother⟩ := hrespects
          simp only [follow, hstep] at hfound
          split at hfound
          · exact ih _ _ hwaiting hfound
          · exact ih _ _ (List.forall_mem_cons.mpr
              ⟨hnext.go hpreferred (Nat.le_refl _), List.forall_mem_cons.mpr
                ⟨hnext.go hother (Nat.le_refl _), hwaiting⟩⟩) hfound
        | jump target =>
          simp only [follow, hstep] at hfound
          exact ih _ _ (List.forall_mem_cons.mpr
            ⟨hnext.go hrespects (Nat.le_refl _), hwaiting⟩) hfound

/-- So is what a search finds. -/
theorem search_upright (k : Nat) (plain : Plain) (input : Array Char) (start : Nat) {walk : Walk}
    (hfound : (ofPlain plain).search input start = some walk) {span : Span}
    (hspan : walk.group? k = some span) : span.start ≤ span.stop := by
  have htry (left from' : Nat) (visited : Visited)
      (hfound : (ofPlain plain).searchFrom input left from' visited = some walk) :
      span.start ≤ span.stop := by
    induction left generalizing from' visited with
    | zero => cases hfound
    | succ left ih =>
      rw [searchFrom] at hfound
      split at hfound
      · next walk' visited' hfollow =>
        obtain rfl := Option.some.inj hfound
        exact follow_upright k plain input input.size _ [{ pos := from' }] visited
          (List.forall_mem_singleton.mpr (.begin k plain from')) (by rw [hfollow]) hspan
      · exact ih _ _ hfound
  exact htry _ start _ hfound

end Automaton

/-- Whether a regular expression is run by the automaton of a plain expression, if by an automaton. -/
def IsMade (regex : Regex) : Prop :=
  ∀ automaton, regex.engine = .automaton automaton → ∃ plain, automaton = .ofPlain plain

theorem isMade_of_compile {text : List Char} {regex : Regex} (h : compile text = .ok regex) :
    regex.IsMade := by
  rw [compile] at h
  cases hread : readExpression text with
  | error fault => rw [hread] at h; cases h
  | ok expression =>
  rw [hread] at h
  replace h : ofExpression expression.withWhole = .ok regex := h
  rw [ofExpression] at h
  split at h
  · cases hprogram : Program.ofNode expression.withWhole with
    | error fault => rw [hprogram] at h; cases h
    | ok program =>
      rw [hprogram] at h
      obtain rfl := Except.ok.inj h
      intro automaton hengine
      cases hengine
  · cases hplain : expression.withWhole.node.toPlain with
    | error fault => rw [hplain] at h; cases h
    | ok plain =>
      rw [hplain] at h
      replace h : (if Node.maxPlainDepth < expression.withWhole.node.depthOfWhole then
          .error Fault.nestedTooDeep
        else if !plain.takesAtMost Footprint.limit then .error Fault.tooLarge
        else .ok { engine := .automaton (.ofPlain plain), groups := plain.lastGroup }) =
          Except.ok regex := h
      split at h
      · cases h
      · split at h
        · cases h
        · obtain rfl := Except.ok.inj h
          intro automaton hengine
          exact ⟨plain, (Engine.automaton.inj hengine).symm⟩

/-- The whole match that a search finds does not end before it starts. -/
theorem search_upright {regex : Regex} (hmade : regex.IsMade) (input : Array Char) (start budget : Nat)
    {spans : List (Option Span)} (hfound : regex.search input start budget = .ok (some spans))
    {span : Span} (hspan : spans.head? = some (some span)) : span.start ≤ span.stop := by
  rw [search] at hfound
  cases hengine : regex.engine with
  | automaton automaton =>
    obtain ⟨plain, rfl⟩ := hmade automaton hengine
    rw [hengine] at hfound
    obtain ⟨walk, hwalk, rfl⟩ := Option.map_eq_some_iff.mp (Except.ok.inj hfound)
    rw [List.range_succ_eq_map, List.map_cons, List.head?_cons] at hspan
    exact Automaton.search_upright 0 plain input start hwalk (Option.some.inj hspan)
  | program program =>
    rw [hengine] at hfound
    dsimp only at hfound
    cases hrun : program.search input start budget with
    | error fault => rw [hrun] at hfound; cases hfound
    | ok state =>
      rw [hrun] at hfound
      obtain ⟨state, _, rfl⟩ := Option.map_eq_some_iff.mp (Except.ok.inj hfound)
      obtain ⟨given, _, rfl⟩ := Option.map_eq_some_iff.mp (Option.some.inj hspan)
      exact Nat.min_le_right _ _

end Regex

namespace Pattern

/-- Matches do not end before they start. -/
def Upright (pattern : Pattern) : Prop :=
  ∀ line start atAnchor groups, pattern.findAt line start atAnchor = .ok (some groups) →
    groups.whole.start ≤ groups.whole.stop

/-- What a pattern finds is found by one of its two expressions. -/
theorem exists_searchAt_of_findAt {pattern : Pattern} {line : Line} {start : Nat} {atAnchor : Bool}
    {groups : Groups} (hfound : pattern.findAt line start atAnchor = .ok (some groups)) :
    ∃ regex first, (regex = pattern.detached ∨ pattern.attached = some regex) ∧
      pattern.searchAt regex line first = .ok (some groups) := by
  have hlater {first : Nat} (hlater : findAt.later pattern line first = .ok (some groups)) :
      ∃ regex first, (regex = pattern.detached ∨ pattern.attached = some regex) ∧
        pattern.searchAt regex line first = .ok (some groups) := by
    rw [findAt.later] at hlater
    split at hlater
    · exact ⟨_, _, Or.inl rfl, hlater⟩
    · cases hlater
  rw [findAt] at hfound
  split at hfound
  · exact ⟨_, _, Or.inl rfl, hfound⟩
  · next attached hanchor =>
    have hattached : pattern.attached = some attached := by
      split at hanchor
      · exact hanchor
      · cases hanchor
    cases hsearch : pattern.searchAt attached line (line.index start) with
    | error fault => rw [hsearch] at hfound; cases hfound
    | ok found =>
      rw [hsearch] at hfound
      cases found with
      | none => exact hlater hfound
      | some found =>
        replace hfound : (if found.whole.start = start then Except.ok (some found)
          else findAt.later pattern line (line.index start)) = .ok (some groups) := hfound
        split at hfound
        · obtain rfl := Option.some.inj (Except.ok.inj hfound)
          exact ⟨attached, _, Or.inr hattached, hsearch⟩
        · exact hlater hfound

theorem searchAt_upright {pattern : Pattern} {regex : Regex} (hmade : regex.IsMade) {line : Line}
    {first : Nat} {groups : Groups} (hfound : pattern.searchAt regex line first = .ok (some groups)) :
    groups.whole.start ≤ groups.whole.stop := by
  rw [searchAt] at hfound
  cases hsearch : regex.search line.chars first pattern.budget with
  | error fault => rw [hsearch] at hfound; cases hfound
  | ok found =>
    rw [hsearch] at hfound
    obtain ⟨spans, rfl, rfl⟩ := Option.map_eq_some_iff.mp (Except.ok.inj hfound)
    rw [Groups.whole, Groups.get?, Groups.ofIndices, List.getElem?_map, ← List.head?_eq_getElem?]
    cases hhead : spans.head? with
    | none => exact Nat.le_refl _
    | some entry =>
      cases entry with
      | none => exact Nat.le_refl _
      | some span => exact line.offset_le (Regex.search_upright hmade _ _ _ hsearch hhead)

/-- **The matches of a compiled pattern do not end before they start.** -/
theorem upright_of_compile {source : String} {budget : Nat} {pattern : Pattern}
    (h : compile source budget = .ok pattern) : pattern.Upright := by
  intro line start atAnchor groups hfound
  obtain ⟨regex, first, hregex, hsearch⟩ := exists_searchAt_of_findAt hfound
  refine searchAt_upright ?_ hsearch
  rw [compile] at h
  split at h
  · cases h
  · next detached hdetached =>
    split at h
    · split at h
      · cases h
      · next attached hattached =>
        obtain rfl := Except.ok.inj h
        rcases hregex with rfl | hregex
        · exact Regex.isMade_of_compile hdetached
        · obtain rfl := Option.some.inj hregex
          exact Regex.isMade_of_compile hattached
    · obtain rfl := Except.ok.inj h
      rcases hregex with rfl | hregex
      · exact Regex.isMade_of_compile hdetached
      · cases hregex

end Pattern

end ScopeScanner
