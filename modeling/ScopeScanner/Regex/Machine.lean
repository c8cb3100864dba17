import ScopeScanner.Regex.Program
import ScopeScanner.Text.Span
import ScopeScanner.Unicode.CaseFold

/-!
# Running programs on a budget

A program is run depth-first. Each choice leaves behind the state in which the other way can be
taken up; when the way taken fails, the latest such state is taken up at the cost of one unit of a
budget. When the budget is used up, or too many states are waiting, the run is abandoned.

`Instruction.next` says what one instruction does to a state, and `Program.run` does it.
-/

namespace ScopeScanner.Regex

open ScopeScanner

/-- The state of a run: the address of the next instruction, the position in the text, the slots,
and for each atomic part that has been entered the number of states that were waiting before. -/
structure State where
  address : Nat := 0
  pos : Nat
  slots : Array (Option Nat)
  atomics : List Nat := []
deriving DecidableEq, Repr

/-- What an instruction does. -/
inductive Effect where
  | goOn (state : State)
  /-- Goes on with the first state and leaves the second one waiting. -/
  | branch (state other : State)
  | fail
  /-- Fails and gives up the waiting states down to and with the one at an address. -/
  | failBelow (address : Nat)
  /-- Notes how many states are waiting. -/
  | enterAtomic (state : State)
  /-- Gives up all waiting states but the first `kept` ones. -/
  | leaveAtomic (kept : Nat) (state : State)
  | finish

namespace State

/-- The position noted in a slot. -/
def slot? (state : State) (slot : Nat) : Option Nat :=
  (state.slots[slot]?).join

/-- Notes a number in a slot. -/
def setSlot (state : State) (slot : Nat) (value : Option Nat) : State :=
  { state with slots := state.slots.setIfInBounds slot value }

/-- The state at the next instruction. -/
def next (state : State) : State :=
  { state with address := state.address + 1 }

/-- Takes over what a walk has noted about groups. A group that took no part is forgotten. -/
def learn (state : State) (groups : List Nat) (walk : Walk) : State :=
  groups.foldl
    (fun state group =>
      (state.setSlot (2 * group) (walk.marks.lookup (2 * group))).setSlot (2 * group + 1)
        (walk.marks.lookup (2 * group + 1)))
    state

/-- The span of a group. -/
def group? (state : State) (group : Nat) : Option Span := do
  let start ← state.slot? (2 * group)
  let stop ← state.slot? (2 * group + 1)
  return ⟨start, stop⟩

end State

/-! ## Texts of groups -/

/-- Whether two rows of characters are equal up to case, or the first one is a beginning of the
second up to case. -/
def startsWithFolded : List Char → List Char → Bool
  | [], _ => true
  | a :: as, b :: bs => Unicode.fold a = Unicode.fold b && startsWithFolded as bs
  | _ :: _, [] => false

/-- Whether a row of characters occurs in another one up to case. -/
def occursFolded (wanted : List Char) : List Char → Bool
  | [] => wanted.isEmpty
  | c :: rest => startsWithFolded wanted (c :: rest) || occursFolded wanted rest

/-- Whether a text of the same number of bytes may stand for a wanted one regardless of case: it is
equal up to the case of ASCII letters or, unless it is ASCII, holds the wanted one up to case. -/
def sameUpToCase (wanted found : List Char) : Bool :=
  wanted = found
    || if found.all (·.toNat < 128) then wanted.map Char.toLower = found.map Char.toLower
      else occursFolded wanted found

/-- The number of bytes of a row of characters. -/
def byteLength (chars : List Char) : Nat :=
  chars.foldl (fun length c => length + c.utf8Size) 0

/-- The position behind so many bytes, if a character ends there. -/
def positionAfter? (input : Array Char) : (fuel bytes pos : Nat) → Option Nat
  | _, 0, pos => some pos
  | 0, _ + 1, _ => none
  | fuel + 1, bytes + 1, pos => do
    let c ← input[pos]?
    if c.utf8Size ≤ bytes + 1 then
      positionAfter? input fuel (bytes + 1 - c.utf8Size) (pos + 1)
    else none

/-- The position behind a repetition of the text of a span. -/
def repeated? (input : Array Char) (ignoreCase : Bool) (span : Span) (pos : Nat) : Option Nat := do
  let wanted := (input.extract span.start span.stop).toList
  if ignoreCase then
    let stop ← positionAfter? input (input.size - pos) (byteLength wanted) pos
    if sameUpToCase wanted (input.extract pos stop).toList then some stop else none
  else
    let stop := pos + wanted.length
    if (input.extract pos stop).toList = wanted then some stop else none

/-! ## Instructions -/

/-- What an instruction does in a state. -/
def Instruction.next (input : Array Char) (state : State) : Instruction → Effect
  | plain part groups =>
    match part.matchAt input input.size .ahead state.pos with
    | some walk => .goOn ({ state.next with pos := walk.pos }.learn groups walk)
    | none => .fail
  | require assertion => if assertion.holds input state.pos then .goOn state.next else .fail
  | fork preferred other =>
    .branch { state with address := preferred } { state with address := other }
  | jump target => .goOn { state with address := target }
  | mark slot => .goOn (state.next.setSlot slot (some state.pos))
  | restore slot => .goOn { state.next with pos := (state.slot? slot).getD state.pos }
  | reset counter => .goOn (state.next.setSlot counter (some 0))
  | iterate counter least most greedy exit =>
    let count := (state.slot? counter).getD 0
    if most = some count then .goOn { state with address := exit }
    else
      let onward := state.next.setSlot counter (some (count + 1))
      if count < least then .goOn onward
      else
        let away := { onward with address := exit }
        if greedy then .branch onward away else .branch away onward
  | iterateMoving counter place least greedy exit =>
    let count := (state.slot? counter).getD 0
    if 0 < count && state.slot? place = some state.pos then .goOn { state with address := exit }
    else
      let onward := state.next.setSlot counter (some (count + 1))
      if count < least then .goOn onward
      else
        let onward := onward.setSlot place (some state.pos)
        let away := { onward with address := exit }
        if greedy then .branch onward away else .branch away onward
  | goBack width =>
    if state.pos < width then .fail else .goOn { state.next with pos := state.pos - width }
  | goBackOver reversed part groups =>
    match reversed.matchAt input input.size .behind state.pos with
    | none => .fail
    | some walk =>
      let state' := { state.next with pos := walk.pos }
      if groups.isEmpty then .goOn state'
      else match part.matchAt input state.pos .ahead walk.pos with
        | some walk => .goOn (state'.learn groups walk)
        | none => .fail
  | repeatGroup number ignoreCase =>
    match state.group? number with
    | none => .fail
    | some span =>
      match repeated? input ignoreCase span state.pos with
      | some pos => .goOn { state.next with pos }
      | none => .fail
  | requireGroup number =>
    if (state.slot? (2 * number)).isSome then .goOn state.next else .fail
  | beginAtomic => .enterAtomic state.next
  | endAtomic =>
    match state.atomics with
    | kept :: atomics => .leaveAtomic kept { state.next with atomics }
    | [] => .fail
  | rejectLook => .failBelow (state.address + 1)
  | finish => .finish

/-! ## Runs -/

/-- The budget of a search ran out, or too many states were waiting, before it had an answer. -/
inductive Exhausted where
  | exhausted
deriving DecidableEq, Repr

/-- How many states may wait. -/
def maxWaiting : Nat := 1000000

/-- The waiting states below the latest one at an address. -/
def belowAddress (address : Nat) : List State → List State
  | [] => []
  | state :: waiting =>
    if state.address = address then waiting else belowAddress address waiting

/-- Runs a program from a state until it finishes or has no way left. `waiting` holds the states to
take up after a failure, the latest first, and `count` is their number. -/
def Program.run (program : Program) (input : Array Char) :
    (fuel budget : Nat) → State → (waiting : List State) → (count : Nat) →
    Except Exhausted (Option State)
  | 0, _, _, _, _ => .error .exhausted
  | fuel + 1, budget, state, waiting, count =>
    let retry (waiting : List State) (count : Nat) : Except Exhausted (Option State) :=
      match waiting, budget with
      | [], _ => .ok none
      | _ :: _, 0 => .error .exhausted
      | state :: waiting, budget + 1 => program.run input fuel budget state waiting (count - 1)
    match (program.code[state.address]?).map (Instruction.next input state) with
    | none => retry waiting count
    | some effect =>
      match effect with
      | .goOn state => program.run input fuel budget state waiting count
      | .branch state other =>
        if maxWaiting ≤ count then .error .exhausted
        else program.run input fuel budget state (other :: waiting) (count + 1)
      | .fail => retry waiting count
      | .failBelow address =>
        let waiting := belowAddress address waiting
        retry waiting waiting.length
      | .enterAtomic state =>
        program.run input fuel budget { state with atomics := count :: state.atomics } waiting count
      | .leaveAtomic kept state =>
        program.run input fuel budget state (waiting.drop (count - kept)) (min kept count)
      | .finish => .ok (some state)

/-- A number of steps that no run on a budget takes, unless it counts iterations of something that
spans no text. -/
def Program.enough (program : Program) (input : Array Char) (budget : Nat) : Nat :=
  (budget + 1) * (program.code.size + 1) * (input.size + 2) * 1000

/-- The leftmost match that starts at or after a position. -/
def Program.search (program : Program) (input : Array Char) (start budget : Nat) :
    Except Exhausted (Option State) :=
  program.run input (program.enough input budget) budget
    { pos := start, slots := Array.replicate program.slots none } [] 0

end ScopeScanner.Regex
