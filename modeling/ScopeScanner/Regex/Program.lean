import ScopeScanner.Regex.Automaton
import ScopeScanner.Regex.Footprint
import ScopeScanner.Regex.Node

/-!
# Programs for hard expressions

A hard expression is run by trying its choices one after the other. It is written as a list of
instructions; its plain parts become single instructions that run an automaton and settle on the
preferred match.

A plain part may only be settled where it cannot matter later that it could have matched otherwise:
when all its matches span the same number of characters, or when nothing follows that could fail.
`Node.emit` is told by `hard` that something may follow.
-/

namespace ScopeScanner.Regex

/-- One instruction of a program. -/
inductive Instruction where
  /-- Moves over the preferred match of a plain part, which has the given groups. -/
  | plain (part : Automaton) (groups : List Nat)
  | require (assertion : Assertion)
  | fork (preferred other : Nat)
  | jump (target : Nat)
  /-- Notes the position in a slot. -/
  | mark (slot : Nat)
  /-- Goes back to the position noted in a slot. -/
  | restore (slot : Nat)
  /-- Sets a counter to zero. -/
  | reset (counter : Nat)
  /-- Starts one more iteration or leaves to `exit`. -/
  | iterate (counter least : Nat) (most : Option Nat) (greedy : Bool) (exit : Nat)
  /-- The same for a body that may match the empty text: where an iteration has started before,
  no other one starts. `place` is the slot of the last start. -/
  | iterateMoving (counter place least : Nat) (greedy : Bool) (exit : Nat)
  /-- Goes back by a number of characters. -/
  | goBack (width : Nat)
  /-- Goes back over the preferred match of a reversed part, and then matches the part once more to
  learn its groups. -/
  | goBackOver (reversed part : Automaton) (groups : List Nat)
  | repeatGroup (number : Nat) (ignoreCase : Bool)
  | requireGroup (number : Nat)
  /-- From here to the matching end, only the first way to match is kept. -/
  | beginAtomic
  | endAtomic
  /-- Fails together with the whole negated lookaround that this instruction ends. -/
  | rejectLook
  | finish
deriving DecidableEq, Repr

/-- Instructions from an address on, and the first slot that they leave free. -/
abbrev Emission := Except Fault (List Instruction × Nat)

/-- What writes instructions, given their first address and the first free slot. -/
abbrev Emitter := (start slot : Nat) → Emission

namespace Emitter

/-- Writes nothing. -/
def nothing : Emitter :=
  fun _ slot => return ([], slot)

/-- Writes one instruction. -/
def one (instruction : Instruction) : Emitter :=
  fun _ slot => return ([instruction], slot)

/-- Writes one part after the other. -/
def append (first second : Emitter) : Emitter := fun start slot => do
  let (code, slot) ← first start slot
  let (more, slot) ← second (start + code.length) slot
  return (code ++ more, slot)

/-- Writes several parts. -/
def all (parts : List Emitter) : Emitter :=
  parts.foldr append nothing

/-- A part followed by one instruction that needs to know the addresses of both ends. -/
def followedBy (part : Emitter) (last : (start stop : Nat) → Instruction) : Emitter :=
  fun start slot => do
    let (code, slot) ← part start slot
    return (code ++ [last start (start + code.length)], slot)

/-- A part behind one instruction that needs to know where the part begins and what comes after
it. -/
def ledBy (first : (start stop : Nat) → Instruction) (part : Emitter) : Emitter :=
  fun start slot => do
    let (code, slot) ← part (start + 1) slot
    return (first (start + 1) (start + 1 + code.length) :: code, slot)

/-- The first of two parts, or the second one if that fails. -/
def either (preferred other : Emitter) : Emitter := fun start slot => do
  let (code, slot) ← preferred (start + 1) slot
  let middle := start + code.length + 2
  let (more, slot) ← other middle slot
  return (.fork (start + 1) middle :: code ++ .jump (middle + more.length) :: more, slot)

/-- One of several parts, the earlier ones preferred. -/
def anyOf : List Emitter → Emitter
  | [] => nothing
  | [part] => part
  | part :: parts => either part (anyOf parts)

/-- A fork that prefers to go on when greedy and to leave otherwise. -/
def choice (greedy : Bool) (onward away : Nat) : Instruction :=
  if greedy then .fork onward away else .fork away onward

/-- A part that may be left out. -/
def optional (greedy : Bool) (part : Emitter) : Emitter :=
  ledBy (choice greedy) part

/-- Any number of iterations. -/
def star (greedy : Bool) (part : Emitter) : Emitter := fun start =>
  ledBy (choice greedy) (part.followedBy fun _ _ => .jump start) start

/-- One or more iterations. -/
def plus (greedy : Bool) (part : Emitter) : Emitter :=
  part.followedBy fun start stop => choice greedy start (stop + 1)

/-- Iterations that are counted. -/
def counted (least : Nat) (most : Option Nat) (greedy : Bool) (part : Emitter) : Emitter :=
  fun start slot =>
    append (one (.reset slot))
      (ledBy (fun _ stop => .iterate slot least most greedy stop)
        (part.followedBy fun _ _ => .jump (start + 1)))
      start (slot + 1)

/-- Iterations of a part that may match the empty text. -/
def countedMoving (least : Nat) (greedy : Bool) (part : Emitter) : Emitter :=
  fun start slot =>
    append (one (.reset slot))
      (ledBy (fun _ stop => .iterateMoving slot (slot + 1) least greedy stop)
        (part.followedBy fun _ _ => .jump (start + 1)))
      start (slot + 2)

/-- A part after which the position is what it was before. -/
def staying (part : Emitter) : Emitter := fun start slot =>
  all [one (.mark slot), part, one (.restore slot)] start (slot + 1)

/-- Holds where a part does not match. -/
def refusing (part : Emitter) : Emitter :=
  ledBy .fork (append part (one .rejectLook))

/-- A lookaround around a part. -/
def looking (negated : Bool) (part : Emitter) : Emitter :=
  if negated then refusing part else staying part

/-- A part of which only the first way to match is kept. -/
def atomic (part : Emitter) : Emitter :=
  all [one .beginAtomic, part, one .endAtomic]

/-- A choice by a condition. Once the condition has matched, neither its other ways to match nor the
second branch are tried. -/
def conditional (condition yes no : Emitter) : Emitter :=
  append (one .beginAtomic)
    (either (all [condition, one .endAtomic, yes]) no)

end Emitter

/-- The automaton of several plain parts that follow each other, with what lies in front of them if
`reversed` is set. -/
def automatonOf (nodes : List Node) (reversed : Bool) (room : Nat) : Except Fault Automaton := do
  if nodes.any fun node => Node.maxPlainDepth < node.depth 1 then throw .nestedTooDeep
  let plain := Plain.ofItems (← Node.toPlainAll nodes)
  if !plain.takesAtMost room then throw .tooLarge
  return .ofPlain (if reversed then plain.reversed else plain)

/-- Plain parts that follow each other as one instruction. -/
def emitPlain (nodes : List Node) : Emitter := fun start slot => do
  if nodes.isEmpty then return ([], slot)
  let part ← automatonOf nodes false Footprint.limit
  Emitter.one (.plain part (Node.groupsOfAll nodes)) start slot

/-- Goes back to where the body of a lookbehind may start, and matches the body if it has not been
matched on the way. -/
def emitBehind (body : Node) (hard : Bool) (part : Emitter) : Emitter := fun start slot => do
  if body.hasFixedWidth then
    Emitter.append (.one (.goBack body.minWidth)) part start slot
  else if hard then throw .lookbehindNotFixed
  else
    let reversed ← automatonOf [body] true Footprint.lookbehindLimit
    let part ← automatonOf [body] false Footprint.limit
    Emitter.one (.goBackOver reversed part body.groups) start slot

namespace Node

mutual

/-- The instructions of a tree. -/
def emit (referenced : List Nat) (hard : Bool) : Node → Emitter
  | empty => .nothing
  | leaf parts depth => emitPlain [leaf parts depth]
  | assertion a => .one (.require a)
  | seq items =>
    if !hard && !anyHard referenced items then emitPlain [seq items]
    else
      let isPlain (item : Node) := !item.isHard referenced
      let isSettled (item : Node) := item.hasFixedWidth && isPlain item
      let first := items.takeWhile isSettled
      let rest := items.dropWhile isSettled
      let last := (rest.reverse.takeWhile (if hard then isSettled else isPlain)).reverse
      let middle := ((emitEach referenced true items).drop first.length).take
        (rest.length - last.length)
      .append (emitPlain first) (.append (.all middle) (emitPlain last))
  | alt branches =>
    if !hard && !anyHard referenced branches then emitPlain [alt branches]
    else .anyOf (emitEach referenced hard branches)
  | group number body =>
    if !hard && !(group number body).isHard referenced then emitPlain [group number body]
    else .all [.one (.mark (2 * number)), body.emit referenced hard,
      .one (.mark (2 * number + 1))]
  | repeated least most greedy body =>
    let isHard := body.isHard referenced
    if !hard && !isHard then emitPlain [repeated least most greedy body]
    else if least = 0 && most = some 1 then .optional greedy (body.emit referenced hard)
    else
      let part := body.emit referenced (hard || isHard)
      if most.isNone && body.minWidth = 0 then .countedMoving least greedy part
      else if most.isNone && least = 0 then .star greedy part
      else if most.isNone && least = 1 then .plus greedy part
      else .counted least most greedy part
  | look .ahead negated body => .looking negated (body.emit referenced false)
  | look .behind negated (alt branches) =>
    if (alt branches).hasFixedWidth then
      .looking negated
        (emitBehind (alt branches) (anyHard referenced branches)
          ((alt branches).emit referenced false))
    else
      let parts := branches.zip (emitEach referenced false branches) |>.map fun (branch, part) =>
        .looking negated (emitBehind branch (branch.isHard referenced) part)
      if negated then .all parts else .anyOf parts
  | look .behind negated body =>
    .looking negated
      (emitBehind body (body.isHard referenced) (body.emit referenced false))
  | atomic body => .atomic (body.emit referenced false)
  | backreference number ignoreCase _ _ => .one (.repeatGroup number ignoreCase)
  | keepOut => .one (.mark 0)
  | groupIsSet number => .one (.requireGroup number)
  | conditional condition yes no =>
    .conditional (condition.emit referenced hard) (yes.emit referenced hard)
      (no.emit referenced hard)

/-- The instructions of each of several trees. -/
def emitEach (referenced : List Nat) (hard : Bool) : List Node → List Emitter
  | [] => []
  | node :: nodes => node.emit referenced hard :: emitEach referenced hard nodes

end

/-- Whether a tree can only match at the start of the text. -/
def isAnchored : Node → Bool
  | group 0 body => body.isAnchored
  | assertion .textStart => true
  | seq (assertion .textStart :: _) => true
  | _ => false

end Node

/-- The instructions of an expression, and how many slots they use. -/
structure Program where
  code : Array Instruction
  slots : Nat
deriving DecidableEq, Repr

/-- A program for a tree in which group 0 stands for the whole match. Unless the tree can only match
at the start of the text, the program first leaves out as few characters as it can. -/
def Program.ofNode (expression : Expression) : Except Fault Program := do
  let start : Emitter :=
    if expression.node.isAnchored then .nothing
    else .star false (emitPlain [.ofSet (.anyChar true)])
  let (code, slots) ← Emitter.all
    [start, expression.node.emit expression.referenced false, .one .finish] 0 (2 * expression.groups + 2)
  return { code := code.toArray, slots }

end ScopeScanner.Regex
