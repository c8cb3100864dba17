import ScopeScanner.Regex.Plain

/-!
# How much room an expression takes

A plain expression is refused when its automaton over the bytes of UTF-8 would take more than ten
mebibytes. Such an automaton holds one state for each byte of a literal and for each fork. A set
with characters outside ASCII takes a tree of byte ranges: its ranges of code points are cut into
rows of byte ranges, and rows share their common beginnings.

Walking through all code points to learn the ranges of a set takes time. A generous estimate
settles most expressions without it.
-/

namespace ScopeScanner.Regex

/-- A range of bytes or code points, both ends included. -/
abbrev CodeRange := Nat × Nat

namespace Footprint

/-- The most bytes an automaton may take. -/
def limit : Nat := 10 * 1024 * 1024

/-- The most bytes an automaton may take that runs backwards from the end of a lookbehind. -/
def lookbehindLimit : Nat := 77449 * 32

/-- The bytes of one state. -/
def stateSize : Nat := 32

/-! ## Ranges of code points -/

/-- Whether a code point is the number of a member of a set. -/
def hasCode (set : CharSet) (code : Nat) : Bool :=
  if code < 0xD800 || (0xE000 ≤ code && code < 0x110000) then set.contains (Char.ofNat code)
  else false

/-- The ranges of code points of a set from `code` on, the last one first; `left` code points are
left to look at. -/
def rangesFrom (set : CharSet) : (left code : Nat) → List CodeRange → List CodeRange
  | 0, _, ranges => ranges
  | left + 1, code, ranges =>
    if hasCode set code then
      match ranges with
      | (first, last) :: rest =>
        if last + 1 = code then rangesFrom set left (code + 1) ((first, code) :: rest)
        else rangesFrom set left (code + 1) ((code, code) :: ranges)
      | [] => rangesFrom set left (code + 1) [(code, code)]
    else rangesFrom set left (code + 1) ranges

/-- The ranges of code points of a set in ascending order. -/
def ranges (set : CharSet) : List CodeRange :=
  (rangesFrom set 0x110000 0 []).reverse

/-! ## Rows of byte ranges -/

/-- The bytes of the UTF-8 form of a code point. -/
def bytesOf (code : Nat) : List Nat :=
  if code < 0x80 then [code]
  else if code < 0x800 then [0xC0 + code / 0x40, 0x80 + code % 0x40]
  else if code < 0x10000 then
    [0xE0 + code / 0x1000, 0x80 + code / 0x40 % 0x40, 0x80 + code % 0x40]
  else
    [0xF0 + code / 0x40000, 0x80 + code / 0x1000 % 0x40, 0x80 + code / 0x40 % 0x40,
      0x80 + code % 0x40]

/-- Where a range has to be cut so that its code points have the same number of bytes and each byte
varies freely: the end of the first part. -/
def cut? (range : CodeRange) : Option Nat :=
  let (first, last) := range
  match [0x7F, 0x7FF, 0xFFFF].find? fun bound => first ≤ bound && bound < last with
  | some bound => some bound
  | none =>
    if last < 0x80 then none
    else [0x40, 0x1000, 0x40000].findSome? fun size =>
      if first / size = last / size then none
      else if first % size ≠ 0 then some (first / size * size + size - 1)
      else if last % size ≠ size - 1 then some (last / size * size - 1)
      else none

/-- The rows of byte ranges of a range of code points. Each cut leaves fewer code points, and
`fuel` exceeds the number of cuts that one range can need. -/
def rows : (fuel : Nat) → CodeRange → List (List CodeRange)
  | 0, _ => []
  | fuel + 1, (first, last) =>
    match cut? (first, last) with
    | some stop => rows fuel (first, stop) ++ rows fuel (stop + 1, last)
    | none => [(bytesOf first).zip (bytesOf last)]

/-- The length of the common beginning of two rows. -/
def commonLength : List CodeRange → List CodeRange → Nat
  | a :: as, b :: bs => if a = b then commonLength as bs + 1 else 0
  | _, _ => 0

/-- The number of nodes of the tree that rows in ascending order make up. -/
def nodeCount : (previous : List CodeRange) → List (List CodeRange) → Nat
  | _, [] => 0
  | previous, row :: rest => (row.length - commonLength previous row) + nodeCount row rest

/-! ## Sizes -/

/-- The bytes a set of characters takes. -/
def ofSet (set : CharSet) : Nat :=
  let found := ranges set
  match found with
  | [] => stateSize
  | [(first, last)] =>
    if first = last then stateSize * (bytesOf first).length else ofRanges found
  | _ => ofRanges found
where
  /-- The bytes that a set with several members takes. -/
  ofRanges (found : List CodeRange) : Nat :=
    if found.all (·.2 < 0x80) then 2 * stateSize + 8 * found.length
    else
      let found := found.flatMap (rows 32)
      2 * stateSize + 4 * found.length + stateSize * nodeCount [] found

/-- At least the number of ranges of a set; 100 for one given by a table. -/
def rangeBound : CharSet → Nat
  | .nothing => 0
  | .single _ | .range _ _ => 1
  | .complement set => rangeBound set + 2
  | .union left right | .intersection left right | .difference left right
  | .symmetricDifference left right => rangeBound left + rangeBound right
  | .property _ | .word | .decimal | .blank | .folded _ => 100

/-- At least the bytes a set of characters takes. No range takes more than 64 states, and no table
makes up a set that takes more than a hundred such ranges. -/
def estimate (set : CharSet) : Nat :=
  4 * stateSize + 64 * stateSize * min (rangeBound set) 100

/-- The bytes an expression takes when each set takes what `ofSet` says. -/
def measure (ofSet : CharSet → Nat) : Plain → Nat
  | .empty | .assertion _ => stateSize
  | .set set => ofSet set
  | .seq first second => measure ofSet first + measure ofSet second
  | .alt preferred other => measure ofSet preferred + measure ofSet other + 2 * stateSize + 8
  | .group _ body => measure ofSet body + 2 * stateSize
  | .repeated least most _ body =>
    let size := measure ofSet body
    match most with
    | some most => least * size + (most - least) * (size + stateSize + 8) + stateSize
    | none => max least 1 * size + 2 * stateSize + 16

end Footprint

/-- Whether the automaton of an expression takes at most so many bytes. -/
def Plain.takesAtMost (plain : Plain) (bytes : Nat) : Bool :=
  Footprint.measure Footprint.estimate plain ≤ bytes
    || Footprint.measure Footprint.ofSet plain ≤ bytes

end ScopeScanner.Regex
