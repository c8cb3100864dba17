import ScopeScanner.Diff.Tidy

/-!
# Unified diffs

A diff shows the changes of a script in hunks: changes with up to three lines in front of and behind
them that are kept. Changes with at most six kept lines between them share a hunk. A hunk starts
with a header that gives the place of its lines in the old and the new list, and each line is marked
as kept, removed or added; what is removed comes before what is added.
-/

namespace ScopeScanner.Diff

/-- The lines of a text with their line ends. A carriage return ends a line as well, unless a line
feed follows it. -/
def lines : List Char → List (List Char)
  | [] => []
  | '\r' :: '\n' :: rest => ['\r', '\n'] :: lines rest
  | c :: rest =>
    if c = '\n' || c = '\r' then [c] :: lines rest
    else match lines rest with
      | [] => [[c]]
      | line :: more => (c :: line) :: more

/-- A part of a script between two changes, or a change. A change keeps the places that are noted for
the first of its removals and of its additions. -/
inductive Block where
  | same (lines : List String)
  | change (removed added : List String) (removedSpot addedSpot : Nat)
deriving DecidableEq, Repr

namespace Block

/-- Number of lines of the block in the old list. -/
def oldSize : Block → Nat
  | same lines => lines.length
  | change removed _ _ _ => removed.length

/-- Number of lines of the block in the new list. -/
def newSize : Block → Nat
  | same lines => lines.length
  | change _ added _ _ => added.length

/-- Whether the block is a change. -/
def isChange : Block → Bool
  | same _ => false
  | change _ _ _ _ => true

end Block

/-- Joins runs into blocks. -/
def blocks : Script → List Block
  | [] => []
  | .keep lines :: rest =>
    match blocks rest with
    | .same more :: rest => .same (lines ++ more) :: rest
    | rest => .same lines :: rest
  | .remove lines spot :: rest =>
    match blocks rest with
    | .change removed added _ addedSpot :: rest =>
      .change (lines ++ removed) added spot addedSpot :: rest
    | rest => .change lines [] spot 0 :: rest
  | .add lines spot :: rest =>
    match blocks rest with
    | .change removed added removedSpot _ :: rest =>
      .change removed (lines ++ added) removedSpot spot :: rest
    | rest => .change [] lines 0 spot :: rest

/-- A range of places in a list, the end excluded. -/
structure PlaceRange where
  start : Nat
  stop : Nat
deriving DecidableEq, Repr

/-- A block with its ranges in the old and the new list. -/
structure Placed where
  block : Block
  old : PlaceRange
  new : PlaceRange
deriving DecidableEq, Repr

/-- Gives a block its ranges, where the block starts at the given places. Removals alone have an empty
range in the new list, at the place that is noted for them, and so have additions alone in the old
list. -/
def Placed.ofBlock (oldPlace newPlace : Nat) (block : Block) : Placed :=
  let old : PlaceRange := ⟨oldPlace, oldPlace + block.oldSize⟩
  let new : PlaceRange := ⟨newPlace, newPlace + block.newSize⟩
  match block with
  | .change _ [] spot _ => { block, old, new := ⟨spot, spot⟩ }
  | .change [] _ _ spot => { block, old := ⟨spot, spot⟩, new }
  | _ => { block, old, new }

/-- Gives blocks their ranges. -/
def placed (oldPlace newPlace : Nat) : List Block → List Placed
  | [] => []
  | block :: rest =>
    .ofBlock oldPlace newPlace block ::
      placed (oldPlace + block.oldSize) (newPlace + block.newSize) rest

/-- How many kept lines are shown in front of and behind a change. -/
def context : Nat := 3

namespace Placed

/-- Kept lines as far as they are shown behind a change. -/
def opening (part : Placed) : Placed :=
  match part.block with
  | .same lines =>
    let lines := lines.take context
    { block := .same lines
      old := ⟨part.old.start, part.old.start + lines.length⟩
      new := ⟨part.new.start, part.new.start + lines.length⟩ }
  | _ => part

/-- Kept lines as far as they are shown in front of a change. -/
def closing (part : Placed) : Placed :=
  match part.block with
  | .same lines =>
    let lines := lines.drop (lines.length - context)
    { block := .same lines
      old := ⟨part.old.stop - lines.length, part.old.stop⟩
      new := ⟨part.new.stop - lines.length, part.new.stop⟩ }
  | _ => part

/-- Whether the block keeps so many lines that no hunk shows all of them. -/
def isWide (part : Placed) : Bool :=
  match part.block with
  | .same lines => 2 * context < lines.length
  | _ => false

end Placed

/-- Blocks that are shown together. -/
abbrev Hunk := List Placed

/-- Shares blocks among hunks. `hunk` is the hunk that is being filled, last block first. -/
def gather (hunk : Hunk) : List Placed → List Hunk
  | [] => [hunk.reverse]
  | part :: rest =>
    if part.isWide then (part.opening :: hunk).reverse :: gather [part.closing] rest
    else gather (part :: hunk) rest

/-- Shortens the kept lines that a list of blocks starts and ends with. -/
def trim (parts : List Placed) : List Placed :=
  match parts with
  | [] => []
  | first :: rest =>
    let parts := first.closing :: rest
    parts.dropLast ++ parts.getLast?.toList.map Placed.opening

/-- The hunks of a script. -/
def hunks (script : Script) : List Hunk :=
  (gather [] (trim (placed 0 0 (blocks script)))).filter fun hunk => hunk.any (·.block.isChange)

/-- The range between two places in a list. A single line is given without a count, and an empty
range is placed at the line in front of it. -/
def PlaceRange.text (range : PlaceRange) : List Char :=
  let count := range.stop - range.start
  if count = 1 then Nat.toDigits 10 (range.start + 1)
  else
    Nat.toDigits 10 (if count = 0 then range.start else range.start + 1)
      ++ ',' :: Nat.toDigits 10 count

/-- What follows a line that has no line end. -/
def missingLineEnd : List Char :=
  "\n\\ No newline at end of file\n".toList

/-- A line with its mark. -/
def lineText (mark : Char) (line : String) : List Char :=
  let ended := line.toList.getLast?.any fun c => c = '\n' || c = '\r'
  mark :: line.toList ++ if ended then [] else missingLineEnd

/-- The lines of a block with their marks. -/
def Block.text : Block → List Char
  | same lines => lines.flatMap (lineText ' ')
  | change removed added _ _ =>
    removed.flatMap (lineText '-') ++ added.flatMap (lineText '+')

/-- A hunk with its header, whose ranges go from the start of the first block to the end of the last
one. -/
def Hunk.text (hunk : Hunk) : List Char :=
  let range (side : Placed → PlaceRange) : PlaceRange :=
    ⟨hunk.head?.elim 0 fun part => (side part).start,
      hunk.getLast?.elim 0 fun part => (side part).stop⟩
  "@@ -".toList ++ (range Placed.old).text ++ " +".toList ++ (range Placed.new).text
    ++ " @@\n".toList ++ hunk.flatMap (·.block.text)

/-- The unified diff between two texts; empty if they are equal. -/
def unified (oldName newName : String) (old new : String) : String :=
  let split (text : String) := (lines text.toList).map String.ofList
  match hunks (script (split old) (split new)) with
  | [] => ""
  | hunks =>
    "--- " ++ oldName ++ "\n+++ " ++ newName ++ "\n" ++ String.ofList (hunks.flatMap Hunk.text)

end ScopeScanner.Diff
