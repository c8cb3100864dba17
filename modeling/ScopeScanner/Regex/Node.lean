import ScopeScanner.Regex.Fault
import ScopeScanner.Regex.Plain

/-!
# Pattern trees

The shape of a regular expression after reading. Parts without lookaround, atomic groups, references
and word boundaries have a plain expression, `Node.toPlain`; the other parts are called *hard*. A
group is also hard when something refers to it, since then the way in which it matched matters to
what follows.

`Node.minWidth` and `Node.hasFixedWidth` say how far a lookbehind has to go back.
-/

namespace ScopeScanner.Regex

/-- A regular expression. -/
inductive Node where
  | empty
  /-- An item that counts as one character wide: a literal, a set or a class. Its parts are matched
  one after the other; `depth` tells how deep its brackets nest. -/
  | leaf (parts : List Plain) (depth : Nat)
  | assertion (assertion : Assertion)
  | seq (items : List Node)
  /-- The earlier branches are preferred. -/
  | alt (branches : List Node)
  | group (number : Nat) (body : Node)
  /-- At least `least` and, if given, at most `most` iterations; `greedy` prefers more. -/
  | repeated (least : Nat) (most : Option Nat) (greedy : Bool) (body : Node)
  | look (direction : Direction) (negated : Bool) (body : Node)
  /-- Once the body has matched, its other ways to match are given up. -/
  | atomic (body : Node)
  /-- The text of a group again, up to case if `ignoreCase` is set, with what is known of its
  width where the reference stands. -/
  | backreference (number : Nat) (ignoreCase : Bool) (width : Nat) (fixed : Bool)
  /-- The match begins here, whatever was matched before. -/
  | keepOut
  /-- Holds where a group has been entered. -/
  | groupIsSet (number : Nat)
  | conditional (condition yes no : Node)
deriving Repr

namespace Node

/-- One item of the given set. -/
def ofSet (set : CharSet) : Node :=
  leaf [.set set] 0

/-- The item itself, or a sequence of several items. -/
def ofItems : List Node → Node
  | [] => empty
  | [item] => item
  | items => seq items

/-- The branch itself, or several of them. -/
def ofBranches : List Node → Node
  | [branch] => branch
  | branches => alt branches

def isEmpty : Node → Bool
  | empty => true
  | _ => false

/-- Whether a quantifier may follow: not after nothing or a lookaround. -/
def isRepeatable : Node → Bool
  | empty | look _ _ _ => false
  | _ => true

/-! ## Widths -/

mutual

/-- The least number of characters a match spans. -/
def minWidth : Node → Nat
  | empty | assertion _ | look _ _ _ | keepOut | groupIsSet _ => 0
  | leaf _ _ => 1
  | seq items => minWidthSum items
  | alt branches => (minWidthLeast branches).getD 0
  | group _ body => body.minWidth
  | repeated least _ _ body => least * body.minWidth
  | atomic body => body.minWidth
  | backreference _ _ width _ => width
  | conditional condition yes no => condition.minWidth + min yes.minWidth no.minWidth

/-- The least width of a sequence. -/
def minWidthSum : List Node → Nat
  | [] => 0
  | item :: items => item.minWidth + minWidthSum items

/-- The least width among branches. -/
def minWidthLeast : List Node → Option Nat
  | [] => none
  | branch :: branches =>
    match minWidthLeast branches with
    | none => some branch.minWidth
    | some width => some (min branch.minWidth width)

end

mutual

/-- Whether all matches span the same number of characters. -/
def hasFixedWidth : Node → Bool
  | empty | leaf _ _ | assertion _ | look _ _ _ | keepOut | groupIsSet _ => true
  | seq items => allFixed items
  | alt branches => allOfOneWidth branches
  | group _ body => body.hasFixedWidth
  | repeated least most _ body => body.hasFixedWidth && most = some least
  | atomic body => body.hasFixedWidth
  | backreference _ _ _ fixed => fixed
  | conditional condition yes no =>
    condition.hasFixedWidth && yes.hasFixedWidth && no.hasFixedWidth
      && condition.minWidth + yes.minWidth = no.minWidth

/-- Whether all items of a sequence have a fixed width. -/
def allFixed : List Node → Bool
  | [] => true
  | item :: items => item.hasFixedWidth && allFixed items

/-- Whether all branches have one fixed width. -/
def allOfOneWidth : List Node → Bool
  | [] => true
  | branch :: branches =>
    branch.hasFixedWidth && allOfOneWidth branches
      && (match branches with
        | [] => true
        | next :: _ => branch.minWidth = next.minWidth)

end

/-! ## Hard parts -/

mutual

/-- Whether a part cannot be run as a plain expression. `referenced` holds the numbers of the groups
that something refers to. -/
def isHard (referenced : List Nat) : Node → Bool
  | empty | leaf _ _ => false
  | assertion a => !a.isPlain
  | seq items => anyHard referenced items
  | alt branches => anyHard referenced branches
  | group number body => body.isHard referenced || referenced.contains number
  | repeated _ _ _ body => body.isHard referenced
  | look _ _ _ | atomic _ | backreference _ _ _ _ | keepOut | groupIsSet _
  | conditional _ _ _ => true

/-- Whether one of several parts is hard. -/
def anyHard (referenced : List Nat) : List Node → Bool
  | [] => false
  | node :: nodes => node.isHard referenced || anyHard referenced nodes

end

mutual

/-- The numbers of the groups in a tree, from left to right. -/
def groups : Node → List Nat
  | empty | leaf _ _ | assertion _ | backreference _ _ _ _ | keepOut | groupIsSet _ => []
  | seq items => groupsOfAll items
  | alt branches => groupsOfAll branches
  | group number body => number :: body.groups
  | repeated _ _ _ body => body.groups
  | look _ _ body => body.groups
  | atomic body => body.groups
  | conditional condition yes no => condition.groups ++ yes.groups ++ no.groups

/-- The numbers of the groups in several trees. -/
def groupsOfAll : List Node → List Nat
  | [] => []
  | node :: nodes => node.groups ++ groupsOfAll nodes

end

/-! ## Plain expressions -/

/-- The largest bound of a repetition in a plain expression. -/
def maxBound : Nat := 4294967295

/-- A repetition of a plain expression, if its bounds are in order and not too large. -/
def repeatPlain (least : Nat) (most : Option Nat) (greedy : Bool) (body : Plain) :
    Except Fault Plain :=
  if most.any (· < least) then throw .reversedBounds
  else if maxBound < least || most.any (maxBound < ·) then throw .boundTooLarge
  else return Plain.repeat least most greedy body

mutual

/-- The plain expression of a part that is not hard. A quantifier behind a leaf of several parts
belongs to the last of them. -/
def toPlain : Node → Except Fault Plain
  | empty => return .empty
  | leaf parts _ => return Plain.ofItems parts
  | assertion a => return .assertion a
  | seq items => return Plain.ofItems (← toPlainAll items)
  | alt branches => return Plain.ofBranches (← toPlainAll branches)
  | group number body => return .group number (← body.toPlain)
  | repeated least most greedy (leaf parts _) => do
    let last := Plain.ofItems (parts.drop (parts.length - 1))
    return Plain.ofItems (parts.dropLast ++ [← repeatPlain least most greedy last])
  | repeated least most greedy body => do
    repeatPlain least most greedy (← body.toPlain)
  | _ => throw .notPlain

/-- The plain expressions of several parts. -/
def toPlainAll : List Node → Except Fault (List Plain)
  | [] => return []
  | node :: nodes => return (← node.toPlain) :: (← toPlainAll nodes)

end

/-! ## Nesting -/

/-- How deep a plain part may nest. -/
def maxPlainDepth : Nat := 250

mutual

/-- How deep a plain part nests. `within` ranks what surrounds it: 0 for nothing, 1 for a branch, 2
for an item of a sequence, 3 for the body of a repetition. A part that would be torn apart by what
surrounds it has parentheses, which count as a level of their own. -/
def depth (within : Nat) : Node → Nat
  | leaf _ depth => depth
  | assertion .lineStart | assertion .lineEnd => 1
  | seq items => depthOfAll 2 items + (if 1 < within then 2 else 1)
  | alt branches => depthOfAll 1 branches + (if 0 < within then 2 else 1)
  | group _ body => body.depth 0 + 1
  | repeated _ _ _ body => body.depth 3 + (if 2 < within then 2 else 1)
  | _ => 0

/-- The largest depth among several parts. -/
def depthOfAll (within : Nat) : List Node → Nat
  | [] => 0
  | node :: nodes => max (node.depth within) (depthOfAll within nodes)

end

end Node

/-- A regular expression: its tree, the number of its groups, and the groups that something refers
to. -/
structure Expression where
  node : Node
  groups : Nat
  referenced : List Nat
deriving Repr

namespace Expression

/-- The expression with its whole match as group 0. A lookahead that comes last is matched as if it
were not one, after the group: nothing that follows could tell the difference. -/
def withWhole (expression : Expression) : Expression :=
  let node := match expression.node with
    | .seq items =>
      match items.getLast? with
      | some (.look .ahead false body) => .seq [.group 0 (.seq items.dropLast), body]
      | _ => .group 0 expression.node
    | node => .group 0 node
  { expression with node }

end Expression

end ScopeScanner.Regex
