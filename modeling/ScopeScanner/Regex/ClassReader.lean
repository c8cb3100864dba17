import ScopeScanner.Regex.Escape

/-!
# Bracketed classes

The text of a class is read in two passes. The first one finds where the class ends by counting
brackets, and replaces escapes by what they stand for; `classText` is its result. The second one,
`readClassText`, reads that text as a set: a union of characters, ranges, nested classes and named
ASCII classes, with `&&`, `--` and `~~` as binary operators of equal strength that associate to the
left.

The two passes need not agree on where the class ends: as the end of a range, an opening bracket
opens nothing. What then follows the class in its text is matched after it.
-/

namespace ScopeScanner.Regex

/-! ## The text of a class -/

/-- Whether a character needs a backslash to stand for itself in the text of a class. -/
def isClassOperator (c : Char) : Bool :=
  "\\.+*?()|[]\x7b\x7d^$#-&~".toList.contains c

/-- The text that makes a character stand for itself in a class. -/
def quoteInClass (c : Char) : List Char :=
  if isClassOperator c then ['\\', c] else [c]

/-- Reads the content of a class up to and with the bracket that closes it. `nesting` counts the
brackets that are open, and `fuel` is at least the length of the text. -/
def readClassContent (extended ignoreCase : Bool) : (fuel nesting : Nat) → List Char →
    Except Fault (List Char × List Char)
  | 0, _, _ => throw .outOfFuel
  | _ + 1, _, [] => throw .unclosedClass
  | fuel + 1, nesting, '\\' :: rest => do
    let (escape, rest) ← readClassEscape extended ignoreCase rest
    let text ← match escape with
      | .char c _ => pure (quoteInClass c)
      | .set _ text => pure text
      | _ => throw .notInClass
    let (content, rest) ← readClassContent extended ignoreCase fuel nesting rest
    return (text ++ content, rest)
  | fuel + 1, nesting, c :: rest => do
    if c = ']' && nesting ≤ 1 then return ([c], rest)
    let nesting := if c = '[' then nesting + 1 else if c = ']' then nesting - 1 else nesting
    let (content, rest) ← readClassContent extended ignoreCase fuel nesting rest
    return (c :: content, rest)

/-- The text of a class after its opening bracket, and what follows the class. A closing bracket
that comes first, or first after the negation, is an ordinary character. -/
def classText (extended ignoreCase : Bool) (text : List Char) :
    Except Fault (List Char × List Char) := do
  let (negation, text) := match text with
    | '^' :: rest => (['^'], rest)
    | _ => ([], text)
  let (bracket, text) := match text with
    | ']' :: rest => ([']'], rest)
    | _ => ([], text)
  let (content, rest) ← readClassContent extended ignoreCase (text.length + 1) 1 text
  return (negation ++ bracket ++ content, rest)

/-! ## Classes as sets -/

/-- The operators that combine the parts of a class. -/
inductive ClassOperator where
  | intersection
  | difference
  | symmetricDifference
deriving DecidableEq, Repr

/-- The set that an operator makes of its two sides. -/
def ClassOperator.apply : ClassOperator → CharSet → CharSet → CharSet
  | intersection => .intersection
  | difference => .difference
  | symmetricDifference => .symmetricDifference

/-- A set read from a class, and how deep the brackets and operators in it nest. -/
structure ClassPart where
  set : CharSet
  depth : Nat := 0

/-- A class while it is being read: the items since the last operator, and what stands to the left
of that operator. -/
structure ClassDraft where
  items : List ClassPart := []
  pending : Option (ClassPart × ClassOperator) := none

namespace ClassDraft

/-- Adds one item to the present union. -/
def add (draft : ClassDraft) (item : ClassPart) : ClassDraft :=
  { draft with items := item :: draft.items }

/-- The union of the items since the last operator. -/
def union (draft : ClassDraft) : ClassPart where
  set := CharSet.ofUnion (draft.items.reverse.map (·.set))
  depth :=
    let deepest := draft.items.foldl (fun depth item => max depth item.depth) 0
    if draft.items.length ≤ 1 then deepest else deepest + 1

/-- The set read so far. -/
def value (draft : ClassDraft) : ClassPart :=
  match draft.pending with
  | none => draft.union
  | some (left, operator) =>
    { set := operator.apply left.set draft.union.set
      depth := max left.depth draft.union.depth + 1 }

/-- Puts what was read so far on the left of an operator. -/
def operate (draft : ClassDraft) (operator : ClassOperator) : ClassDraft :=
  { pending := some (draft.value, operator) }

end ClassDraft

/-- Reads a named ASCII class such as `[:alpha:]` after its opening bracket. -/
def asciiClassAt? (ignoreCase : Bool) : List Char → Option (CharSet × List Char)
  | ':' :: rest =>
    let (negated, rest) := match rest with
      | '^' :: rest => (true, rest)
      | _ => (false, rest)
    match rest.dropWhile (· ≠ ':') with
    | ':' :: ']' :: after =>
      (CharSet.asciiClass? (String.ofList (rest.takeWhile (· ≠ ':')))).map fun set =>
        (CharSet.negateIf negated (.leaf ignoreCase set), after)
    | _ => none
  | _ => none

/-- What may stand at one end of a range. -/
inductive ClassItem where
  | char (c : Char)
  | set (set : CharSet)

/-- The set an item stands for on its own. -/
def ClassItem.alone (ignoreCase : Bool) : ClassItem → CharSet
  | char c => .leaf ignoreCase (.single c)
  | set s => s

/-- Reads a character or an escape. -/
def readClassItem (ignoreCase : Bool) : List Char → Except Fault (ClassItem × List Char)
  | '\\' :: c :: rest =>
    match setOf? c with
    | some set => return (.set set, rest)
    | none => do
      if c = 'p' || c = 'P' then
        let (set, rest) ← readProperty (c = 'P') ignoreCase rest
        return (.set set, rest)
      else return (.char c, rest)
  | c :: rest => return (.char c, rest)
  | [] => throw .unclosedClass

/-- Reads a character, a range or a set inside brackets. -/
def readClassRange (ignoreCase : Bool) (text : List Char) :
    Except Fault (CharSet × List Char) := do
  let (first, rest) ← readClassItem ignoreCase text
  match rest with
  | [] => throw .unclosedClass
  | '-' :: ']' :: _ | '-' :: '-' :: _ => return (first.alone ignoreCase, rest)
  | '-' :: rest =>
    match first, ← readClassItem ignoreCase rest with
    | .char low, (.char high, rest) =>
      if low ≤ high then return (.leaf ignoreCase (.range low high), rest)
      else throw .reversedRange
    | _, _ => throw .badRangeEnd
  | _ => return (first.alone ignoreCase, rest)

/-- Takes the hyphens a class starts with. -/
def leadingHyphens : List Char → List ClassPart × List Char
  | '-' :: rest =>
    let (items, rest) := leadingHyphens rest
    ({ set := .single '-' } :: items, rest)
  | rest => ([], rest)

mutual

/-- Reads a class after its opening bracket, up to and with its closing one. -/
def readClass (ignoreCase : Bool) : (fuel : Nat) → List Char →
    Except Fault (ClassPart × List Char)
  | 0, _ => throw .outOfFuel
  | fuel + 1, text => do
    let (negated, text) := match text with
      | '^' :: rest => (true, rest)
      | _ => (false, text)
    let (items, text) := leadingHyphens text
    let (items, text) := match items, text with
      | [], ']' :: rest => ([{ set := .single ']' }], rest)
      | _, _ => (items, text)
    let (content, rest) ← readClassBody ignoreCase fuel { items } text
    return ({ set := .negateIf negated content.set, depth := content.depth + 1 }, rest)

/-- Reads the items of a class up to and with its closing bracket. -/
def readClassBody (ignoreCase : Bool) : (fuel : Nat) → ClassDraft → List Char →
    Except Fault (ClassPart × List Char)
  | 0, _, _ => throw .outOfFuel
  | _ + 1, _, [] => throw .unclosedClass
  | fuel + 1, draft, '[' :: rest =>
    match asciiClassAt? ignoreCase rest with
    | some (set, rest) => readClassBody ignoreCase fuel (draft.add { set }) rest
    | none => do
      let (part, rest) ← readClass ignoreCase fuel rest
      readClassBody ignoreCase fuel (draft.add part) rest
  | _ + 1, draft, ']' :: rest => return (draft.value, rest)
  | fuel + 1, draft, '&' :: '&' :: rest =>
    readClassBody ignoreCase fuel (draft.operate .intersection) rest
  | fuel + 1, draft, '-' :: '-' :: rest =>
    readClassBody ignoreCase fuel (draft.operate .difference) rest
  | fuel + 1, draft, '~' :: '~' :: rest =>
    readClassBody ignoreCase fuel (draft.operate .symmetricDifference) rest
  | fuel + 1, draft, text => do
    let (set, rest) ← readClassRange ignoreCase text
    readClassBody ignoreCase fuel (draft.add { set }) rest

end

/-! ## What the text of a class matches -/

/-- Puts a quantifier on the last of several parts. -/
def quantifyLast (least : Nat) (most : Option Nat) (greedy : Bool) (parts : List Plain) :
    List Plain :=
  parts.dropLast ++ parts.getLast?.toList.map (Plain.repeat least most greedy)

/-- Reads what follows a class in its text: characters, sets, further classes, anchors, and simple
quantifiers of these. -/
def readAfterClass (ignoreCase : Bool) : (fuel : Nat) → (parts : List Plain) → (depth : Nat) →
    List Char → Except Fault (List Plain × Nat)
  | 0, _, _, _ => throw .outOfFuel
  | _ + 1, parts, depth, [] => return (parts, depth)
  | fuel + 1, parts, depth, c :: rest => do
    match c with
    | '[' =>
      let (part, rest) ← readClass ignoreCase (2 * rest.length + 2) rest
      readAfterClass ignoreCase fuel (parts ++ [.set part.set]) (max depth part.depth) rest
    | '*' | '+' | '?' =>
      let least := if c = '+' then 1 else 0
      let most := if c = '?' then some 1 else none
      match rest with
      | '?' :: rest =>
        readAfterClass ignoreCase fuel (quantifyLast least most false parts) (depth + 1) rest
      | _ => readAfterClass ignoreCase fuel (quantifyLast least most true parts) (depth + 1) rest
    | '.' => readAfterClass ignoreCase fuel (parts ++ [.set (.anyChar false)]) depth rest
    | '^' => readAfterClass ignoreCase fuel (parts ++ [.assertion .textStart]) depth rest
    | '$' => readAfterClass ignoreCase fuel (parts ++ [.assertion .textEnd]) depth rest
    | '(' | ')' | '|' | '\x7b' => throw .strayParenthesis
    | _ =>
      let (item, rest) ← readClassItem ignoreCase (c :: rest)
      readAfterClass ignoreCase fuel (parts ++ [.set (item.alone ignoreCase)]) depth rest

/-- The parts that the text of a class matches one after the other, and how deep they nest. The text
starts after the opening bracket. -/
def readClassText (ignoreCase : Bool) (text : List Char) : Except Fault (List Plain × Nat) := do
  let (part, rest) ← readClass ignoreCase (2 * text.length + 2) text
  let (parts, depth) ←
    readAfterClass ignoreCase (rest.length + 1) [.set part.set] part.depth rest
  if ignoreCase then return ([Plain.ofItems parts], depth + 1) else return (parts, depth)

end ScopeScanner.Regex
