import ScopeScanner.Regex.ClassReader

/-!
# Reading regular expressions

A recursive-descent reader over characters. It goes from alternatives to branches, pieces and
atoms, and from a parenthesis back to alternatives. Every step passes on the text that is left
and a `Progress`, which holds the flags in force, the number of groups opened so far and what is
known of them. The `fuel` argument only bounds the depth of the calls; `readExpression` hands out more of
it than any text can use.
-/

namespace ScopeScanner.Regex

/-- The flags in force at a point of a regular expression. -/
structure Flags where
  /-- Letters match up to case. -/
  ignoreCase : Bool := false
  /-- The anchors also hold around line feeds. -/
  multiline : Bool := false
  /-- The dot also matches a line feed. -/
  dotAll : Bool := false
  /-- Quantifiers prefer fewer repetitions unless marked. -/
  swapGreed : Bool := false
  /-- Blanks and comments are skipped. -/
  extended : Bool := false
deriving DecidableEq, Repr

/-- What is known of a group that has been closed. -/
structure ClosedGroup where
  number : Nat
  width : Nat
  fixed : Bool
deriving DecidableEq, Repr

/-- What the reader has to remember. -/
structure Progress where
  flags : Flags := {}
  /-- Number of groups opened so far. -/
  groups : Nat := 0
  /-- Names of groups with their numbers, the latest first. -/
  names : List (String × Nat) := []
  /-- The groups closed so far, the latest first. -/
  closed : List ClosedGroup := []
  /-- The numbers of the groups that have been referred to, also of such as come later. -/
  referenced : List Nat := []
  /-- Whether a group has been referred to by its number. -/
  numericReference : Bool := false
deriving Repr

/-- The result of reading one part: a tree, the text that is left and what to remember. -/
abbrev Read := Except Fault (Node × List Char × Progress)

/-- How deep parentheses may nest. -/
def maxNesting : Nat := 64

/-- Drops what may stand between two tokens under the flags in force. -/
def Progress.skip (progress : Progress) (text : List Char) : Except Fault (List Char) :=
  skipBlanks progress.flags.extended text

/-- One literal character under the flags in force. -/
def Progress.literal (progress : Progress) (c : Char) : Node :=
  .ofSet (.leaf progress.flags.ignoreCase (.single c))

/-- The quantifier at the start of a text, if there is one. -/
def readQuantifier? (progress : Progress) : List Char → Option (Nat × Option Nat × List Char)
  | '?' :: rest => some (0, some 1, rest)
  | '*' :: rest => some (0, none, rest)
  | '+' :: rest => some (1, none, rest)
  | '\x7b' :: rest => readBounds? progress.flags.extended rest
  | _ => none

/-- Applies the quantifiers that follow a piece: bounds, a mark for fewer repetitions, and a mark
for giving up alternatives. -/
def quantify (progress : Progress) (node : Node) (text : List Char) : Read := do
  let text ← progress.skip text
  match readQuantifier? progress text with
  | none => return (node, text, progress)
  | some (least, most, text) =>
    if !node.isRepeatable then throw .nothingToRepeat
    let text ← progress.skip text
    let (marked, text) := match text with
      | '?' :: rest => (true, rest)
      | _ => (false, text)
    let node := .repeated least most (marked == progress.flags.swapGreed) node
    match text with
    | '+' :: rest => return (.atomic node, rest, progress)
    | _ => return (node, text, progress)

/-! ## References to groups -/

/-- Refers to a group, which may come later. -/
def Progress.refer (progress : Progress) (number : Nat) : Node × Progress :=
  let (width, fixed) := match progress.closed.find? (·.number = number) with
    | some group => (group.width, group.fixed)
    | none => (0, false)
  (.backreference number progress.flags.ignoreCase width fixed,
    { progress with referenced := number :: progress.referenced })

/-- Refers to a group by its number. -/
def Progress.referToNumber (progress : Progress) (number : Nat) : Node × Progress :=
  { progress with numericReference := true }.refer number

/-- Refers to a group by its name, which may also be a number. -/
def Progress.referToName (progress : Progress) (name : String) : Except Fault (Node × Progress) :=
  match progress.names.lookup name with
  | some number => return progress.refer number
  | none =>
    if name.toList.all Char.isDigit then
      match number? name.toList with
      | some number => return progress.refer number
      | none => throw .unknownGroup
    else throw .unknownGroup

/-- The tree an escape stands for outside brackets. -/
def Progress.escape (progress : Progress) : Escape → Except Fault (Node × Progress)
  | .char c folds =>
    return (.ofSet (.leaf (folds && progress.flags.ignoreCase) (.single c)), progress)
  | .set set _ => return (.ofSet set, progress)
  | .assertion a => return (.assertion a, progress)
  | .keepOut => return (.keepOut, progress)
  | .group number => return progress.referToNumber number
  | .namedGroup name => progress.referToName name
  | .groupAhead distance => return progress.refer (progress.groups + distance)
  | .groupBehind distance => return progress.refer (progress.groups + 1 - distance)

/-! ## Parentheses -/

/-- How the content of a parenthesis is to be taken. -/
inductive Opening where
  | capture (name : Option String)
  | look (direction : Direction) (negated : Bool)
  | atomic
  /-- Flags for the rest of the enclosing scope. -/
  | setFlags (flags : Flags)
  /-- Flags for the content alone. -/
  | scoped (flags : Flags)
  /-- The text of a named group again. -/
  | reference (name : String)
  /-- A choice that depends on a condition. -/
  | conditional

/-- The flags with one of them switched on or off. -/
def Flags.switch? (flags : Flags) (letter : Char) (on : Bool) : Option Flags :=
  match letter with
  | 'i' => some { flags with ignoreCase := on }
  | 'm' => some { flags with multiline := on }
  | 's' => some { flags with dotAll := on }
  | 'U' => some { flags with swapGreed := on }
  | 'x' => some { flags with extended := on }
  | 'u' => if on then some flags else none
  | _ => none

/-- Reads flags up to a parenthesis or a colon. `on` says whether no minus sign has been met, and
`length` is the number of characters where the flags start, by which a lone minus sign and missing
flags are told. A flag for the extended syntax counts from the next character on. `fuel` is at least
the length of the text. -/
def readFlags (length : Nat) :
    (fuel : Nat) → Flags → (on : Bool) → List Char → Except Fault (Opening × List Char)
  | 0, _, _, _ => throw .outOfFuel
  | fuel + 1, flags, on, text => do
    match ← skipBlanks flags.extended text with
    | [] => throw .unclosedGroup
    | c :: rest =>
      let consumed := length - (rest.length + 1)
      let bareMinus := !on && consumed = 1
      if c = ')' then
        if consumed = 0 || bareMinus then throw .unknownFlag else return (.setFlags flags, rest)
      else if c = ':' then
        if bareMinus then throw .unknownFlag else return (.scoped flags, rest)
      else if c = '-' then
        if on then readFlags length fuel flags false rest else throw .unknownFlag
      else match flags.switch? c on with
        | some flags => readFlags length fuel flags on rest
        | none => throw .unknownFlag

/-- Reads what follows an opening parenthesis up to the content. -/
def readOpening (flags : Flags) : List Char → Except Fault (Opening × List Char)
  | '?' :: '=' :: rest => return (.look .ahead false, rest)
  | '?' :: '!' :: rest => return (.look .ahead true, rest)
  | '?' :: '<' :: '=' :: rest => return (.look .behind false, rest)
  | '?' :: '<' :: '!' :: rest => return (.look .behind true, rest)
  | '?' :: '<' :: rest => do
    let (name, rest) ← readName '<' '>' ('<' :: rest)
    return (.capture (some name), rest)
  | '?' :: '\'' :: rest => do
    let (name, rest) ← readName '\'' '\'' ('\'' :: rest)
    return (.capture (some name), rest)
  | '?' :: 'P' :: '<' :: rest => do
    let (name, rest) ← readName '<' '>' ('<' :: rest)
    return (.capture (some name), rest)
  | '?' :: 'P' :: '=' :: rest => do
    let (name, rest) ← readName '=' ')' ('=' :: rest)
    return (.reference name, rest)
  | '?' :: '>' :: rest => return (.atomic, rest)
  | '?' :: '(' :: rest => return (.conditional, rest)
  | '?' :: rest => readFlags rest.length (rest.length + 1) flags true rest
  | text => return (.capture none, text)

/-- Consumes the parenthesis that closes a group. -/
def readClosing (progress : Progress) (text : List Char) : Except Fault (List Char) := do
  match ← progress.skip text with
  | ')' :: rest => return rest
  | [] => throw .unclosedGroup
  | _ => throw .strayParenthesis

/-- Reads a condition that names a group, if the text starts with one. -/
def readGroupCondition? (progress : Progress) (text : List Char) : Option Read :=
  let named (opening closing : Char) : Read := do
    let (escape, rest) ← readReference opening closing text
    let (node, progress) ← progress.escape escape
    return (node, rest, progress)
  match text with
  | '\'' :: _ => some (named '\'' '\'')
  | '<' :: _ => some (named '<' '>')
  | c :: _ =>
    if c.isDigit then
      some <| match readDecimal? text with
        | some (number, rest) =>
          let (node, progress) := progress.referToNumber number
          return (node, rest, progress)
        | none => throw .unknownGroup
    else none
  | [] => none

/-- The tree for a condition and the choice that depends on it. A reference to a group holds as a
condition where the group has been entered. -/
def conditionalOf (condition choice : Node) : Node :=
  let condition := match condition with
    | .backreference number _ _ _ => .groupIsSet number
    | condition => condition
  let (yes, no) : Node × Node := match choice with
    | .alt (yes :: branches) => (yes, Node.ofBranches branches)
    | choice => (choice, .empty)
  if yes.isEmpty && no.isEmpty then condition else .conditional condition yes no

/-- The condition alone, which has to be a reference to a group. -/
def bareCondition : Node → Except Fault Node
  | .backreference number _ _ _ => return .groupIsSet number
  | _ => throw .emptyConditional

mutual

/-- Reads alternatives separated by bars. -/
def readAlternatives : (fuel depth : Nat) → Progress → List Char → Read
  | 0, _, _, _ => throw .outOfFuel
  | fuel + 1, depth, progress, text => do
    let (first, text, progress) ← readBranch fuel depth progress [] text
    let text ← progress.skip text
    match text with
    | '|' :: _ => readFurther fuel depth progress [first] text
    | _ =>
      if progress.numericReference && !progress.names.isEmpty then throw .mixedReferences
      return (first, text, progress)

/-- Reads the alternatives after the first; `branches` holds the earlier ones, last first. -/
def readFurther : (fuel depth : Nat) → Progress → (branches : List Node) → List Char → Read
  | 0, _, _, _, _ => throw .outOfFuel
  | fuel + 1, depth, progress, branches, text => do
    match text with
    | '|' :: rest =>
      let (branch, rest, progress) ← readBranch fuel depth progress [] rest
      let rest ← progress.skip rest
      readFurther fuel depth progress (branch :: branches) rest
    | _ => return (Node.ofBranches branches.reverse, text, progress)

/-- Reads a sequence of pieces; `items` holds the earlier ones, last first. -/
def readBranch : (fuel depth : Nat) → Progress → (items : List Node) → List Char → Read
  | 0, _, _, _, _ => throw .outOfFuel
  | fuel + 1, depth, progress, items, text => do
    if text.isEmpty then return (Node.ofItems items.reverse, text, progress)
    let (item, rest, progress) ← readPiece fuel depth progress text
    if rest.length = text.length then return (Node.ofItems items.reverse, text, progress)
    let items := if item.isEmpty then items else item :: items
    readBranch fuel depth progress items rest

/-- Reads an atom with its quantifiers. -/
def readPiece : (fuel depth : Nat) → Progress → List Char → Read
  | 0, _, _, _ => throw .outOfFuel
  | fuel + 1, depth, progress, text => do
    let (atom, rest, progress) ← readAtom fuel depth progress text
    quantify progress atom rest

/-- Reads a single item, which is empty where a quantifier, a bar or a parenthesis stands. -/
def readAtom : (fuel depth : Nat) → Progress → List Char → Read
  | 0, _, _, _ => throw .outOfFuel
  | fuel + 1, depth, progress, text => do
    match ← progress.skip text with
    | [] => return (.empty, [], progress)
    | c :: rest =>
      match c with
      | '.' => return (.ofSet (.anyChar progress.flags.dotAll), rest, progress)
      | '^' =>
        return (.assertion (if progress.flags.multiline then .lineStart else .textStart), rest, progress)
      | '$' =>
        return (.assertion (if progress.flags.multiline then .lineEnd else .textEnd), rest, progress)
      | '(' => readGroup fuel (depth + 1) progress rest
      | '\\' =>
        let (escape, rest) ← readEscape progress.flags.extended progress.flags.ignoreCase rest
        let (node, progress) ← progress.escape escape
        return (node, rest, progress)
      | '+' | '*' | '?' | '|' | ')' => return (.empty, c :: rest, progress)
      | '[' =>
        let (content, rest) ← classText progress.flags.extended progress.flags.ignoreCase rest
        let (parts, nesting) ← readClassText progress.flags.ignoreCase content
        return (.leaf parts nesting, rest, progress)
      | _ => return (progress.literal c, rest, progress)

/-- Reads a parenthesis after its opening. -/
def readGroup : (fuel depth : Nat) → Progress → List Char → Read
  | 0, _, _, _ => throw .outOfFuel
  | fuel + 1, depth, progress, text => do
    if maxNesting ≤ depth then throw .nestedTooDeep
    let text ← progress.skip text
    let (opening, text) ← readOpening progress.flags text
    match opening with
    | .setFlags flags => return (.empty, text, { progress with flags })
    | .scoped flags =>
      let (body, text, inner) ← readAlternatives fuel depth { progress with flags } text
      match text with
      | ')' :: rest => return (body, rest, { inner with flags := progress.flags })
      | [] => throw .unclosedGroup
      | _ => throw .strayParenthesis
    | .reference name =>
      let (node, progress) ← progress.referToName name
      return (node, text, progress)
    | .capture name =>
      let number := progress.groups + 1
      let names := match name with
        | some name => (name, number) :: progress.names
        | none => progress.names
      let (body, text, progress) ←
        readAlternatives fuel depth { progress with groups := number, names } text
      let group : ClosedGroup := { number, width := body.minWidth, fixed := body.hasFixedWidth }
      return (.group number body, ← readClosing progress text,
        { progress with closed := group :: progress.closed })
    | .look direction negated =>
      let (body, text, progress) ← readAlternatives fuel depth progress text
      return (.look direction negated body, ← readClosing progress text, progress)
    | .atomic =>
      let (body, text, progress) ← readAlternatives fuel depth progress text
      return (.atomic body, ← readClosing progress text, progress)
    | .conditional =>
      let (condition, text, progress) ← match readGroupCondition? progress text with
        | some read => read
        | none => readAlternatives fuel depth progress text
      let text ← readClosing progress text
      let (choice, rest, progress) ← readAlternatives fuel depth progress text
      let node ← if rest.length = text.length then bareCondition condition
        else pure (conditionalOf condition choice)
      return (node, ← readClosing progress rest, progress)

end

/-- Reads a regular expression. Every group that is referred to has to be there in the end. -/
def readExpression (text : List Char) : Except Fault Expression := do
  let (node, rest, progress) ← readAlternatives (8 * text.length + 16) 0 {} text
  if !rest.isEmpty then throw .strayParenthesis
  if progress.referenced.any fun number => number = 0 || progress.groups < number then
    throw .unknownGroup
  return { node, groups := progress.groups, referenced := progress.referenced }

end ScopeScanner.Regex
