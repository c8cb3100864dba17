import ScopeScanner.Yaml.Token

/-!
# Structure of YAML texts

The nodes that the tokens of a text form: texts, sequences and mappings, each with an anchor by which
it can be referred to and a tag that says how it is meant. A node that is left out counts as an empty
plain text. A text holds at most one document.
-/

namespace ScopeScanner.Yaml

/-- What can be written in front of a node. -/
structure Properties where
  anchor : Option String := none
  tag : Option String := none

/-- A node. -/
inductive Node where
  /-- What the node with an anchor stands for. -/
  | alias (name : String)
  | scalar (properties : Properties) (text : String) (plain : Bool)
  | sequence (properties : Properties) (items : List Node)
  | mapping (properties : Properties) (entries : List (Node × Node))

/-- A node that has been left out. -/
def Node.missing (properties : Properties) : Node :=
  .scalar properties "" true

mutual

/-- The number of marks that make up a node: a collection has one at its start and one at its end. -/
def Node.size : Node → Nat
  | .alias _ | .scalar _ _ _ => 1
  | .sequence _ items => sizeOfItems items + 2
  | .mapping _ entries => sizeOfEntries entries + 2

/-- The number of marks in the items of a sequence. -/
def sizeOfItems : List Node → Nat
  | [] => 0
  | item :: rest => item.size + sizeOfItems rest

/-- The number of marks in the entries of a mapping. -/
def sizeOfEntries : List (Node × Node) → Nat
  | [] => 0
  | (key, value) :: rest => key.size + value.size + sizeOfEntries rest

end

/-- Handles for tags and what they stand for. -/
abbrev TagHandles := List (String × String)

/-- The handles that are always known. -/
def standardHandles : TagHandles :=
  [("!", "!"), ("!!", "tag:yaml.org,2002:")]

/-- The tag that a handle and a suffix stand for. -/
def expandTag (handles : TagHandles) (handle suffix : String) : Option String :=
  if handle.isEmpty then some suffix
  else (handles.lookup handle).map (· ++ suffix)

/-- Reads an anchor and a tag, in either order. -/
def readProperties (handles : TagHandles) : List Token → Option (Properties × List Token)
  | .anchor name :: .tag handle suffix :: rest | .tag handle suffix :: .anchor name :: rest => do
    return ({ anchor := name, tag := ← expandTag handles handle suffix }, rest)
  | .anchor name :: rest => some ({ anchor := name }, rest)
  | .tag handle suffix :: rest => do return ({ tag := ← expandTag handles handle suffix }, rest)
  | rest => some ({}, rest)

/-- Whether a node is left out in a block sequence. -/
def endsBlockItem : List Token → Bool
  | .blockEntry :: _ | .blockEnd :: _ => true
  | _ => false

/-- Whether a node is left out in a sequence that is not indented. -/
def endsInlineItem : List Token → Bool
  | .blockEntry :: _ | .key :: _ | .value :: _ | .blockEnd :: _ => true
  | _ => false

/-- Whether a node is left out in a block mapping. -/
def endsBlockEntry : List Token → Bool
  | .key :: _ | .value :: _ | .blockEnd :: _ => true
  | _ => false

/-- Whether the part of an entry is left out in brackets that end with `close`. -/
def endsFlowPart (close : Token) : List Token → Bool
  | .flowEntry :: _ => true
  | token :: _ => token = close
  | [] => false

/-- Passes over the comma between two items in brackets. -/
def nextFlowItem (first : Bool) (tokens : List Token) : Option (List Token) :=
  if first then some tokens
  else match tokens with
    | .flowEntry :: rest => some rest
    | _ => none

mutual

/-- Reads a node. Block collections are read only where they may stand, and a sequence that is not
indented only as a part of a mapping. Each level takes a token or hands over to one that does, so
twice the number of tokens is enough fuel. -/
def readNode (handles : TagHandles) :
    (fuel : Nat) → (inBlock inMapping : Bool) → List Token → Option (Node × List Token)
  | 0, _, _, _ => none
  | fuel + 1, inBlock, inMapping, tokens =>
    match tokens with
    | .alias name :: rest => some (.alias name, rest)
    | _ => do
      let (properties, tokens) ← readProperties handles tokens
      match tokens with
      | .scalar text plain :: rest =>
        return (.scalar properties text (plain && properties.tag.isNone), rest)
      | .flowSequenceStart :: rest =>
        let (items, rest) ← readFlowItems handles fuel true rest
        return (.sequence properties items, rest)
      | .flowMappingStart :: rest =>
        let (entries, rest) ← readFlowEntries handles fuel true rest
        return (.mapping properties entries, rest)
      | .blockEntry :: _ =>
        if inMapping then
          let (items, rest) ← readInlineItems handles fuel tokens
          return (.sequence properties items, rest)
        else left properties tokens
      | .blockSequenceStart :: rest =>
        if inBlock then
          let (items, rest) ← readBlockItems handles fuel rest
          return (.sequence properties items, rest)
        else left properties tokens
      | .blockMappingStart :: rest =>
        if inBlock then
          let (entries, rest) ← readBlockEntries handles fuel rest
          return (.mapping properties entries, rest)
        else left properties tokens
      | _ => left properties tokens
where
  /-- A node may be left out after an anchor or a tag. -/
  left (properties : Properties) (tokens : List Token) : Option (Node × List Token) :=
    if properties.anchor.isSome || properties.tag.isSome then
      some (.missing properties, tokens)
    else none

/-- Reads the items of a block sequence. -/
def readBlockItems (handles : TagHandles) :
    (fuel : Nat) → List Token → Option (List Node × List Token)
  | 0, _ => none
  | fuel + 1, .blockEntry :: rest => do
    let (item, rest) ←
      if endsBlockItem rest then pure (.missing {}, rest)
      else readNode handles fuel true false rest
    let (items, rest) ← readBlockItems handles fuel rest
    return (item :: items, rest)
  | _ + 1, .blockEnd :: rest => some ([], rest)
  | _ + 1, _ => none

/-- Reads the items of a sequence that is not indented. -/
def readInlineItems (handles : TagHandles) :
    (fuel : Nat) → List Token → Option (List Node × List Token)
  | 0, _ => none
  | fuel + 1, .blockEntry :: rest => do
    let (item, rest) ←
      if endsInlineItem rest then pure (.missing {}, rest)
      else readNode handles fuel true false rest
    let (items, rest) ← readInlineItems handles fuel rest
    return (item :: items, rest)
  | _ + 1, rest => some ([], rest)

/-- Reads the entries of a block mapping. -/
def readBlockEntries (handles : TagHandles) :
    (fuel : Nat) → List Token → Option (List (Node × Node) × List Token)
  | 0, _ => none
  | fuel + 1, .key :: rest => do
    let (key, rest) ←
      if endsBlockEntry rest then pure (.missing {}, rest)
      else readNode handles fuel true true rest
    let (value, rest) ← match rest with
      | .value :: rest =>
        if endsBlockEntry rest then pure (.missing {}, rest)
        else readNode handles fuel true true rest
      | _ => pure (.missing {}, rest)
    let (entries, rest) ← readBlockEntries handles fuel rest
    return ((key, value) :: entries, rest)
  | _ + 1, .blockEnd :: rest => some ([], rest)
  | _ + 1, _ => none

/-- Reads the items of a sequence in brackets. A key and a value without braces are a mapping of
their own. -/
def readFlowItems (handles : TagHandles) :
    (fuel : Nat) → (first : Bool) → List Token → Option (List Node × List Token)
  | 0, _, _ => none
  | _ + 1, _, .flowSequenceEnd :: rest => some ([], rest)
  | fuel + 1, first, tokens => do
    match ← nextFlowItem first tokens with
    | .flowSequenceEnd :: rest => return ([], rest)
    | .key :: rest =>
      let (entry, rest) ← readFlowEntry handles fuel .flowSequenceEnd rest
      let (items, rest) ← readFlowItems handles fuel false rest
      return (.mapping {} [entry] :: items, rest)
    | rest =>
      let (item, rest) ← readNode handles fuel false false rest
      let (items, rest) ← readFlowItems handles fuel false rest
      return (item :: items, rest)

/-- Reads a key and its value in brackets that end with `close`. -/
def readFlowEntry (handles : TagHandles) :
    (fuel : Nat) → (close : Token) → List Token → Option ((Node × Node) × List Token)
  | 0, _, _ => none
  | fuel + 1, close, tokens => do
    let (key, rest) ←
      if endsFlowPart close tokens || tokens.head? = some .value then pure (.missing {}, tokens)
      else readNode handles fuel false false tokens
    match rest with
    | .value :: rest =>
      if endsFlowPart close rest then return ((key, .missing {}), rest)
      let (value, rest) ← readNode handles fuel false false rest
      return ((key, value), rest)
    | _ => return ((key, .missing {}), rest)

/-- Reads the entries of a mapping in braces. -/
def readFlowEntries (handles : TagHandles) :
    (fuel : Nat) → (first : Bool) → List Token → Option (List (Node × Node) × List Token)
  | 0, _, _ => none
  | _ + 1, _, .flowMappingEnd :: rest => some ([], rest)
  | fuel + 1, first, tokens => do
    match ← nextFlowItem first tokens with
    | .flowMappingEnd :: rest => return ([], rest)
    | .key :: rest =>
      let (entry, rest) ← readFlowEntry handles fuel .flowMappingEnd rest
      let (entries, rest) ← readFlowEntries handles fuel false rest
      return (entry :: entries, rest)
    | rest =>
      let (key, rest) ← readNode handles fuel false false rest
      let (entries, rest) ← readFlowEntries handles fuel false rest
      return ((key, .missing {}) :: entries, rest)

end

/-- What directives may stand in front of a document. -/
structure Directives where
  version : Bool := false
  handles : TagHandles := []

/-- Reads the directives in front of a document. A version must be 1.1 or 1.2 and is given once, and
so is every handle. -/
def readDirectives : List Token → Directives → Option (Directives × List Token)
  | .version major minor :: rest, directives =>
    if directives.version || major ≠ 1 || (minor ≠ 1 && minor ≠ 2) then none
    else readDirectives rest { directives with version := true }
  | .tagHandle handle expansion :: rest, directives =>
    if (directives.handles.lookup handle).isSome then none
    else readDirectives rest { directives with handles := (handle, expansion) :: directives.handles }
  | rest, directives => some (directives, rest)

/-- Whether the content of a document is left out. -/
def endsDocument : List Token → Bool
  | [] | .documentStart :: _ | .documentEnd :: _ | .version _ _ :: _ | .tagHandle _ _ :: _ => true
  | _ => false

/-- Reads the content of a document. -/
def readContent (handles : TagHandles) (tokens : List Token) : Option (Node × List Token) :=
  readNode (handles ++ standardHandles) (2 * tokens.length + 2) true false tokens

/-- Reads the first document of a text. -/
def readDocument (tokens : List Token) : Option (Node × List Token) :=
  match tokens with
  | [] => some (.missing {}, [])
  | .version _ _ :: _ | .tagHandle _ _ :: _ | .documentStart :: _ => do
    let (directives, rest) ← readDirectives tokens {}
    match rest with
    | .documentStart :: rest =>
      if endsDocument rest then return (.missing {}, rest)
      readContent directives.handles rest
    | _ => none
  | _ => readContent [] tokens

/-- Reads a text with at most one document. -/
def readSingle (text : String) : Option Node := do
  let (node, rest) ← readDocument (← tokens text)
  if rest.all (· = .documentEnd) then return node else none

end ScopeScanner.Yaml
