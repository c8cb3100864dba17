import ScopeScanner.Yaml.Scalar

/-!
# Tokens of YAML texts

A text is cut into tokens before its structure is looked at. Indentation becomes tokens as well: a
block collection starts where a dash or a key stands further to the right than the collection around
it, and ends where a line starts further to the left.

Whether something is a key is known only when the colon after it is met. Every place where a key may
start is kept as a candidate until then, one for each level of brackets; when the colon comes, the
token that marks a key is put in front of it. A key has to stand on one line and must not be longer
than 1024 characters.
-/

namespace ScopeScanner.Yaml

/-- A piece of a YAML text. -/
inductive Token where
  | version (major minor : Nat)
  /-- The definition of a handle for tags. -/
  | tagHandle (handle expansion : String)
  | documentStart
  | documentEnd
  | blockSequenceStart
  | blockMappingStart
  | blockEnd
  | flowSequenceStart
  | flowSequenceEnd
  | flowMappingStart
  | flowMappingEnd
  | blockEntry
  | flowEntry
  | key
  | value
  | alias (name : String)
  | anchor (name : String)
  | tag (handle suffix : String)
  | scalar (text : String) (plain : Bool)
deriving DecidableEq, Repr

/-- A place where a key may have started. -/
structure KeyCandidate where
  /-- Number of tokens in front of it. -/
  position : Nat
  index : Nat
  line : Nat
  column : Nat
  /-- Whether nothing but a key may stand there. -/
  required : Bool

/-- How many characters a key may have. -/
def maxKeyLength : Nat := 1024

/-- A text that has been cut into tokens up to a cursor. -/
structure Lexer where
  cursor : Cursor
  tokens : Array Token := #[]
  /-- Columns of the block collections that are open, the innermost first. -/
  indents : List Nat := []
  /-- Whether a key may start here. -/
  keyAllowed : Bool := true
  /-- The candidate outside of all brackets. -/
  outerKey : Option KeyCandidate := none
  /-- Candidates inside the brackets that are open, the innermost first. -/
  flowKeys : List (Option KeyCandidate) := []

namespace Lexer

/-- Whether the cursor is inside brackets. -/
def inFlow (lexer : Lexer) : Bool :=
  !lexer.flowKeys.isEmpty

/-- The candidate at the present level of brackets. -/
def candidate (lexer : Lexer) : Option KeyCandidate :=
  lexer.flowKeys.headD lexer.outerKey

/-- Sets the candidate at the present level of brackets. -/
def setCandidate (lexer : Lexer) (candidate : Option KeyCandidate) : Lexer :=
  match lexer.flowKeys with
  | [] => { lexer with outerKey := candidate }
  | _ :: rest => { lexer with flowKeys := candidate :: rest }

/-- Adds a token. -/
def emit (lexer : Lexer) (token : Token) : Lexer :=
  { lexer with tokens := lexer.tokens.push token }

/-- Inserts a token after the first `position` tokens. -/
def emitAt (lexer : Lexer) (position : Nat) (token : Token) : Lexer :=
  { lexer with tokens := lexer.tokens.extract 0 position ++ #[token] ++
      lexer.tokens.extract position lexer.tokens.size }

/-- Adds a token that is written with `count` characters. -/
def emitMark (lexer : Lexer) (token : Token) (count : Nat) : Lexer :=
  { lexer.emit token with cursor := lexer.cursor.advance count }

/-- Gives up the candidate, which must not be a required one. -/
def dropCandidate (lexer : Lexer) : Option Lexer :=
  if lexer.candidate.any (·.required) then none else some (lexer.setCandidate none)

/-- Makes the cursor a candidate if a key may start here. -/
def saveCandidate (lexer : Lexer) : Option Lexer :=
  if lexer.keyAllowed then
    let cursor := lexer.cursor
    let candidate : KeyCandidate := {
      position := lexer.tokens.size
      index := cursor.index
      line := cursor.line
      column := cursor.column
      required := !lexer.inFlow && lexer.indents.head? = some cursor.column }
    lexer.dropCandidate.map (·.setCandidate (some candidate))
  else some lexer

/-- Starts a block collection if the column is further to the right than the innermost one. -/
def indentTo (lexer : Lexer) (column position : Nat) (token : Token) : Lexer :=
  if lexer.inFlow then lexer
  else if lexer.indents.head?.all (· < column) then
    { lexer.emitAt position token with indents := column :: lexer.indents }
  else lexer

/-- Ends the block collections that start to the right of a column. -/
def unindentTo (lexer : Lexer) (column : Nat) : Lexer :=
  if lexer.inFlow then lexer
  else
    let ended := lexer.indents.takeWhile (column < ·)
    { lexer with
      indents := lexer.indents.drop ended.length
      tokens := lexer.tokens ++ (Array.replicate ended.length .blockEnd) }

/-- Ends all block collections. -/
def unindent (lexer : Lexer) : Lexer :=
  if lexer.inFlow then lexer
  else
    { lexer with
      indents := []
      tokens := lexer.tokens ++ (Array.replicate lexer.indents.length .blockEnd) }

/-- Passes over blanks, comments and line ends. A tab is a blank only where no key may start, and a
byte order mark only at the start of a line. -/
def skipToToken : (fuel : Nat) → Lexer → Lexer
  | 0, lexer => lexer
  | fuel + 1, lexer =>
    let tabs := lexer.inFlow || !lexer.keyAllowed
    let cursor := lexer.cursor
    let cursor := if cursor.column = 0 && cursor.sees '\uFEFF' then cursor.advance 1 else cursor
    let cursor := (cursor.takeWhile fun c => c = ' ' || (tabs && c = '\t')).2.skipComment
    match cursor.takeBreak? with
    | some (_, next) =>
      skipToToken fuel { lexer with cursor := next, keyAllowed := lexer.keyAllowed || !lexer.inFlow }
    | none => { lexer with cursor }

/-- A number in decimal digits. -/
def readNumber (cursor : Cursor) : Option (Nat × Cursor) :=
  let (digits, next) := cursor.takeWhile Char.isDigit
  if digits.isEmpty || 9 < digits.length then none
  else some (digits.foldl (fun n c => n * 10 + (c.toNat - '0'.toNat)) 0, next)

/-- Whether a character may stand in a tag as it is. -/
def isTagChar (verbatim : Bool) (c : Char) : Bool :=
  isNameChar c || [';', '/', '?', ':', '@', '&', '=', '+', '$', '.', '!', '~', '*', '\'', '(',
    ')'].contains c || (verbatim && (c = ',' || c = '[' || c = ']'))

/-- Reads a byte written as a percent sign and two hexadecimal digits. -/
def readOctet : List Char → Option (Nat × List Char)
  | '%' :: a :: b :: rest => do
    return (16 * (← Json.hexDigit? a) + (← Json.hexDigit? b), rest)
  | _ => none

/-- Reads the further bytes of a character, given the bits of those before. -/
def readTrail : (count bits : Nat) → List Char → Option (Nat × List Char)
  | 0, bits, text => some (bits, text)
  | count + 1, bits, text => do
    let (octet, rest) ← readOctet text
    if octet / 0x40 = 2 then readTrail count (bits * 0x40 + octet % 0x40) rest else none

/-- Reads a character whose bytes in UTF-8 are written in hexadecimal digits. -/
def readEscapedChar (text : List Char) : Option (Char × List Char) := do
  let (octet, rest) ← readOctet text
  let (code, rest) ←
    if octet < 0x80 then some (octet, rest)
    else if octet / 0x20 = 6 then readTrail 1 (octet % 0x20) rest
    else if octet / 0x10 = 14 then readTrail 2 (octet % 0x10) rest
    else if octet / 8 = 30 then readTrail 3 (octet % 8) rest
    else none
  return (if code.isValidChar then Char.ofNat code else '\uFFFD', rest)

/-- Reads the characters of a tag as far as they go. `fuel` is at least the length of the text. -/
def readTagChars (verbatim : Bool) : (fuel : Nat) → List Char → Option (List Char × List Char)
  | 0, text => some ([], text)
  | fuel + 1, text =>
    match text with
    | '%' :: _ => do
      let (c, rest) ← readEscapedChar text
      let (chars, rest) ← readTagChars verbatim fuel rest
      return (c :: chars, rest)
    | c :: rest =>
      if isTagChar verbatim c then do
        let (chars, rest) ← readTagChars verbatim fuel rest
        return (c :: chars, rest)
      else some ([], text)
    | [] => some ([], [])

/-- Reads a tag or a part of one. -/
def readTagText (verbatim : Bool) (cursor : Cursor) : Option (String × Cursor) := do
  let (chars, rest) ← readTagChars verbatim cursor.rest.length cursor.rest
  return (String.ofList chars, cursor.advance (cursor.rest.length - rest.length))

/-- Reads a tag handle: an exclamation mark, or a name between two of them. -/
def readHandle (directive : Bool) (cursor : Cursor) : Option (List Char × Cursor) :=
  if !cursor.sees '!' then none
  else
    let (name, next) := (cursor.advance 1).takeWhile isNameChar
    if next.sees '!' then some ('!' :: (name ++ ['!']), next.advance 1)
    else if directive && !name.isEmpty then none
    else some ('!' :: name, next)

/-- Reads a directive, which fills a line that starts with a percent sign. -/
def readDirective (cursor : Cursor) : Option (Token × Cursor) := do
  let (name, cursor) := (cursor.advance 1).takeWhile isNameChar
  if name.isEmpty || !startsBlank cursor.rest then none
  let cursor := cursor.skipBlanks
  let (token, cursor) ← match String.ofList name with
    | "YAML" => do
      let (major, cursor) ← readNumber cursor
      if !cursor.sees '.' then none
      let (minor, cursor) ← readNumber (cursor.advance 1)
      pure (Token.version major minor, cursor)
    | "TAG" => do
      let (handle, cursor) ← readHandle true cursor
      if !cursor.peek?.any isBlank then none
      let (expansion, cursor) ← readTagText true cursor.skipBlanks
      if expansion.isEmpty || !startsBlank cursor.rest then none
      pure (Token.tagHandle (String.ofList handle) expansion, cursor)
    | _ => none
  let cursor := cursor.skipBlanks.skipComment
  if cursor.atLineEnd then return (token, cursor) else none

/-- Reads the name of an anchor or an alias. -/
def readName (cursor : Cursor) : Option (String × Cursor) :=
  let (name, next) := (cursor.advance 1).takeWhile isNameChar
  let ends := startsBlank next.rest ||
    next.peek?.any fun c => ['?', ':', ',', ']', '\x7d', '%', '@', '`'].contains c
  if name.isEmpty || !ends then none else some (String.ofList name, next)

/-- Reads a tag. -/
def readTag (inFlow : Bool) (cursor : Cursor) : Option (Token × Cursor) := do
  let (token, cursor) ←
    if (cursor.advance 1).sees '<' then do
      let (uri, next) ← readTagText true (cursor.advance 2)
      if uri.isEmpty || !next.sees '>' then none
      pure (Token.tag "" uri, next.advance 1)
    else do
      let (handle, next) ← readHandle false cursor
      let (suffix, next) ← readTagText false next
      if 2 ≤ handle.length && handle.getLast? = some '!' then
        if suffix.isEmpty then none
        pure (Token.tag (String.ofList handle) suffix, next)
      else if handle.length = 1 && suffix.isEmpty then pure (Token.tag "" "!", next)
      else pure (Token.tag "!" (String.ofList (handle.drop 1) ++ suffix), next)
  if startsBlank cursor.rest || (inFlow && cursor.sees ',') then return (token, cursor) else none

/-- Reads a mark at the start of a line that belongs to no document. -/
def documentMark (lexer : Lexer) (token : Token) (cursor : Cursor) : Option Lexer := do
  let lexer ← lexer.unindent.dropCandidate
  return { lexer.emit token with cursor, keyAllowed := false }

/-- Reads an opening bracket. -/
def openFlow (lexer : Lexer) (token : Token) : Option Lexer := do
  let lexer ← lexer.saveCandidate
  return { lexer.emitMark token 1 with flowKeys := none :: lexer.flowKeys, keyAllowed := true }

/-- Reads a closing bracket. -/
def closeFlow (lexer : Lexer) (token : Token) : Option Lexer := do
  let lexer ← lexer.dropCandidate
  return { lexer.emitMark token 1 with flowKeys := lexer.flowKeys.drop 1, keyAllowed := false }

/-- Reads a dash or a question mark, which may start a block collection. -/
def blockMark (lexer : Lexer) (start token : Token) (keyAllowed : Bool) : Option Lexer := do
  if !lexer.inFlow && !lexer.keyAllowed then none
  let lexer ← (lexer.indentTo lexer.cursor.column lexer.tokens.size start).dropCandidate
  return { lexer.emitMark token 1 with keyAllowed }

/-- Reads a colon without a key in front of it. -/
def bareValue (lexer : Lexer) : Option Lexer := do
  if !lexer.inFlow && !lexer.keyAllowed then none
  let lexer := lexer.indentTo lexer.cursor.column lexer.tokens.size .blockMappingStart
  return { lexer.emitMark .value 1 with keyAllowed := !lexer.inFlow }

/-- Reads a colon. If the candidate is still good it becomes a key. -/
def valueMark (lexer : Lexer) : Option Lexer :=
  let cursor := lexer.cursor
  match lexer.candidate with
  | some candidate =>
    if candidate.line = cursor.line && cursor.index ≤ candidate.index + maxKeyLength then
      let lexer := lexer.emitAt candidate.position .key
      let lexer := lexer.indentTo candidate.column candidate.position .blockMappingStart
      some { (lexer.setCandidate none).emitMark .value 1 with keyAllowed := false }
    else if candidate.required then none
    else (lexer.setCandidate none).bareValue
  | none => lexer.bareValue

/-- Adds a token that may be a key and has been read up to a cursor. -/
def emitNode (lexer : Lexer) (token : Token) (cursor : Cursor) : Option Lexer := do
  let lexer ← lexer.saveCandidate
  return { lexer.emit token with cursor, keyAllowed := false }

/-- Reads a text in quotes. -/
def quoted (lexer : Lexer) (quote : Char) : Option Lexer := do
  let cursor := lexer.cursor.advance 1
  let (text, next) ← readQuoted quote (cursor.rest.length + 1) cursor []
  lexer.emitNode (.scalar (String.ofList text) false) next

/-- Reads a block of lines. -/
def block (lexer : Lexer) (folded : Bool) : Option Lexer := do
  let lexer ← lexer.dropCandidate
  let (text, cursor) ← readBlock folded lexer.indents.head? (lexer.cursor.advance 1)
  return { lexer.emit (.scalar (String.ofList text) false) with cursor, keyAllowed := true }

/-- Reads a plain text. -/
def plain (lexer : Lexer) : Option Lexer := do
  let cursor := lexer.cursor
  let indent := lexer.indents.head?.elim 0 (· + 1)
  let (plain, next) ← readPlain lexer.inFlow indent cursor.rest.length cursor {} []
  let lexer ← lexer.emitNode (.scalar (String.ofList plain.text) true) next
  return { lexer with keyAllowed := plain.broken }

/-- Characters that cannot start a plain text. -/
def indicators : List Char :=
  ['-', '?', ':', ',', '[', ']', '\x7b', '\x7d', '#', '&', '*', '!', '|', '>', '\'', '"', '%', '@',
    '`']

/-- Whether a plain text may start here. A dash, a question mark and a colon may start one if no
blank follows them, the latter two only outside of brackets. -/
def startsPlain (lexer : Lexer) (c : Char) (rest : List Char) : Bool :=
  if c = '-' then !rest.head?.any isBlank
  else if c = '?' || c = ':' then !lexer.inFlow && !startsBlank rest
  else !isBlank c && !isBreak c && !indicators.contains c

/-- Reads the next token, which starts with the character `c`. -/
def next (lexer : Lexer) (c : Char) (rest : List Char) : Option Lexer :=
  let cursor := lexer.cursor
  if cursor.column = 0 && c = '%' then do
    let (token, next) ← readDirective cursor
    lexer.documentMark token next
  else if cursor.atMarker '-' then lexer.documentMark .documentStart (cursor.advance 3)
  else if cursor.atMarker '.' then lexer.documentMark .documentEnd (cursor.advance 3)
  else if c = '[' then lexer.openFlow .flowSequenceStart
  else if c = '\x7b' then lexer.openFlow .flowMappingStart
  else if c = ']' then lexer.closeFlow .flowSequenceEnd
  else if c = '\x7d' then lexer.closeFlow .flowMappingEnd
  else if c = ',' then do
    let lexer ← lexer.dropCandidate
    return { lexer.emitMark .flowEntry 1 with keyAllowed := true }
  else if c = '-' && startsBlank rest then
    lexer.blockMark .blockSequenceStart .blockEntry true
  else if c = '?' && (lexer.inFlow || startsBlank rest) then
    lexer.blockMark .blockMappingStart .key (!lexer.inFlow)
  else if c = ':' && (lexer.inFlow || startsBlank rest) then lexer.valueMark
  else if c = '*' then do
    let (name, next) ← readName cursor
    lexer.emitNode (.alias name) next
  else if c = '&' then do
    let (name, next) ← readName cursor
    lexer.emitNode (.anchor name) next
  else if c = '!' then do
    let (token, next) ← readTag lexer.inFlow cursor
    lexer.emitNode token next
  else if c = '|' && !lexer.inFlow then lexer.block false
  else if c = '>' && !lexer.inFlow then lexer.block true
  else if c = '\'' || c = '"' then lexer.quoted c
  else if lexer.startsPlain c rest then lexer.plain
  else none

/-- Reads the tokens that are left. Every token takes at least one character. -/
def run : (fuel : Nat) → Lexer → Option (List Token)
  | 0, _ => none
  | fuel + 1, lexer =>
    let lexer := lexer.skipToToken (lexer.cursor.rest.length + 1)
    match lexer.cursor.rest with
    | [] => lexer.unindent.dropCandidate.map (·.tokens.toList)
    | c :: rest => do run fuel (← (lexer.unindentTo lexer.cursor.column).next c rest)

end Lexer

/-- The tokens of a text. -/
def tokens (text : String) : Option (List Token) :=
  let chars := text.toList
  if chars.all isPrintable then Lexer.run (chars.length + 1) { cursor := { rest := chars } }
  else none

end ScopeScanner.Yaml
