import ScopeScanner.Json.Reader
import ScopeScanner.Yaml.Cursor

/-!
# Scalars in YAML texts

The four ways of writing a text: plain, in single quotes, in double quotes, and as a block of lines.
In the first three a text may go over several lines; a single line end then counts as a blank, and
of several line ends all but the first are kept. Blocks keep their line ends, or fold them in the
same way if they start with `>`.
-/

namespace ScopeScanner.Yaml

/-- What stands between two words of a text that may go over several lines. -/
structure Gap where
  /-- Blanks in front of the first line end. -/
  blanks : List Char := []
  /-- Whether there is a line end. -/
  broken : Bool := false
  /-- The first line end, unless it is escaped. -/
  firstBreak : Option Char := none
  /-- The line ends after the first. -/
  moreBreaks : List Char := []

/-- What a gap counts for. -/
def Gap.text (gap : Gap) : List Char :=
  if gap.broken then
    match gap.firstBreak with
    | some '\n' => if gap.moreBreaks.isEmpty then [' '] else gap.moreBreaks
    | some c => c :: gap.moreBreaks
    | none => gap.moreBreaks
  else gap.blanks

/-- Reads the rest of a gap. After a line end no tab may stand in front of column `indent`. Each step
takes at least one character, so the length of the text is enough fuel. -/
def readGap (indent : Nat) : (fuel : Nat) → Cursor → Gap → Option (Gap × Cursor)
  | 0, cursor, gap => some (gap, cursor)
  | fuel + 1, cursor, gap =>
    match cursor.takeBreak? with
    | some (c, next) =>
      if gap.broken then readGap indent fuel next { gap with moreBreaks := gap.moreBreaks ++ [c] }
      else readGap indent fuel next { broken := true, firstBreak := some c }
    | none =>
      match cursor.peek? with
      | some c =>
        if !isBlank c then some (gap, cursor)
        else if gap.broken then
          if c = '\t' && cursor.column < indent then none
          else readGap indent fuel (cursor.advance 1) gap
        else readGap indent fuel (cursor.advance 1) { gap with blanks := gap.blanks ++ [c] }
      | none => some (gap, cursor)

/-- Whether a character ends a plain text inside brackets. -/
def isFlowIndicator (c : Char) : Bool :=
  c = ',' || c = '[' || c = ']' || c = '\x7b' || c = '\x7d'

/-- The next word of a plain text, up to a blank or a character that ends the text. Inside brackets a
colon must not stand in front of another indicator. -/
def plainWord (inFlow : Bool) : List Char → Option (List Char)
  | [] => some []
  | c :: rest =>
    if isBlank c || isBreak c then some []
    else if inFlow && c = ':' && rest.head?.any fun d => d = '?' || isFlowIndicator d then none
    else if c = ':' && startsBlank rest then some []
    else if inFlow && isFlowIndicator c then some []
    else (plainWord inFlow rest).map (c :: ·)

/-- A plain text, and whether a line end follows it. -/
structure Plain where
  text : List Char := []
  broken : Bool := false

/-- Reads the rest of a plain text, whose lines are indented at least to column `indent`. -/
def readPlain (inFlow : Bool) (indent : Nat) :
    (fuel : Nat) → Cursor → Gap → (text : List Char) → Option (Plain × Cursor)
  | 0, cursor, gap, text => some (⟨text, gap.broken⟩, cursor)
  | fuel + 1, cursor, gap, text =>
    if cursor.atDocumentMarker || cursor.sees '#' then some (⟨text, gap.broken⟩, cursor)
    else do
      let word ← plainWord inFlow cursor.rest
      if word.isEmpty then return (⟨text, gap.broken⟩, cursor)
      let text := text ++ gap.text ++ word
      let cursor := cursor.advance word.length
      if cursor.atEnd || !startsBlank cursor.rest then return (⟨text, false⟩, cursor)
      let (gap, cursor) ← readGap indent cursor.rest.length cursor {}
      if !inFlow && cursor.column < indent then return (⟨text, gap.broken⟩, cursor)
      readPlain inFlow indent fuel cursor gap text

/-- What a backslash and a letter stand for. -/
def escape? : Char → Option Char
  | '0' => some '\x00'
  | 'a' => some '\x07'
  | 'b' => some '\x08'
  | 't' | '\t' => some '\t'
  | 'n' => some '\n'
  | 'v' => some '\x0B'
  | 'f' => some '\x0C'
  | 'r' => some '\r'
  | 'e' => some '\x1B'
  | ' ' => some ' '
  | '"' => some '"'
  | '/' => some '/'
  | '\\' => some '\\'
  | 'N' => some '\u0085'
  | '_' => some '\u00A0'
  | 'L' => some '\u2028'
  | 'P' => some '\u2029'
  | _ => none

/-- How many hexadecimal digits follow a backslash and a letter. -/
def escapeDigits? : Char → Option Nat
  | 'x' => some 2
  | 'u' => some 4
  | 'U' => some 8
  | _ => none

/-- The character with a code. -/
def characterOf? (code : Nat) : Option Char :=
  if code.isValidChar then some (Char.ofNat code) else none

/-- Reads an escape after its backslash: the character, and how many characters it takes. -/
def readEscape (text : List Char) : Option (Char × Nat) := do
  let letter ← text.head?
  match escape? letter with
  | some c => return (c, 1)
  | none =>
    let count ← escapeDigits? letter
    let digits := (text.drop 1).take count
    if digits.length < count then none
    let values ← digits.mapM Json.hexDigit?
    let c ← characterOf? (values.foldl (fun code digit => code * 16 + digit) 0)
    return (c, count + 1)

/-- Reads a text in quotes up to the next blank or the closing quote, and tells whether it ended with
an escaped line end. -/
def readQuotedWord (quote : Char) :
    (fuel : Nat) → Cursor → (text : List Char) → Option (List Char × Bool × Cursor)
  | 0, cursor, text => some (text, false, cursor)
  | fuel + 1, cursor, text =>
    match cursor.rest with
    | [] => some (text, false, cursor)
    | c :: rest =>
      if isBlank c || isBreak c then some (text, false, cursor)
      else if c = '\'' && quote = '\'' && rest.head? = some '\'' then
        readQuotedWord quote fuel (cursor.advance 2) (text ++ ['\''])
      else if c = quote then some (text, false, cursor)
      else if c = '\\' && quote = '"' then
        match (cursor.advance 1).takeBreak? with
        | some (_, next) => some (text, true, next)
        | none => do
          let (escaped, count) ← readEscape rest
          readQuotedWord quote fuel (cursor.advance (count + 1)) (text ++ [escaped])
      else readQuotedWord quote fuel (cursor.advance 1) (text ++ [c])

/-- Reads a text in quotes after its opening quote. -/
def readQuoted (quote : Char) :
    (fuel : Nat) → Cursor → (text : List Char) → Option (List Char × Cursor)
  | 0, _, _ => none
  | fuel + 1, cursor, text =>
    if cursor.atDocumentMarker || cursor.atEnd then none
    else do
      let (text, escapedBreak, cursor) ← readQuotedWord quote cursor.rest.length cursor text
      if cursor.sees quote then return (text, cursor.advance 1)
      let (gap, cursor) ← readGap 0 cursor.rest.length cursor { broken := escapedBreak }
      readQuoted quote fuel cursor (text ++ gap.text)

/-- What becomes of the line ends at the end of a block. -/
inductive Chomping where
  | strip
  | clip
  | keep
deriving DecidableEq

/-- How a block is to be read, as written after its indicator. -/
structure BlockHeader where
  chomping : Chomping := .clip
  /-- How far the block is indented, if that is not left to its first line. -/
  increment : Option Nat := none

/-- Reads the header of a block up to the end of its line. -/
def readBlockHeader : (fuel : Nat) → Cursor → BlockHeader → Option (BlockHeader × Cursor)
  | 0, _, _ => none
  | fuel + 1, cursor, header =>
    match cursor.peek? with
    | some '+' =>
      if header.chomping = .clip then
        readBlockHeader fuel (cursor.advance 1) { header with chomping := .keep }
      else none
    | some '-' =>
      if header.chomping = .clip then
        readBlockHeader fuel (cursor.advance 1) { header with chomping := .strip }
      else none
    | some c =>
      if c.isDigit && c ≠ '0' && header.increment.isNone then
        readBlockHeader fuel (cursor.advance 1)
          { header with increment := some (c.toNat - '0'.toNat) }
      else finish cursor header
    | none => finish cursor header
where
  /-- Passes over blanks and a comment, after which nothing may follow. -/
  finish (cursor : Cursor) (header : BlockHeader) : Option (BlockHeader × Cursor) :=
    let cursor := cursor.skipBlanks.skipComment
    if cursor.atLineEnd then some (header, ((cursor.takeBreak?).map (·.2)).getD cursor) else none

/-- Passes over blank lines of a block and the indentation of the line after them. Returns the line
ends, and the column of the widest indentation. Without `indent` any number of blanks is passed over. -/
def readBlockBreaks (indent : Option Nat) :
    (fuel : Nat) → Cursor → (breaks : List Char) → (widest : Nat) →
      Option (List Char × Nat × Cursor)
  | 0, cursor, breaks, widest => some (breaks, widest, cursor)
  | fuel + 1, cursor, breaks, widest =>
    let spaces := (cursor.rest.takeWhile (· = ' ')).length
    let count := indent.elim spaces fun column => min spaces (column - cursor.column)
    let cursor := cursor.advance count
    let widest := max widest cursor.column
    let short := indent.all fun column => decide (cursor.column < column)
    if short && cursor.sees '\t' then none
    else match cursor.takeBreak? with
      | some (c, next) => readBlockBreaks indent fuel next (breaks ++ [c]) widest
      | none => some (breaks, widest, cursor)

/-- Reads the lines of a block that is indented to a column. `pending` is the end of the line before,
`breaks` are the blank lines after it, and `wasBlank` tells whether that line starts with a blank. -/
def readBlockLines (folded : Bool) (indent : Nat) :
    (fuel : Nat) → Cursor → (pending : List Char) → (breaks : List Char) → (wasBlank : Bool) →
      (text : List Char) → Option (List Char × List Char × List Char × Cursor)
  | 0, cursor, pending, breaks, _, text => some (text, pending, breaks, cursor)
  | fuel + 1, cursor, pending, breaks, wasBlank, text =>
    if cursor.column ≠ indent || cursor.atEnd then some (text, pending, breaks, cursor)
    else do
      let isBlankLine := cursor.peek?.any isBlank
      let joined :=
        if folded && pending = ['\n'] && !wasBlank && !isBlankLine then
          if breaks.isEmpty then [' '] else []
        else pending
      let (line, cursor) := cursor.takeWhile (!isBreak ·)
      let text := text ++ joined ++ breaks ++ line
      let (pending, cursor) := match cursor.takeBreak? with
        | some (c, next) => ([c], next)
        | none => ([], cursor)
      let (breaks, _, cursor) ← readBlockBreaks (some indent) (cursor.rest.length + 1) cursor [] 0
      readBlockLines folded indent fuel cursor pending breaks isBlankLine text

/-- Reads a block after its indicator. Its lines are indented further than the collection it stands
in, which starts at column `parent`. -/
def readBlock (folded : Bool) (parent : Option Nat) (cursor : Cursor) :
    Option (List Char × Cursor) := do
  let fuel := cursor.rest.length + 1
  let (header, cursor) ← readBlockHeader fuel cursor {}
  let indent := header.increment.map fun increment => parent.elim increment (· + increment)
  let (breaks, widest, cursor) ← readBlockBreaks indent fuel cursor [] 0
  let indent := indent.getD (max widest (max 1 (parent.elim 0 (· + 1))))
  let (text, pending, breaks, cursor) ←
    readBlockLines folded indent fuel cursor [] breaks false []
  let text := match header.chomping with
    | .strip => text
    | .clip => text ++ pending
    | .keep => text ++ pending ++ breaks
  return (text, cursor)

end ScopeScanner.Yaml
