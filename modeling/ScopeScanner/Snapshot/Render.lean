import ScopeScanner.Scanner.Token
import ScopeScanner.Text.Blank
import ScopeScanner.Text.Line

/-!
# Snapshots

A snapshot shows a text and its tokens. Every line of the text is written after a `>`, without its
line end. Below it each token of the line has a row of its own: a `#`, blanks up to the column of
the token, a caret for each of its characters, and its scopes. The `#` stands below the `>`, so the
carets stand below the characters they mark. Line ends are never marked.
-/

namespace ScopeScanner.Snapshot

open ScopeScanner

/-- Scopes separated by blanks. -/
def joinScopes : List String → List Char
  | [] => []
  | [scope] => scope.toList
  | scope :: rest => scope.toList ++ ' ' :: joinScopes rest

/-- The row of a token on a line that starts at byte `lineStart` of the buffer, if it marks anything. -/
def tokenRow (line : Line) (lineStart : Nat) (token : Token) : List Char :=
  let start := max token.start lineStart - lineStart
  let stop := min token.stop (lineStart + line.size) - lineStart
  if min token.stop (lineStart + line.size) ≤ max token.start lineStart || token.scopes.isEmpty then []
  else
    let column := line.index start
    let width := line.index stop - column
    '#' :: (List.replicate column ' ' ++ List.replicate width '^' ++ ' ' :: joinScopes token.scopes)
      ++ ['\n']

/-- The rows of the lines that are left, with the tokens that are left. -/
def renderLines : (lineStart : Nat) → List (List Char) → List Token → List Char
  | _, [], _ => []
  | lineStart, raw :: rest, tokens =>
    let line := Text.dropLineEnds raw
    let next := lineStart + Line.byteCount raw
    let here := tokens.takeWhile (·.start < next)
    '>' :: (line ++ ['\n']) ++ here.flatMap (tokenRow (Line.ofChars line) lineStart) ++
      renderLines next rest (tokens.dropWhile (·.start < next))

/-- The snapshot of a text with its tokens. -/
def render (text : String) (tokens : List Token) : String :=
  String.ofList (renderLines 0 (Text.lines text.toList) tokens)

end ScopeScanner.Snapshot
