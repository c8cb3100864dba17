import ScopeScanner.Scanner.Scan
import ScopeScanner.Text.Quoted

/-!
# Expectations

What a scan is expected to yield, in terms of texts and scopes. An expectation that is not met is
reported in words.
-/

namespace ScopeScanner

/-- What a token is expected to be like. -/
inductive TokenExpectation where
  | text (expected : String)
  | startsAt (expected : Nat)
  /-- All scopes, the outermost first. -/
  | scopes (expected : List String)
  | innermost (expected : String)
  | hasScope (expected : String)
  | lacksScope (unexpected : String)
deriving DecidableEq, Repr

/-- What a scan is expected to yield. -/
inductive Expectation where
  /-- The number of tokens. -/
  | count (expected : Nat)
  /-- The tokens cover the text in order, without gaps or overlaps. -/
  | coversText
  | noDiagnostics
  | diagnostics (expected : List Diagnostic)
  /-- The number of regions that are still open. -/
  | openRegions (expected : Nat)
  /-- The token with an index is as expected. -/
  | token (index : Nat) (expected : TokenExpectation)
  /-- The first token with a text is as expected. -/
  | find (text : String) (expected : TokenExpectation)
deriving DecidableEq, Repr

namespace Expectation

/-- A number in decimal digits. -/
def digits (n : Nat) : String :=
  String.ofList (Nat.toDigits 10 n)

/-- Scopes in brackets. -/
def bracketed (scopes : List String) : String :=
  "[" ++ Text.quotedList scopes ++ "]"

/-- A remark with its parts by name. -/
def describe : Diagnostic → String
  | .unmatchedInput offset length =>
    "UnmatchedInput \x7b offset: " ++ digits offset ++ ", length: " ++ digits length ++ " \x7d"
  | .unterminatedRegion rule scopes start =>
    "UnterminatedRegion \x7b rule: " ++ Text.quoted rule ++ ", scopes: " ++ bracketed scopes ++
      ", start: " ++ digits start ++ " \x7d"

/-- The text of a token. -/
def tokenText (line : Line) (token : Token) : String :=
  String.ofList (line.slice token.start token.stop)

/-- The texts of all tokens. -/
def summary (line : Line) (tokens : List Token) : String :=
  "[" ++ Text.quotedList (tokens.map (tokenText line)) ++ "]"

/-- A message, if a condition does not hold. -/
def require (condition : Bool) (message : String) : Option String :=
  if condition then none else some message

/-- Why a token is not as expected; `name` is what it is called in the message. -/
def tokenFailure? (line : Line) (name : String) (token : Token) : TokenExpectation → Option String
  | .text expected => require (tokenText line token = expected) (name ++ ": unexpected text")
  | .startsAt expected => require (token.start = expected) (name ++ ": unexpected start")
  | .scopes expected => require (token.scopes = expected) (name ++ ": unexpected scopes")
  | .innermost expected =>
    require (token.innermost? = some expected)
      (name ++ ": unexpected innermost scope in " ++ bracketed token.scopes)
  | .hasScope expected =>
    require (token.scopes.contains expected)
      (name ++ ": " ++ bracketed token.scopes ++ " lacks " ++ expected)
  | .lacksScope unexpected =>
    require (!token.scopes.contains unexpected)
      (name ++ ": " ++ bracketed token.scopes ++ " should not carry " ++ unexpected)

/-- Why the tokens that are left do not cover the text from a position on. -/
def coverFailure? (line : Line) (all : String) : (position : Nat) → List Token → Option String
  | position, [] => require (position = line.size) "Tokens stop short of the end"
  | position, first :: rest =>
    if first.start ≠ position then
      some ("Gap or overlap before " ++ Text.quoted (tokenText line first) ++ ": " ++ all)
    else if first.length = 0 then some ("Empty token at " ++ digits first.start)
    else coverFailure? line all first.stop rest

/-- Why a scan of a text has not yielded what is expected; none if it has. -/
def failure? (expectation : Expectation) (text : String) (output : ScanOutput) : Option String :=
  let line := Line.ofString text
  let tokens := output.tokens
  let all := summary line tokens
  match expectation with
  | count expected =>
    require (tokens.length = expected)
      ("Expected " ++ digits expected ++ " tokens, found " ++ digits tokens.length ++ ": " ++ all)
  | coversText => coverFailure? line all 0 tokens
  | noDiagnostics =>
    require output.diagnostics.isEmpty
      ("Expected no diagnostics, found [" ++
        ", ".intercalate (output.diagnostics.map describe) ++ "]")
  | diagnostics expected => require (output.diagnostics = expected) ""
  | openRegions expected =>
    require (output.endState.regions.length = expected)
      ("Expected " ++ digits expected ++ " open regions at the end of the buffer")
  | token index expected =>
    match tokens[index]? with
    | some found => tokenFailure? line ("tokens[" ++ digits index ++ "]") found expected
    | none =>
      some ("Token index " ++ digits index ++ " out of bounds (" ++ digits tokens.length ++
        " tokens): " ++ all)
  | find text expected =>
    match tokens.find? fun token => tokenText line token = text with
    | some found => tokenFailure? line (Text.quoted text) found expected
    | none => some ("No token with text " ++ Text.quoted text ++ ": " ++ all)

end Expectation

end ScopeScanner
