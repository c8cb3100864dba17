/-!
# Tokens

Tokens are collected by a sink that is told, again and again, that everything up to some position
of the line carries certain scopes. Since each call goes on where the one before ended, the tokens
cover the input without gaps or overlaps.
-/

namespace ScopeScanner

/-- A stretch of the buffer, in bytes, with its scopes. -/
structure Token where
  start : Nat
  length : Nat
  /-- The outermost scope comes first. -/
  scopes : List String
deriving DecidableEq, Repr, Inhabited

namespace Token

/-- Where the token ends. -/
def stop (token : Token) : Nat :=
  token.start + token.length

/-- The innermost scope. -/
def innermost? (token : Token) : Option String :=
  token.scopes.getLast?

end Token

/-- Collects the tokens of a scan line by line. -/
structure Sink where
  /-- Whether neighbouring tokens of a line with equal scopes become one. -/
  merge : Bool
  tokens : Array Token := #[]
  /-- Where the present line starts in the buffer. -/
  lineStart : Nat := 0
  /-- How much of the present line the buffer holds. -/
  visible : Nat := 0
  /-- Number of tokens of earlier lines. -/
  earlier : Nat := 0
  /-- Position of the line up to which tokens have been collected. -/
  position : Nat := 0

namespace Sink

/-- Starts a line. -/
def beginLine (sink : Sink) (lineStart visible : Nat) : Sink :=
  { sink with lineStart, visible, earlier := sink.tokens.size, position := 0 }

/-- Adds a token of the present line, or makes the last one longer. -/
def add (sink : Sink) (token : Token) : Sink :=
  match sink.tokens.back? with
  | some last =>
    if sink.merge && sink.earlier < sink.tokens.size && last.stop = token.start
        && last.scopes = token.scopes then
      { sink with tokens := sink.tokens.pop.push { last with length := last.length + token.length } }
    else { sink with tokens := sink.tokens.push token }
  | none => { sink with tokens := sink.tokens.push token }

/-- Covers the line up to position `stop` with scopes. A position that has been covered already is
passed over, and what lies beyond the visible part of the line yields no token. -/
def produce (sink : Sink) (stop : Nat) (scopes : List String) : Sink :=
  if stop ≤ sink.position then sink
  else
    let first := min sink.position sink.visible
    let last := min stop sink.visible
    let sink := { sink with position := stop }
    if last ≤ first then sink
    else sink.add { start := sink.lineStart + first, length := last - first, scopes }

end Sink

end ScopeScanner
