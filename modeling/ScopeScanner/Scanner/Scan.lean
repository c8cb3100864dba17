import ScopeScanner.Scanner.Drive
import ScopeScanner.Settings.Basic

/-!
# Scanning a buffer

A buffer is scanned line by line. Lines keep the line feed that ends them; a last line without one
is matched as if it had one, and its tokens are cut off at the end of the buffer. Tokens never span
lines.

A scan starts with a fresh stack or with the one that an earlier scan ended with. Regions that are
still open at the end of the buffer are reported, and stay on the stack that the scan returns.
-/

namespace ScopeScanner

/-- Everything a scan yields. -/
structure ScanOutput where
  tokens : List Token
  /-- The stack to go on with. -/
  endState : ScopeStack
  diagnostics : List Diagnostic

/-- A scan between two lines. -/
structure ScanProgress where
  /-- Where the next line starts. -/
  offset : Nat := 0
  stack : ScopeStack
  emission : Emission

/-- A line with the line feed it is matched with. -/
def terminated (line : List Char) : List Char :=
  if line.getLast? = some '\n' then line else line ++ ['\n']

namespace Repository

/-- Scans the next line of a buffer. -/
def scanNextLine (repository : Repository) (stallLimit : Nat) (progress : ScanProgress)
    (chars : List Char) : ScanProgress :=
  let visible := Line.byteCount chars
  let stack := progress.stack.clearAnchors
  let anchor := if stack.top.beganAtLineEnd then some 0 else none
  let emission := { progress.emission with
    sink := progress.emission.sink.beginLine progress.offset visible }
  let (stack, emission) := scanLine repository stallLimit progress.offset maxReentry
    (Line.ofChars (terminated chars)) 0 anchor stack emission
  { offset := progress.offset + visible, stack, emission }

/-- The remark on a region that is still open. -/
def unterminated (repository : Repository) (frame : Frame) : Diagnostic :=
  .unterminatedRegion ((repository.rule? frame.rule).elim "" Rule.label) frame.nameScopes frame.start

/-- Scans a buffer within a session. -/
def scan (repository : Repository) (settings : ScannerSettings) (session : Session)
    (text : String) (state : Option ScopeStack) : ScanOutput × Session :=
  let start : ScanProgress := {
    stack := state.getD (.fresh repository)
    emission := { sink := { merge := settings.mergeTokens }, session } }
  let finish := (Text.lines text.toList).foldl (repository.scanNextLine settings.stallLimit) start
  let output : ScanOutput := {
    tokens := finish.emission.sink.tokens.toList
    endState := finish.stack
    diagnostics := finish.emission.diagnostics.toList ++
      finish.stack.regions.reverse.map repository.unterminated }
  (output, finish.emission.session)

/-- Scans a buffer on its own. -/
def scanOnce (repository : Repository) (settings : ScannerSettings) (text : String) : ScanOutput :=
  (repository.scan settings {} text none).1

end Repository

end ScopeScanner
