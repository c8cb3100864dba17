import ScopeScanner.CommandLine.Arguments
import ScopeScanner.Files.Tree

/-!
# Files that a command may touch

Before a command runs, the files it may read or write are looked up. Which ones these are follows
from its arguments alone.
-/

namespace ScopeScanner.CommandLine

open ScopeScanner

/-- A path that a command may touch, and whether all that lies below it belongs to it. -/
structure Input where
  path : String
  deep : Bool := false
deriving DecidableEq, Repr

/-- The paths that a command names. -/
def Command.inputs : Command → List Input
  | .generate grammar output _ => (grammar.toList ++ output.toList).map ({ path := · })
  | .scan path grammar _ => (path :: grammar.toList).map ({ path := · })
  | .snap directory grammar _ =>
    { path := directory, deep := true } :: grammar.toList.map ({ path := · })

/-- The paths that the arguments name. Settings may also be in a file with their extension. -/
def inputs (arguments : List String) : List Input :=
  match Request.ofArguments? arguments with
  | some (.run command config) =>
    (config.toList.flatMap fun path => [{ path }, { path := path ++ ".toml" }]) ++ command.inputs
  | _ => []

/-- The names that lead to a place without going back up on the way. -/
def directNames (names : List String) : List String :=
  let done := names.foldl
    (fun done name =>
      if name = ".." then (FileTree.above? done).getD (name :: done) else name :: done) []
  done.reverse

/-- The places that are passed on the way along a path, its end included. -/
def stations (path : String) : List (List String) :=
  let names := Path.names path
  (List.range (names.length + 1)).map fun count => directNames (names.take count)

end ScopeScanner.CommandLine
