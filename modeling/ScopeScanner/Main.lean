import ScopeScanner.CommandLine.Inputs
import ScopeScanner.CommandLine.Run

/-!
# The program

Looks up the files that the arguments name, runs the command on them as a value, and writes what it
has put out and the files it has changed.
-/

namespace ScopeScanner.CommandLine

open ScopeScanner

/-- Files and directories that were found on the disk, directories without content. -/
abbrev Found := List (List String × Option Content)

/-- The path of a row of names. -/
def diskPath (names : List String) : String :=
  if names.isEmpty then "." else Path.joinAll "" names

/-- Looks up what stands at a place, and what lies below it if asked to. -/
partial def survey (deep : Bool) (names : List String) : IO Found := do
  try
    let bytes ← IO.FS.readBinFile (diskPath names)
    return [(names, some (.ofBytes bytes.toList))]
  catch _ =>
    try
      let entries ← (← IO.FS.realPath (diskPath names)).readDir
      let below ← if deep then
          entries.toList.mapM fun entry => survey true (names ++ [entry.fileName])
        else pure []
      return (names, none) :: below.flatten
    catch _ => return []

/-- Looks up a path with the directories on the way. -/
def surveyInput (input : Input) : IO Found := do
  let places := stations input.path
  let onTheWay ← places.mapM (survey false)
  let below ← if input.deep then places.getLast?.elim (pure []) (survey true) else pure []
  return onTheWay.flatten ++ below

/-- The tree of what was found. -/
def treeOf (found : Found) : FileTree :=
  found.foldl
    (fun tree (names, content) =>
      match content with
      | some content => tree.put content names
      | none => tree.putDirectory names)
    .empty

/-- Writes the files that have changed. -/
def writeChanges (before after : FileTree) : IO Unit :=
  after.files.forM fun (names, content) => do
    if before.files.lookup names ≠ some content then
      IO.FS.writeFile (diskPath names) content.display

end ScopeScanner.CommandLine

open ScopeScanner in
/-- Runs the program with the arguments of the command line. -/
def main (arguments : List String) : IO UInt32 := do
  let found ← (CommandLine.inputs arguments).mapM CommandLine.surveyInput
  let files := CommandLine.treeOf found.flatten
  let outcome := CommandLine.run files arguments
  CommandLine.writeChanges files outcome.files
  (← IO.getStdout).putStr outcome.output
  (← IO.getStderr).putStr outcome.errors
  return outcome.code.toUInt32
