import ScopeScanner.Diff.Unified
import ScopeScanner.Files.Discovery
import ScopeScanner.Scanner.Scan
import ScopeScanner.Snapshot.Render

/-!
# Checking snapshots

A fixture is a file whose snapshot is kept in a file beside it. All fixtures below a directory are
scanned, and what is rendered is compared with the snapshots, or written in their place when they are
to be updated. Fixtures are checked in the order of their paths; the first file that cannot be read
or written ends the check.
-/

namespace ScopeScanner.Snapshot

open ScopeScanner

/-- What a check has come to for one fixture. -/
inductive Outcome where
  | passed
  /-- The snapshot has been written. -/
  | updated
  /-- There is no snapshot. -/
  | missing
  /-- The snapshot is another one; the diff leads from it to what was rendered. -/
  | failed (diff : String)
deriving DecidableEq, Repr

/-- Whether an outcome counts as passed. -/
def Outcome.isPassed : Outcome → Bool
  | passed | updated => true
  | missing | failed _ => false

/-- The outcome of a fixture. -/
structure FixtureReport where
  fixture : String
  outcome : Outcome
deriving DecidableEq, Repr

/-- The outcomes of all fixtures. -/
structure Report where
  fixtures : List FixtureReport
deriving DecidableEq, Repr

namespace Report

/-- Number of fixtures that passed. -/
def passed (report : Report) : Nat :=
  report.fixtures.countP (·.outcome.isPassed)

/-- Number of fixtures that did not pass. -/
def failed (report : Report) : Nat :=
  report.fixtures.countP (!·.outcome.isPassed)

/-- Whether all fixtures passed. -/
def isSuccess (report : Report) : Bool :=
  report.failed = 0

end Report

/-- Why a check could not be finished. -/
inductive CheckError where
  | unreadable (path : String) (fault : FileFault)
  | unwritable (path : String) (fault : FileFault)
deriving DecidableEq, Repr

/-- What went wrong, in words. -/
def CheckError.message : CheckError → String
  | unreadable path fault => "failed to read " ++ path ++ ": " ++ fault.message
  | unwritable path fault => "failed to write " ++ path ++ ": " ++ fault.message

/-- The paths of the fixtures below a directory. -/
def discover (files : FileTree) (directory suffix : String) : Except FileFault (List String) := do
  return (← files.discover directory suffix).map (Path.joinAll directory)

/-- What is checked, and how. -/
structure Checker where
  repository : Repository
  scanner : ScannerSettings
  settings : SnapshotSettings
  /-- Whether snapshots are written. -/
  update : Bool := false

namespace Checker

/-- The path of the snapshot of a fixture. -/
def snapshotPath (checker : Checker) (fixture : String) : String :=
  fixture ++ checker.settings.snapshotSuffix

/-- The rendering of a fixture. -/
def render (checker : Checker) (files : FileTree) (fixture : String) : Except CheckError String := do
  let text ← (files.readText fixture).mapError (.unreadable fixture)
  return Snapshot.render text (checker.repository.scanOnce checker.scanner text).tokens

/-- Compares a rendering with the snapshot of its fixture. -/
def compare (checker : Checker) (files : FileTree) (fixture rendering : String) :
    Except CheckError Outcome :=
  let path := checker.snapshotPath fixture
  match files.readText path with
  | .ok snapshot =>
    if snapshot = rendering then return .passed
    else return .failed (Diff.unified "expected" "actual" snapshot rendering)
  | .error .notFound =>
    if Path.isTooLong path then throw (.unreadable path .notFound) else return .missing
  | .error fault => throw (.unreadable path fault)

/-- Checks a fixture, and returns the files as they are afterwards. -/
def checkFixture (checker : Checker) (files : FileTree) (fixture : String) :
    Except CheckError (FixtureReport × FileTree) := do
  let rendering ← checker.render files fixture
  if checker.update then
    let path := checker.snapshotPath fixture
    let files ← (files.writeText path rendering).mapError (.unwritable path)
    return (⟨fixture, .updated⟩, files)
  else
    return (⟨fixture, ← checker.compare files fixture rendering⟩, files)

/-- Checks fixtures one after the other. -/
def checkAll (checker : Checker) :
    List String → FileTree → Except CheckError (List FixtureReport) × FileTree
  | [], files => (.ok [], files)
  | fixture :: rest, files =>
    match checker.checkFixture files fixture with
    | .error e => (.error e, files)
    | .ok (report, files) =>
      let (reports, files) := checker.checkAll rest files
      (reports.map (report :: ·), files)

/-- Checks all fixtures below a directory, and returns the files as they are afterwards. -/
def run (checker : Checker) (files : FileTree) (directory : String) :
    Except CheckError Report × FileTree :=
  match discover files directory checker.settings.fixtureSuffix with
  | .error fault => (.error (.unreadable directory fault), files)
  | .ok fixtures =>
    let (reports, files) := checker.checkAll fixtures files
    (reports.map Report.mk, files)

end Checker

end ScopeScanner.Snapshot
