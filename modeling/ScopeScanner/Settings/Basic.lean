/-!
# Settings

The settings of a scan and of the comparison with snapshots, with the values they have unless
something else is asked for.
-/

namespace ScopeScanner

/-- Settings of a scan. -/
structure ScannerSettings where
  /-- Steps in a row without progress before a character is forced. -/
  stallLimit : Nat := 32
  /-- How often the search for a match may take a choice back. -/
  backtrackLimit : Nat := 1000000
  /-- Whether neighbouring tokens of a line with equal scopes become one. -/
  mergeTokens : Bool := true
deriving DecidableEq, Repr

/-- Names of fixtures and snapshots. -/
structure SnapshotSettings where
  /-- How the names of fixtures end. -/
  fixtureSuffix : String := ".test.clove"
  /-- What is added to the name of a fixture for its snapshot. -/
  snapshotSuffix : String := ".snap"
deriving DecidableEq, Repr

/-- All settings. -/
structure Settings where
  scanner : ScannerSettings := {}
  snapshot : SnapshotSettings := {}
deriving DecidableEq, Repr

end ScopeScanner
