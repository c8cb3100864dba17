import ScopeScanner.Builtin.Clove
import ScopeScanner.CommandLine.Help
import ScopeScanner.Grammar.Source
import ScopeScanner.Settings.Layers
import ScopeScanner.Snapshot.Check

/-!
# Running commands

A command reads files, writes texts to the two outputs, and may change files. Here all of that is
part of a value: a command leads from a file tree to what it puts out and the tree as it is
afterwards.
-/

namespace ScopeScanner.CommandLine

open ScopeScanner

/-- Why a command has failed. -/
inductive CommandError where
  | settings (error : SettingsError)
  | grammar (error : GrammarError)
  | check (error : Snapshot.CheckError)
  | file (path : String) (fault : FileFault)
  /-- Snapshots did not match. -/
  | mismatch (failed total : Nat)

/-- A number in decimal digits. -/
def digits (n : Nat) : String :=
  String.ofList (Nat.toDigits 10 n)

/-- What went wrong, in words. -/
def CommandError.message : CommandError → String
  | settings error => "configuration: " ++ error.message
  | grammar error => error.message
  | check error => error.message
  | file path fault => path ++ ": " ++ fault.message
  | mismatch failed total => digits failed ++ " of " ++ digits total ++ " snapshots did not match"

/-- What a command has done. -/
structure Effects where
  files : FileTree
  output : String := ""
  warnings : String := ""
  error : Option CommandError := none

/-- A run of the program. -/
structure Outcome where
  code : Nat
  output : String
  errors : String
  files : FileTree

/-- The grammar that a command asks for. -/
def chosenGrammar (files : FileTree) (path : Option String) (settings : Settings) :
    Except CommandError Grammar :=
  match path with
  | some path => (Grammar.load files path settings.scanner.backtrackLimit).mapError .grammar
  | none => return Clove.grammar

/-- The compiled grammar that a command asks for. -/
def chosenRepository (files : FileTree) (path : Option String) (settings : Settings) :
    Except CommandError Repository := do
  let grammar ← chosenGrammar files path settings
  (Repository.ofGrammar grammar settings.scanner.backtrackLimit).mapError .grammar

/-- The text of a grammar that has been compiled without errors. -/
def grammarText (files : FileTree) (path : Option String) (pretty : Bool) (settings : Settings) :
    Except CommandError String := do
  let grammar ← chosenGrammar files path settings
  let _ ← (Repository.ofGrammar grammar settings.scanner.backtrackLimit).mapError .grammar
  return (if pretty then grammar.toIndentedJson else grammar.toJson) ++ "\n"

/-- Writes a grammar as JSON. -/
def generate (files : FileTree) (grammar output : Option String) (pretty : Bool)
    (settings : Settings) : Effects :=
  match grammarText files grammar pretty settings with
  | .error error => { files, error }
  | .ok text =>
    match output with
    | none => { files, output := text }
    | some path =>
      match files.writeText path text with
      | .ok files => { files }
      | .error fault => { files, error := some (.file path fault) }

/-- A token as a document. -/
def tokenDocument (token : Token) : Document :=
  .object [
    ("start", .number (digits token.start)),
    ("length", .number (digits token.length)),
    ("scopes", .array (token.scopes.map .string))]

/-- Tokens in a format. -/
def OutputFormat.text (format : OutputFormat) (source : String) (tokens : List Token) : String :=
  match format with
  | .json => Json.printIndented (.array (tokens.map tokenDocument)) ++ "\n"
  | .snapshot => Snapshot.render source tokens

/-- Scans a file. -/
def scan (files : FileTree) (path : String) (grammar : Option String) (format : OutputFormat)
    (settings : Settings) : Effects :=
  match files.readText path with
  | .error fault => { files, error := some (.file path fault) }
  | .ok source =>
    match chosenRepository files grammar settings with
    | .error error => { files, error }
    | .ok repository =>
      let result := repository.scanOnce settings.scanner source
      { files
        output := format.text source result.tokens
        warnings := result.diagnostics.foldl
          (fun text diagnostic => text ++ "warning: " ++ diagnostic.message ++ "\n") "" }

/-- The lines on a fixture. -/
def fixtureText (report : Snapshot.FixtureReport) : String :=
  match report.outcome with
  | .passed => "ok       " ++ report.fixture ++ "\n"
  | .updated => "updated  " ++ report.fixture ++ "\n"
  | .missing => "missing  " ++ report.fixture ++ "\n"
  | .failed diff => "FAILED   " ++ report.fixture ++ "\n" ++ diff

/-- Checks or updates snapshots. -/
def snap (files : FileTree) (directory : String) (grammar : Option String) (update : Bool)
    (settings : Settings) : Effects :=
  match chosenRepository files grammar settings with
  | .error error => { files, error }
  | .ok repository =>
    let checker : Snapshot.Checker := {
      repository, scanner := settings.scanner, settings := settings.snapshot, update }
    match checker.run files directory with
    | (.error error, files) => { files, error := some (.check error) }
    | (.ok report, files) =>
      let rows := report.fixtures.foldl (fun text fixture => text ++ fixtureText fixture) ""
      if report.isSuccess then
        { files, output := rows ++ digits report.passed ++ " snapshots passed\n" }
      else
        { files, output := rows,
          error := some (.mismatch report.failed report.fixtures.length) }

/-- Does what a command asks for. -/
def perform (files : FileTree) (settings : Settings) : Command → Effects
  | .generate grammar output pretty => generate files grammar output pretty settings
  | .scan path grammar format => scan files path grammar format settings
  | .snap directory grammar update => snap files directory grammar update settings

/-- Loads the settings and does what a command asks for. -/
def runCommand (files : FileTree) (command : Command) (config : Option String) : Effects :=
  let layers := match config with
    | some path => [Layer.file path]
    | none => []
  match Settings.load files layers with
  | .error error => { files, error := some (.settings error) }
  | .ok settings => perform files settings command

/-- Runs the program. Wrong arguments end it with code 2, and a command that fails with code 1. -/
def run (files : FileTree) (arguments : List String) : Outcome :=
  match Request.ofArguments? arguments with
  | none => { code := 2, output := "", errors := programHelp, files }
  | some .version => { code := 0, output := versionText, errors := "", files }
  | some (.help topic) => { code := 0, output := topic.text, errors := "", files }
  | some (.run command config) =>
    let effects := runCommand files command config
    match effects.error with
    | none => { code := 0, output := effects.output, errors := effects.warnings,
                files := effects.files }
    | some error => { code := 1, output := effects.output,
                      errors := effects.warnings ++ "Error: " ++ error.message ++ "\n",
                      files := effects.files }

end ScopeScanner.CommandLine
