import ScopeScanner.CommandLine.Arguments

/-!
# Help on the command line

How the program and each of its commands is used.
-/

namespace ScopeScanner.CommandLine

/-- The name of the program and its version. -/
def versionText : String := "clove 0.1.0\n"

/-- Lines as a text. -/
def lines (rows : List String) : String :=
  rows.foldl (fun text row => text ++ row ++ "\n") ""

/-- How the program is used. -/
def programHelp : String := lines [
  "Generate, validate and exercise the clove syntax grammar",
  "",
  "Usage: clove [OPTIONS] <COMMAND>",
  "",
  "Commands:",
  "  generate  Validate a grammar and emit it as JSON",
  "  scan      Tokenize a file",
  "  snap      Check fixtures against their snapshots",
  "  help      Print this message or the help of the given subcommand(s)",
  "",
  "Options:",
  "  -c, --config <config>  TOML configuration layered over the defaults",
  "  -h, --help             Print help",
  "  -V, --version          Print version"]

/-- How a command is used. -/
def commandHelp : CommandName → String
  | .generate => lines [
      "Validate a grammar and emit it as JSON",
      "",
      "Usage: clove generate [OPTIONS]",
      "",
      "Options:",
      "  -c, --config <config>    TOML configuration layered over the defaults",
      "  -g, --grammar <grammar>  Grammar document (JSON or YAML); defaults to the built-in clove grammar",
      "  -o, --output <output>    Write to this file instead of stdout",
      "      --pretty             Indent the JSON output",
      "  -h, --help               Print help"]
  | .scan => lines [
      "Tokenize a file",
      "",
      "Usage: clove scan [OPTIONS] <path>",
      "",
      "Arguments:",
      "  <path>  Path to the source file",
      "",
      "Options:",
      "  -c, --config <config>    TOML configuration layered over the defaults",
      "  -g, --grammar <grammar>  Grammar document (JSON or YAML); defaults to the built-in clove grammar",
      "  -f, --format <format>    Output format [default: json] [possible values: json, snap]",
      "  -h, --help               Print help"]
  | .snap => lines [
      "Check fixtures against their snapshots",
      "",
      "Usage: clove snap [OPTIONS] [dir]",
      "",
      "Arguments:",
      "  [dir]  Directory searched recursively for fixtures [default: .]",
      "",
      "Options:",
      "  -c, --config <config>    TOML configuration layered over the defaults",
      "  -g, --grammar <grammar>  Grammar document (JSON or YAML); defaults to the built-in clove grammar",
      "  -u, --update             Rewrite snapshots instead of comparing",
      "  -h, --help               Print help"]

/-- How help is asked for. -/
def helpOnHelp : String := lines [
  "Print this message or the help of the given subcommand(s)",
  "",
  "Usage: clove help [COMMAND]...",
  "",
  "Arguments:",
  "  [COMMAND]...  Print help for the subcommand(s)"]

/-- What there is to say on a topic. -/
def Topic.text : Topic → String
  | program => programHelp
  | command name => commandHelp name
  | help => helpOnHelp

end ScopeScanner.CommandLine
