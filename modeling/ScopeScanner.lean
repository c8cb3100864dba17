import ScopeScanner.Builtin.Clove
import ScopeScanner.CommandLine.Arguments
import ScopeScanner.CommandLine.Help
import ScopeScanner.CommandLine.Inputs
import ScopeScanner.CommandLine.Run
import ScopeScanner.Decimal.Double
import ScopeScanner.Decimal.Shortest
import ScopeScanner.Diff.Script
import ScopeScanner.Diff.Shortest
import ScopeScanner.Diff.Tidy
import ScopeScanner.Diff.Unified
import ScopeScanner.Document.Basic
import ScopeScanner.Document.Pointer
import ScopeScanner.Files.Discovery
import ScopeScanner.Files.Path
import ScopeScanner.Files.Tree
import ScopeScanner.Grammar.Basic
import ScopeScanner.Grammar.Decode
import ScopeScanner.Grammar.Encode
import ScopeScanner.Grammar.Schema
import ScopeScanner.Grammar.Source
import ScopeScanner.Json.Number
import ScopeScanner.Json.Printer
import ScopeScanner.Json.Reader
import ScopeScanner.Json.Tree
import ScopeScanner.Main
import ScopeScanner.Pattern.Basic
import ScopeScanner.Pattern.EndTemplate
import ScopeScanner.Pattern.Escaping
import ScopeScanner.Pattern.Groups
import ScopeScanner.Proofs.Document.Distinct
import ScopeScanner.Proofs.Document.Places
import ScopeScanner.Proofs.Files.Listing
import ScopeScanner.Proofs.Files.Paths
import ScopeScanner.Proofs.Files.Searching
import ScopeScanner.Proofs.Files.Seen
import ScopeScanner.Proofs.Files.Trees
import ScopeScanner.Proofs.Grammar.Acceptance
import ScopeScanner.Proofs.Grammar.Fields
import ScopeScanner.Proofs.Grammar.Independence
import ScopeScanner.Proofs.Grammar.Loading
import ScopeScanner.Proofs.Grammar.Pointing
import ScopeScanner.Proofs.Grammar.Reading
import ScopeScanner.Proofs.Grammar.Recompiling
import ScopeScanner.Proofs.Grammar.Reordering
import ScopeScanner.Proofs.Grammar.Rewriting
import ScopeScanner.Proofs.Grammar.RoundTrip
import ScopeScanner.Proofs.Grammar.Writing
import ScopeScanner.Proofs.Json.Spelling
import ScopeScanner.Proofs.Pattern.Anchor
import ScopeScanner.Proofs.Pattern.Backslashes
import ScopeScanner.Proofs.Pattern.Echo
import ScopeScanner.Proofs.Pattern.EndForm
import ScopeScanner.Proofs.Regex.Atom
import ScopeScanner.Proofs.Regex.Bracket
import ScopeScanner.Proofs.Regex.Filling
import ScopeScanner.Proofs.Regex.Form
import ScopeScanner.Proofs.Regex.Forward
import ScopeScanner.Proofs.Regex.Limits
import ScopeScanner.Proofs.Regex.Literal
import ScopeScanner.Proofs.Regex.Parens
import ScopeScanner.Proofs.Regex.Reading
import ScopeScanner.Proofs.Regex.Row
import ScopeScanner.Proofs.Regex.Upright
import ScopeScanner.Proofs.Repository.Arena
import ScopeScanner.Proofs.Repository.Compilation
import ScopeScanner.Proofs.Repository.Flattening
import ScopeScanner.Proofs.Repository.Numbering
import ScopeScanner.Proofs.Repository.References
import ScopeScanner.Proofs.Repository.Relocation
import ScopeScanner.Proofs.Repository.Reordering
import ScopeScanner.Proofs.Scanner.Anchoring
import ScopeScanner.Proofs.Scanner.Bytes
import ScopeScanner.Proofs.Scanner.Calls
import ScopeScanner.Proofs.Scanner.Competition
import ScopeScanner.Proofs.Scanner.Confinement
import ScopeScanner.Proofs.Scanner.Coverage
import ScopeScanner.Proofs.Scanner.Displacement
import ScopeScanner.Proofs.Scanner.EmptyBegins
import ScopeScanner.Proofs.Scanner.Ends
import ScopeScanner.Proofs.Scanner.Extent
import ScopeScanner.Proofs.Scanner.GroupScopes
import ScopeScanner.Proofs.Scanner.InBounds
import ScopeScanner.Proofs.Scanner.LateGroups
import ScopeScanner.Proofs.Scanner.Learning
import ScopeScanner.Proofs.Scanner.Leaving
import ScopeScanner.Proofs.Scanner.LineByLine
import ScopeScanner.Proofs.Scanner.LineFeed
import ScopeScanner.Proofs.Scanner.Machine
import ScopeScanner.Proofs.Scanner.MadeEnds
import ScopeScanner.Proofs.Scanner.Merging
import ScopeScanner.Proofs.Scanner.Nesting
import ScopeScanner.Proofs.Scanner.Parallel
import ScopeScanner.Proofs.Scanner.Partition
import ScopeScanner.Proofs.Scanner.Places
import ScopeScanner.Proofs.Scanner.Remarks
import ScopeScanner.Proofs.Scanner.Renumbering
import ScopeScanner.Proofs.Scanner.Reordering
import ScopeScanner.Proofs.Scanner.Resumption
import ScopeScanner.Proofs.Scanner.Rooting
import ScopeScanner.Proofs.Scanner.ScopeNames
import ScopeScanner.Proofs.Scanner.Simulation
import ScopeScanner.Proofs.Scanner.SinkLines
import ScopeScanner.Proofs.Scanner.Soundness
import ScopeScanner.Proofs.Scanner.StackShape
import ScopeScanner.Proofs.Scanner.StallLimit
import ScopeScanner.Proofs.Scanner.Stalling
import ScopeScanner.Proofs.Scanner.Starts
import ScopeScanner.Proofs.Scanner.Step
import ScopeScanner.Proofs.Scanner.Tiling
import ScopeScanner.Proofs.Snapshot.Discovery
import ScopeScanner.Proofs.Snapshot.Picture
import ScopeScanner.Proofs.Snapshot.Rows
import ScopeScanner.Proofs.Snapshot.Updating
import ScopeScanner.Proofs.Text.Boundary
import ScopeScanner.Proofs.Text.LineEnds
import ScopeScanner.Regex.Assertion
import ScopeScanner.Regex.Automaton
import ScopeScanner.Regex.CharSet
import ScopeScanner.Regex.ClassReader
import ScopeScanner.Regex.Comment
import ScopeScanner.Regex.Escape
import ScopeScanner.Regex.Fault
import ScopeScanner.Regex.Footprint
import ScopeScanner.Regex.Machine
import ScopeScanner.Regex.Node
import ScopeScanner.Regex.Plain
import ScopeScanner.Regex.Program
import ScopeScanner.Regex.Reader
import ScopeScanner.Regex.Search
import ScopeScanner.Repository.Basic
import ScopeScanner.Repository.Flatten
import ScopeScanner.Repository.Rule
import ScopeScanner.Scanner.Candidate
import ScopeScanner.Scanner.Captures
import ScopeScanner.Scanner.Diagnostic
import ScopeScanner.Scanner.Drive
import ScopeScanner.Scanner.Expectation
import ScopeScanner.Scanner.Scan
import ScopeScanner.Scanner.ScopeStack
import ScopeScanner.Scanner.Session
import ScopeScanner.Scanner.Token
import ScopeScanner.Settings.Basic
import ScopeScanner.Settings.Key
import ScopeScanner.Settings.Layers
import ScopeScanner.Settings.Value
import ScopeScanner.Snapshot.Check
import ScopeScanner.Snapshot.Render
import ScopeScanner.Text.Blank
import ScopeScanner.Text.Line
import ScopeScanner.Text.Quoted
import ScopeScanner.Text.Span
import ScopeScanner.Text.Utf8
import ScopeScanner.Toml.Reader
import ScopeScanner.Toml.Scalar
import ScopeScanner.Toml.Text
import ScopeScanner.Unicode.Age
import ScopeScanner.Unicode.Break
import ScopeScanner.Unicode.CaseFold
import ScopeScanner.Unicode.Category
import ScopeScanner.Unicode.Derived
import ScopeScanner.Unicode.Listed
import ScopeScanner.Unicode.Property
import ScopeScanner.Unicode.Recent
import ScopeScanner.Unicode.Runs
import ScopeScanner.Unicode.Script
import ScopeScanner.Yaml.Cursor
import ScopeScanner.Yaml.Node
import ScopeScanner.Yaml.Reader
import ScopeScanner.Yaml.Scalar
import ScopeScanner.Yaml.Token
