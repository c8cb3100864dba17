import ScopeScanner.Files.Tree
import ScopeScanner.Repository.Basic
import ScopeScanner.Yaml.Reader

/-!
# Sources of grammars

A grammar goes through three shapes: the document that a text is read into, the grammar that the
document describes, and the repository that the grammar compiles to. A document is always validated
before it is read as a grammar, and a grammar that was put together by hand is validated as the
document it would be written as.
-/

namespace ScopeScanner

/-- The formats grammars are written in. -/
inductive GrammarFormat where
  | json
  | yaml
deriving DecidableEq, Repr

/-- Why a grammar could not be loaded. -/
inductive GrammarError where
  | unreadable (fault : FileFault)
  | json (fault : Json.Fault)
  | yaml
  | invalid (violations : List Schema.Violation)
  | pattern (error : PatternError)

namespace GrammarError

/-- What went wrong, in words. -/
def message : GrammarError → String
  | unreadable fault => "failed to read grammar: " ++ fault.message
  | json fault => "failed to parse JSON grammar: " ++ fault.message
  | yaml => "failed to parse YAML grammar: the text is not YAML"
  | invalid violations => Schema.report violations
  | pattern error => "invalid regex `" ++ error.source ++ "`"

end GrammarError

namespace GrammarFormat

/-- The format of a file, by the extension of its name. -/
def ofPath (path : String) : GrammarFormat :=
  match Path.extension? path with
  | some "yaml" | some "yml" => yaml
  | _ => json

/-- The document that a text is read into. -/
def read (format : GrammarFormat) (text : String) : Except GrammarError Document :=
  match format with
  | json => (Json.read text).mapError .json
  | yaml =>
    match Yaml.read text with
    | some document => return document
    | none => throw .yaml

end GrammarFormat

namespace Grammar

/-- The grammar that a document describes, if the document is valid. -/
def validated (document : Document) (budget : Nat) : Except GrammarError Grammar := do
  match Schema.violations document budget with
  | [] => (ofDocument document).mapError .json
  | violations => throw (.invalid violations)

/-- The grammar in a file. -/
def load (files : FileTree) (path : String) (budget : Nat) : Except GrammarError Grammar := do
  let text ← (files.readText path).mapError .unreadable
  validated (← (GrammarFormat.ofPath path).read text) budget

end Grammar

namespace Repository

/-- Compiles a grammar once the document it is written as has been validated. -/
def ofGrammar (grammar : Grammar) (budget : Nat) : Except GrammarError Repository := do
  match Schema.violations grammar.toDocument budget with
  | [] => (compile grammar budget).mapError .pattern
  | violations => throw (.invalid violations)

/-- Compiles the grammar that a document describes. -/
def ofDocument (document : Document) (budget : Nat) : Except GrammarError Repository := do
  let grammar ← Grammar.validated document budget
  (compile grammar budget).mapError .pattern

end Repository

end ScopeScanner
