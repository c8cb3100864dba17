import ScopeScanner.Grammar.Basic
import ScopeScanner.Json.Printer

/-!
# Writing grammars

The document of a grammar. Fields that say nothing are left out: absent texts, empty maps and lists,
and a flag that is not set. Only the two lists of rules of the grammar itself are always written.
-/

namespace ScopeScanner

/-- A field with a text, if there is one. -/
def textField (key : String) (value : Option String) : List (String × Document) :=
  match value with
  | some value => [(key, .string value)]
  | none => []

/-- A field with an array, unless it is empty. -/
def arrayField (key : String) (items : List Document) : List (String × Document) :=
  if items.isEmpty then [] else [(key, .array items)]

/-- A field with an object, unless it is empty. -/
def objectField (key : String) (entries : List (String × Document)) : List (String × Document) :=
  if entries.isEmpty then [] else [(key, .object entries)]

/-- A field with a flag, if it is set. -/
def flagField (key : String) (value : Bool) : List (String × Document) :=
  if value then [(key, .bool true)] else []

mutual

/-- The document of a rule. -/
def RuleSpec.toDocument : RuleSpec → Document
  | ⟨reference, pattern, opening, closing, name, contentName, captures, openingCaptures,
      closingCaptures, patterns, closingLast, comment⟩ =>
    .object (textField "include" reference ++ textField "match" pattern ++
      textField "begin" opening ++ textField "end" closing ++ textField "name" name ++
      textField "contentName" contentName ++
      objectField "captures" (captureDocuments captures) ++
      objectField "beginCaptures" (captureDocuments openingCaptures) ++
      objectField "endCaptures" (captureDocuments closingCaptures) ++
      arrayField "patterns" (ruleDocuments patterns) ++
      flagField "applyEndPatternLast" closingLast ++ textField "comment" comment)

/-- The documents of a list of rules. -/
def ruleDocuments : List RuleSpec → List Document
  | [] => []
  | rule :: rest => rule.toDocument :: ruleDocuments rest

/-- The documents of a map of captures. -/
def captureDocuments : List (String × CaptureSpec RuleSpec) → List (String × Document)
  | [] => []
  | (key, ⟨name, patterns⟩) :: rest =>
    (key, .object (textField "name" name ++ arrayField "patterns" (ruleDocuments patterns))) ::
      captureDocuments rest

end

namespace Grammar

/-- The document of a grammar. -/
def toDocument (grammar : Grammar) : Document :=
  .object (
    arrayField "fileTypes" (grammar.fileTypes.map .string) ++
    textField "firstLineMatch" grammar.firstLineMatch ++
    textField "foldingStartMarker" grammar.foldingStartMarker ++
    textField "foldingStopMarker" grammar.foldingStopMarker ++
    textField "keyEquivalent" grammar.keyEquivalent ++
    [("repository", .object (grammar.repository.map fun entry => (entry.1, entry.2.toDocument)))] ++
    textField "uuid" grammar.uuid ++
    [("patterns", .array (ruleDocuments grammar.patterns))] ++
    textField "name" grammar.name ++
    [("scopeName", .string grammar.scopeName)])

/-- The compact JSON text of a grammar. -/
def toJson (grammar : Grammar) : String :=
  Json.print grammar.toDocument

/-- The indented JSON text of a grammar. -/
def toIndentedJson (grammar : Grammar) : String :=
  Json.printIndented grammar.toDocument

end Grammar

end ScopeScanner
