import ScopeScanner.Document.Pointer
import ScopeScanner.Grammar.Decode
import ScopeScanner.Pattern.Basic
import ScopeScanner.Pattern.EndTemplate
import ScopeScanner.Text.Blank

/-!
# Validating grammar documents

A document is checked before it is read as a grammar, so that all its problems are reported at once
and not only the first one. Each problem is located by a pointer to the node it was found at. Besides
shape and types the check covers what would otherwise only be noticed during a scan: every pattern
compiles, every reference leads to a rule, and the keys of a rule make sense together.

The problems of a node are those of its own keys followed by those of the nodes below it, in a fixed
order of keys; the problems of a list are those of its items one after the other.
-/

namespace ScopeScanner.Schema

open ScopeScanner

/-- What is wrong with a node of a grammar document. -/
inductive Problem where
  | grammarNotObject
  | ruleNotObject
  | captureNotObject
  | notString
  | notObject
  | notStringArray
  | notRuleArray
  | notBoolean
  | emptyText
  | missingKey (key : String)
  | unknownKey (key : String)
  /-- A reference has no content of its own. -/
  | referenceWith (key : String)
  | patternWithRegion
  | openingWithoutClosing
  | closingWithoutOpening
  | regionOnly (key : String)
  | capturesWithoutPattern
  | nothingToMatch
  | captureKeyNotNumber
  | unknownRule (name : String)
  | externalReference (reference : String)
  | invalidRegex (source : String)
deriving DecidableEq, Repr

/-- What is wrong, in words. -/
def Problem.message : Problem → String
  | grammarNotObject => "grammar must be an object"
  | ruleNotObject => "rule must be an object"
  | captureNotObject => "capture must be an object"
  | notString => "must be a string"
  | notObject => "must be an object"
  | notStringArray => "must be an array of strings"
  | notRuleArray => "must be an array of rules"
  | notBoolean => "must be a boolean"
  | emptyText => "must not be empty"
  | missingKey key => "missing required key `" ++ key ++ "`"
  | unknownKey key => "unknown key `" ++ key ++ "`"
  | referenceWith key => "`include` cannot be combined with `" ++ key ++ "`"
  | patternWithRegion => "`match` cannot be combined with `begin`/`end`"
  | openingWithoutClosing => "`begin` requires `end`"
  | closingWithoutOpening => "`end` requires `begin`"
  | regionOnly key => "`" ++ key ++ "` is only valid on a `begin`/`end` rule"
  | capturesWithoutPattern => "`captures` is only valid on a `match` or `begin`/`end` rule"
  | nothingToMatch => "rule has nothing to match"
  | captureKeyNotNumber => "capture key must be a group number"
  | unknownRule name => "unknown rule `" ++ name ++ "`"
  | externalReference reference =>
    "references to external grammars are not supported: `" ++ reference ++ "`"
  | invalidRegex source => "invalid regex `" ++ source ++ "`"

/-- A problem and the pointer to the node it was found at. -/
structure Violation where
  path : String
  problem : Problem
deriving DecidableEq, Repr

/-- A violation on a line of its own, the root being shown as a slash. -/
def Violation.text (violation : Violation) : String :=
  (if violation.path.isEmpty then "/" else violation.path) ++ ": " ++ violation.problem.message

/-- All violations as one message. -/
def report (violations : List Violation) : String :=
  violations.foldl (fun text violation => text ++ "\n  " ++ violation.text)
    ("grammar failed schema validation with " ++
      String.ofList (Nat.toDigits 10 violations.length) ++ " violation(s)")

/-- What the checks need to know about the whole document. -/
structure Context where
  /-- Keys of the repository. -/
  rules : List String
  /-- The budget patterns are compiled with. -/
  budget : Nat

/-- One problem at a node. -/
def problem (path : String) (problem : Problem) : List Violation :=
  [⟨path, problem⟩]

/-- One problem at a node, if a condition holds. -/
def problemIf (condition : Bool) (path : String) (problem : Problem) : List Violation :=
  if condition then [⟨path, problem⟩] else []

/-- Checks that a value, if there is one, is a text, and goes on with the text. -/
def checkText (path : String) (value : Option Document)
    (further : String → List Violation := fun _ => []) : List Violation :=
  match value with
  | none => []
  | some (.string text) => further text
  | some _ => problem path .notString

/-- Checks that a pattern compiles. -/
def checkRegex (context : Context) (path source : String) : List Violation :=
  match Pattern.compile source context.budget with
  | .ok _ => []
  | .error error => problem path (.invalidRegex error.source)

/-- Checks the end of a region. A template is checked with empty texts in place of the groups it
refers to. -/
def checkClosing (context : Context) (path source : String) : List Violation :=
  match EndTemplate.ofSource? source with
  | some template => checkRegex context path (template.instantiate [])
  | none => checkRegex context path source

/-- Checks that a reference leads to a rule of this grammar. -/
def checkReference (context : Context) (path reference : String) : List Violation :=
  if reference = "$self" || reference = "$base" then []
  else match reference.toList with
    | '#' :: name =>
      let name := String.ofList name
      problemIf (!context.rules.contains name) path (.unknownRule name)
    | _ => problem path (.externalReference reference)

/-- Checks that all keys are known. -/
def checkKeys (path : String) (known : List String) (entries : List (String × Document)) :
    List Violation :=
  entries.flatMap fun entry => problemIf (!known.contains entry.1) path (.unknownKey entry.1)

/-- Whether a text is a group number: one digit or more. -/
def isGroupNumber (key : String) : Bool :=
  !key.isEmpty && key.toList.all Char.isDigit

/-- Checks the keys of a rule and the values that are not rules themselves, before the maps of
captures and the list of rules below it. -/
def checkRuleKeys (context : Context) (path : String) (entries : List (String × Document)) :
    List Violation :=
  let value (key : String) := entries.lookup key
  let has (key : String) := (value key).isSome
  let region := has "begin"
  checkKeys path ruleKeys entries ++
  checkText (Pointer.key path "name") (value "name") ++
  checkText (Pointer.key path "contentName") (value "contentName") ++
  checkText (Pointer.key path "comment") (value "comment") ++
  (if has "include" then
    (["match", "begin", "end", "patterns"].flatMap fun key =>
      problemIf (has key) path (.referenceWith key)) ++
    checkText (Pointer.key path "include") (value "include")
      (checkReference context (Pointer.key path "include"))
  else []) ++
  problemIf (has "match" && (has "begin" || has "end")) path .patternWithRegion ++
  problemIf (has "begin" && !has "end") path .openingWithoutClosing ++
  problemIf (has "end" && !has "begin") path .closingWithoutOpening ++
  (["beginCaptures", "endCaptures", "contentName", "applyEndPatternLast"].flatMap fun key =>
    problemIf (has key && !region) path (.regionOnly key)) ++
  problemIf (has "captures" && !(has "match" || region)) path .capturesWithoutPattern ++
  problemIf (!has "include" && !has "match" && !region && lacksRules (value "patterns")) path
    .nothingToMatch ++
  checkText (Pointer.key path "match") (value "match")
    (checkRegex context (Pointer.key path "match")) ++
  checkText (Pointer.key path "begin") (value "begin")
    (checkRegex context (Pointer.key path "begin")) ++
  checkText (Pointer.key path "end") (value "end")
    (checkClosing context (Pointer.key path "end")) ++
  match value "applyEndPatternLast" with
  | none | some (.bool _) => []
  | some _ => problem (Pointer.key path "applyEndPatternLast") .notBoolean
where
  /-- Whether a list of rules is absent or empty. -/
  lacksRules : Option Document → Bool
    | none => true
    | some (.array items) => items.isEmpty
    | some _ => false

mutual

/-- Checks a rule. -/
def checkRule (context : Context) (path : String) : Document → List Violation
  | .object entries =>
    let below := checkBelow context path entries
    let part (key : String) := (below.lookup key).getD []
    checkRuleKeys context path entries ++
      part "captures" ++ part "beginCaptures" ++ part "endCaptures" ++ part "patterns"
  | _ => problem path .ruleNotObject

/-- The violations below a rule, by the keys they are found under. -/
def checkBelow (context : Context) (path : String) :
    List (String × Document) → List (String × List Violation)
  | [] => []
  | (key, value) :: rest =>
    let violations := match key with
      | "captures" | "beginCaptures" | "endCaptures" =>
        match value with
        | .object entries => checkCaptures context (Pointer.key path key) entries
        | _ => problem (Pointer.key path key) .notObject
      | "patterns" =>
        match value with
        | .array items => checkRules context (Pointer.key path key) 0 items
        | _ => problem (Pointer.key path key) .notRuleArray
      | _ => []
    (key, violations) :: checkBelow context path rest

/-- Checks the items of a list of rules from an index on. -/
def checkRules (context : Context) (path : String) : (index : Nat) → List Document → List Violation
  | _, [] => []
  | index, item :: rest =>
    checkRule context (Pointer.index path index) item ++ checkRules context path (index + 1) rest

/-- Checks the entries of a map of captures. -/
def checkCaptures (context : Context) (path : String) :
    List (String × Document) → List Violation
  | [] => []
  | (key, value) :: rest =>
    let here := Pointer.key path key
    problemIf (!isGroupNumber key) here .captureKeyNotNumber ++
    (match value with
    | .object entries =>
      checkKeys here captureKeys entries ++
      checkText (Pointer.key here "name") (entries.lookup "name") ++
      ((checkCaptureRules context here entries).lookup "patterns").getD []
    | _ => problem here .captureNotObject) ++
    checkCaptures context path rest

/-- The violations of the rules of a capture, by the key they are found under. -/
def checkCaptureRules (context : Context) (path : String) :
    List (String × Document) → List (String × List Violation)
  | [] => []
  | (key, value) :: rest =>
    let violations := match key with
      | "patterns" =>
        match value with
        | .array items => checkRules context (Pointer.key path key) 0 items
        | _ => problem (Pointer.key path key) .notRuleArray
      | _ => []
    (key, violations) :: checkCaptureRules context path rest

end

/-- Checks a list of rules. -/
def checkRuleList (context : Context) (path : String) : Document → List Violation
  | .array items => checkRules context path 0 items
  | _ => problem path .notRuleArray

/-- Checks the scope name, which has to be there and must not be blank. -/
def checkScopeName : Option Document → List Violation
  | some (.string scope) => problemIf (Text.isBlank scope) "/scopeName" .emptyText
  | some _ => problem "/scopeName" .notString
  | none => problem "" (.missingKey "scopeName")

/-- Checks the list of file types. -/
def checkFileTypes : Option Document → List Violation
  | none => []
  | some (.array items) =>
    items.zipIdx.flatMap fun (item, index) =>
      problemIf item.string?.isNone (Pointer.index "/fileTypes" index) .notString
  | some _ => problem "/fileTypes" .notStringArray

/-- Checks the rules of the repository. -/
def checkRepository (context : Context) (entries : List (String × Document)) : List Violation :=
  entries.flatMap fun entry => checkRule context (Pointer.key "/repository" entry.1) entry.2

/-- All violations of a grammar document, in order. -/
def violations (document : Document) (budget : Nat) : List Violation :=
  match document with
  | .object entries =>
    let value (key : String) := entries.lookup key
    let repository := match value "repository" with
      | some (.object entries) => entries
      | _ => []
    let context : Context := { rules := repository.map (·.1), budget }
    checkKeys "" grammarKeys entries ++
    (match value "repository" with
    | none | some (.object _) => []
    | some _ => problem "/repository" .notObject) ++
    checkScopeName (value "scopeName") ++
    (["name", "uuid", "keyEquivalent", "foldingStartMarker", "foldingStopMarker"].flatMap
      fun key => checkText (Pointer.key "" key) (value key)) ++
    checkText "/firstLineMatch" (value "firstLineMatch") (checkRegex context "/firstLineMatch") ++
    checkFileTypes (value "fileTypes") ++
    (match value "patterns" with
    | some patterns => checkRuleList context "/patterns" patterns
    | none => problem "" (.missingKey "patterns")) ++
    checkRepository context repository
  | _ => problem "" .grammarNotObject

end ScopeScanner.Schema
