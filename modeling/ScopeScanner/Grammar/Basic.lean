import ScopeScanner.Document.Basic

/-!
# Grammars

A grammar as it is written: a list of rules and a repository of named rules, each a record of
optional fields. Which fields are set decides what a rule does: `pattern` makes a simple rule,
`opening` and `closing` a region, `reference` a link to another rule, and a list of rules alone a
group. The order of lists and maps matters and is kept.

The functions that start a rule and those that add to it are meant to be chained, so that a grammar
can be written down in the language of this library.
-/

namespace ScopeScanner

/-- What a group of a match stands for: a scope, rules to apply inside it, or both. -/
structure CaptureSpec (Rule : Type) where
  name : Option String := none
  patterns : List Rule := []

/-- A rule as it is written. -/
structure RuleSpec where
  reference : Option String := none
  pattern : Option String := none
  opening : Option String := none
  closing : Option String := none
  name : Option String := none
  contentName : Option String := none
  captures : List (String × CaptureSpec RuleSpec) := []
  openingCaptures : List (String × CaptureSpec RuleSpec) := []
  closingCaptures : List (String × CaptureSpec RuleSpec) := []
  patterns : List RuleSpec := []
  closingLast : Bool := false
  comment : Option String := none

instance : Inhabited RuleSpec := ⟨{}⟩

/-- A grammar as it is written. -/
structure Grammar where
  fileTypes : List String := []
  firstLineMatch : Option String := none
  foldingStartMarker : Option String := none
  foldingStopMarker : Option String := none
  keyEquivalent : Option String := none
  repository : List (String × RuleSpec) := []
  uuid : Option String := none
  patterns : List RuleSpec := []
  name : Option String := none
  scopeName : String
deriving Inhabited

namespace Grammar

/-- A grammar without rules for a root scope. -/
def ofScope (scopeName : String) : Grammar :=
  { scopeName }

/-- Adds a rule to the end of the top-level list. -/
def withPattern (grammar : Grammar) (rule : RuleSpec) : Grammar :=
  { grammar with patterns := grammar.patterns ++ [rule] }

/-- Adds a named rule to the repository, or replaces the one of that name. -/
def withRule (grammar : Grammar) (key : String) (rule : RuleSpec) : Grammar :=
  { grammar with repository := insertEntry grammar.repository key rule }

end Grammar

/-- A group number as the key of a map of captures. -/
def groupKey (number : Nat) : String :=
  String.ofList (Nat.toDigits 10 number)

namespace RuleSpec

/-- A simple rule: one pattern. -/
def simple (pattern : String) : RuleSpec :=
  { pattern := some pattern }

/-- A region between two patterns. -/
def region (opening closing : String) : RuleSpec :=
  { opening := some opening, closing := some closing }

/-- A link to another rule. -/
def link (reference : String) : RuleSpec :=
  { reference := some reference }

/-- A list of rules. -/
def group (patterns : List RuleSpec) : RuleSpec :=
  { patterns }

def withScope (rule : RuleSpec) (name : String) : RuleSpec :=
  { rule with name := some name }

def withContentScope (rule : RuleSpec) (name : String) : RuleSpec :=
  { rule with contentName := some name }

/-- Gives a group a scope and nothing else. -/
def withCapture (rule : RuleSpec) (number : Nat) (name : String) : RuleSpec :=
  { rule with captures := insertEntry rule.captures (groupKey number) { name := some name } }

def withOpeningCapture (rule : RuleSpec) (number : Nat) (name : String) : RuleSpec :=
  { rule with
    openingCaptures := insertEntry rule.openingCaptures (groupKey number) { name := some name } }

def withClosingCapture (rule : RuleSpec) (number : Nat) (name : String) : RuleSpec :=
  { rule with
    closingCaptures := insertEntry rule.closingCaptures (groupKey number) { name := some name } }

/-- Gives a group rules of its own and keeps its scope. -/
def withCapturePatterns (rule : RuleSpec) (number : Nat) (patterns : List RuleSpec) : RuleSpec :=
  let name := (rule.captures.lookup (groupKey number)).bind (·.name)
  { rule with captures := insertEntry rule.captures (groupKey number) { name, patterns } }

def withPattern (rule : RuleSpec) (pattern : RuleSpec) : RuleSpec :=
  { rule with patterns := rule.patterns ++ [pattern] }

/-- Tries the end of the region after the rules inside it. -/
def withClosingLast (rule : RuleSpec) : RuleSpec :=
  { rule with closingLast := true }

def withComment (rule : RuleSpec) (text : String) : RuleSpec :=
  { rule with comment := some text }

end RuleSpec

end ScopeScanner
