import ScopeScanner.Pattern.Basic
import ScopeScanner.Pattern.EndTemplate
import ScopeScanner.Scanner.Candidate

/-!
# Compiled rules

Rules live in a row and are known by their position in it. References between rules are kept by
name and looked up when they are needed, because grammars are full of cycles.
-/

namespace ScopeScanner

/-- A reference from a list of rules to a rule. -/
inductive RuleRef where
  /-- An entry of the repository. -/
  | named (name : String)
  /-- The top-level list of the grammar. -/
  | root
  /-- A rule that was written in the list itself. -/
  | inline (id : RuleId)
deriving DecidableEq, Repr

/-- What a group of a match stands for. -/
structure Capture where
  scopes : List String := []
  /-- A group of rules to apply inside the span of the capture. -/
  rule : Option RuleId := none
deriving DecidableEq, Repr

/-- Captures by group number, in ascending order. -/
abbrev CaptureMap := List (Nat × Capture)

/-- Adds a capture where its number belongs, or replaces the one with that number. -/
def CaptureMap.insert (number : Nat) (capture : Capture) : CaptureMap → CaptureMap
  | [] => [(number, capture)]
  | entry :: rest =>
    if number < entry.1 then (number, capture) :: entry :: rest
    else if number = entry.1 then (number, capture) :: rest
    else entry :: CaptureMap.insert number capture rest

/-- The end of a region: always the same, or depending on how the region began. -/
inductive EndPattern where
  | fixed (pattern : Pattern)
  | template (template : EndTemplate)

namespace EndPattern

/-- The end as it was written. -/
def source : EndPattern → String
  | fixed pattern => pattern.source
  | template ending => ending.source

/-- Whether the end depends on how the region began. -/
def isTemplate : EndPattern → Bool
  | fixed _ => false
  | template _ => true

end EndPattern

/-- A stretch of text between a begin and an end, with rules of its own. -/
structure Region where
  opening : Pattern
  closing : EndPattern
  openingCaptures : CaptureMap
  closingCaptures : CaptureMap
  patterns : List RuleRef
  contentScopes : List String
  /-- Whether the end is tried after the rules inside the region. -/
  closingLast : Bool

/-- What a rule does. -/
inductive RuleKind where
  | simple (pattern : Pattern) (captures : CaptureMap)
  | region (region : Region)
  | group (patterns : List RuleRef)
  | link (target : RuleRef)

/-- A compiled rule. -/
structure Rule where
  id : RuleId
  /-- The name under which the repository holds the rule. -/
  key : Option String
  scopes : List String
  kind : RuleKind

namespace Rule

/-- A name for reports: the key, else the first scope, else the position. -/
def label (rule : Rule) : String :=
  match rule.key, rule.scopes with
  | some key, _ => key
  | none, scope :: _ => scope
  | none, [] => "rule#" ++ String.ofList (Nat.toDigits 10 rule.id)

/-- The rules that apply while this rule is innermost. -/
def patterns (rule : Rule) : List RuleRef :=
  match rule.kind with
  | .region region => region.patterns
  | .group patterns => patterns
  | .simple _ _ | .link _ => []

/-- The pattern by which the rule competes for the next match. -/
def pattern? (rule : Rule) : Option Pattern :=
  match rule.kind with
  | .simple pattern _ => some pattern
  | .region region => some region.opening
  | .group _ | .link _ => none

end Rule

end ScopeScanner
