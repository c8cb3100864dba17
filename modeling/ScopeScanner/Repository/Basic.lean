import ScopeScanner.Files.Path
import ScopeScanner.Grammar.Decode
import ScopeScanner.Grammar.Encode
import ScopeScanner.Grammar.Schema
import ScopeScanner.Repository.Rule

/-!
# Repositories

A repository is a compiled grammar: the row of its rules, the names under which some of them are
known, and the rule that stands for the top-level list. Rules are numbered in the order in which
they are completed, so a rule comes after the rules written inside it and the top-level rule comes
last.
-/

namespace ScopeScanner

/-- A compiled grammar. -/
structure Repository where
  rules : Array Rule
  names : List (String × RuleId)
  root : RuleId
  scopeName : String
  fileTypes : List String
  firstLine : Option Pattern
  /-- The budget all patterns were compiled with. -/
  budget : Nat

/-- A name that no entry of the repository has. -/
structure UnknownRule where
  name : String
deriving DecidableEq, Repr

/-- The missing entry, in words. -/
def UnknownRule.message (missing : UnknownRule) : String :=
  "unknown rule `" ++ missing.name ++ "`"

namespace Repository

/-- The rule with a number. -/
def rule? (repository : Repository) (id : RuleId) : Option Rule :=
  repository.rules[id]?

/-- What the rule with a number does. -/
def kind? (repository : Repository) (id : RuleId) : Option RuleKind :=
  (repository.rule? id).map Rule.kind

/-- The entry of the repository with a name. -/
def resolve? (repository : Repository) (name : String) : Option Rule :=
  (repository.names.lookup name).bind repository.rule?

/-- The entry of the repository with a name, which has to be there. -/
def resolve (repository : Repository) (name : String) : Except UnknownRule Rule :=
  match repository.resolve? name with
  | some rule => return rule
  | none => throw ⟨name⟩

/-- The rule that a reference leads to. -/
def lookup? (repository : Repository) : RuleRef → Option Rule
  | .named name => repository.resolve? name
  | .root => repository.rule? repository.root
  | .inline id => repository.rule? id

end Repository

namespace Compile

/-- The reference that a text stands for. Number signs in front of a name are dropped. -/
def parseReference (reference : String) : RuleRef :=
  if reference = "$self" || reference = "$base" then .root
  else .named (String.ofList (reference.toList.dropWhile (· = '#')))

/-- The scopes listed in a name. -/
def scopesOf (name : Option String) : List String :=
  match name with
  | some name => Text.words name
  | none => []

/-- The largest group number that is taken into account. -/
def maxGroupNumber : Nat := Nat.pow 2 64 - 1

/-- The group number written as the key of a capture. -/
def groupNumber? (key : String) : Option Nat :=
  if Schema.isGroupNumber key then
    let number := Regex.decimalNumber key.toList
    if number ≤ maxGroupNumber then some number else none
  else none

/-- Adds a rule to the row. -/
def push (key : Option String) (scopes : List String) (kind : RuleKind) (rules : Array Rule) :
    RuleId × Array Rule :=
  (rules.size, rules.push { id := rules.size, key, scopes, kind })

/-- Compiles the end of a region. -/
def closingPattern (budget : Nat) (source : String) : Except PatternError EndPattern :=
  match EndTemplate.ofSource? source with
  | some template => return .template template
  | none => .fixed <$> Pattern.compile source budget

mutual

/-- Compiles a rule and the rules written inside it, and adds them to the row. -/
def rule (budget : Nat) (key : Option String) :
    RuleSpec → Array Rule → Except PatternError (RuleId × Array Rule)
  | ⟨reference, pattern, opening, closing, name, contentName, captures, openingCaptures,
      closingCaptures, patterns, closingLast, _⟩, rules =>
    let scopes := scopesOf name
    match reference, pattern, opening, closing with
    | some reference, _, _, _ => return push key scopes (.link (parseReference reference)) rules
    | none, some pattern, _, _ => do
      let pattern ← Pattern.compile pattern budget
      let (captures, rules) ← captureMap budget captures [] rules
      return push key scopes (.simple pattern captures) rules
    | none, none, some opening, some closing => do
      let closing ← closingPattern budget closing
      let opening ← Pattern.compile opening budget
      let (openingMap, rules) ←
        if openingCaptures.isEmpty then captureMap budget captures [] rules
        else captureMap budget openingCaptures [] rules
      let (closingMap, rules) ←
        if closingCaptures.isEmpty then captureMap budget captures [] rules
        else captureMap budget closingCaptures [] rules
      let (patterns, rules) ← ruleList budget patterns rules
      let region : Region := {
        opening, closing, openingCaptures := openingMap, closingCaptures := closingMap, patterns,
        contentScopes := scopesOf contentName, closingLast }
      return push key scopes (.region region) rules
    | none, none, _, _ => do
      let (patterns, rules) ← ruleList budget patterns rules
      return push key scopes (.group patterns) rules

/-- Compiles a list of rules. A reference without a scope needs no rule of its own. -/
def ruleList (budget : Nat) :
    List RuleSpec → Array Rule → Except PatternError (List RuleRef × Array Rule)
  | [], rules => return ([], rules)
  | spec :: rest, rules => do
    let (reference, rules) ← match spec.reference, spec.name with
      | some reference, none => pure (parseReference reference, rules)
      | _, _ => do
        let (id, rules) ← rule budget none spec rules
        pure (.inline id, rules)
    let (references, rules) ← ruleList budget rest rules
    return (reference :: references, rules)

/-- Compiles a map of captures, after those that have been compiled already. A key that is no group
number is passed over; of two keys with one number the later counts. -/
def captureMap (budget : Nat) :
    List (String × CaptureSpec RuleSpec) → CaptureMap → Array Rule →
      Except PatternError (CaptureMap × Array Rule)
  | [], done, rules => return (done, rules)
  | (key, ⟨name, patterns⟩) :: rest, done, rules =>
    match groupNumber? key with
    | none => captureMap budget rest done rules
    | some number => do
      let (nested, rules) ←
        if patterns.isEmpty then pure (none, rules)
        else do
          let (references, rules) ← ruleList budget patterns rules
          let (id, rules) := push none [] (.group references) rules
          pure (some id, rules)
      captureMap budget rest (done.insert number { scopes := scopesOf name, rule := nested }) rules

end

/-- Compiles the entries of a repository, after the names that are known already. -/
def entries (budget : Nat) :
    List (String × RuleSpec) → List (String × RuleId) → Array Rule →
      Except PatternError (List (String × RuleId) × Array Rule)
  | [], names, rules => return (names, rules)
  | (key, spec) :: rest, names, rules => do
    let (id, rules) ← rule budget (some key) spec rules
    entries budget rest (insertEntry names key id) rules

end Compile

namespace Repository

/-- Compiles a grammar that has been validated. -/
def compile (grammar : Grammar) (budget : Nat) : Except PatternError Repository := do
  let (names, rules) ← Compile.entries budget grammar.repository [] #[]
  let (patterns, rules) ← Compile.ruleList budget grammar.patterns rules
  let (root, rules) :=
    Compile.push none (Compile.scopesOf (some grammar.scopeName)) (.group patterns) rules
  let firstLine ← match grammar.firstLineMatch with
    | some source => some <$> Pattern.compile source budget
    | none => pure none
  return {
    rules, names, root, scopeName := grammar.scopeName, fileTypes := grammar.fileTypes, firstLine,
    budget }

/-- Whether a file looks as if it were written in the language of the grammar: by its name, which
is an extension or ends in one, or by its first line. -/
def accepts (repository : Repository) (path : String) (firstLine : String) : Bool :=
  let byName := (Path.fileName? path).any fun name => repository.fileTypes.any fun extension =>
    name = extension || ('.' :: extension.toList).isSuffixOf name.toList
  let byLine := repository.firstLine.any fun pattern =>
    match pattern.findAt (Line.ofString firstLine) 0 false with
    | .ok (some _) => true
    | _ => false
  byName || byLine

end Repository

end ScopeScanner
