import ScopeScanner.Grammar.Basic
import ScopeScanner.Json.Reader

/-!
# Reading grammars

A grammar is read from what was read of a JSON text. Unknown keys are skipped, a known key must not
occur twice in a record, and optional texts may be written as `null`. A record may also be written
as the array of its fields in their fixed order, of which the last ones may be missing. Faults are
reported in the order in which they stand in the text.
-/

namespace ScopeScanner

open Json (Tree Fault Levels)

namespace Json

/-- The fault of a value that is not of the expected kind. A value that cannot be read at all is
reported as such. -/
def Tree.unexpected : Tree → Fault
  | .broken fault => fault
  | .number literal => if outOfRange literal then .malformed else .mismatch
  | .string none | .brokenText _ | .keyless _ => .malformed
  | _ => .mismatch

mutual

/-- Passes over a value, whatever it is. -/
def Tree.ignore : Tree → Except Fault Unit
  | .broken fault | .brokenText fault => throw fault
  | .keyless value => value.ignore
  | .array items tail => do
    ignoreItems items
    match tail with
    | some fault => throw fault
    | none => return
  | .object entries tail => do
    ignoreEntries entries
    match tail with
    | some fault => throw fault
    | none => return
  | _ => return

/-- Passes over the items of an array. -/
def ignoreItems : List Tree → Except Fault Unit
  | [] => return
  | item :: rest => do
    item.ignore
    ignoreItems rest

/-- Passes over the entries of an object. -/
def ignoreEntries : List (String × Tree) → Except Fault Unit
  | [] => return
  | (_, value) :: rest => do
    value.ignore
    ignoreEntries rest

end

/-- Reads a text. -/
def Tree.text : Tree → Except Fault String
  | .string (some value) => return value
  | tree => throw tree.unexpected

/-- Reads a text or `null`. -/
def Tree.optionalText : Tree → Except Fault (Option String)
  | .null => return none
  | tree => some <$> tree.text

/-- Reads a flag. -/
def Tree.flag : Tree → Except Fault Bool
  | .bool value => return value
  | tree => throw tree.unexpected

/-- Reads an array of texts. -/
def Tree.texts (levels : Levels) : Tree → Except Fault (List String)
  | .array items tail => do
    let _ ← levels.enter
    let values ← items.mapM Tree.text
    match tail with
    | some fault => throw fault
    | none => return values
  | tree => throw tree.unexpected

/-- Passes a result on unless the array or object it was read from has a fault at its end. -/
def closeWith {α : Type} (tail : Option Fault) (value : α) : Except Fault α :=
  match tail with
  | some fault => throw fault
  | none => return value

end Json

open Json

/-- The keys of a rule in the order of its fields. -/
def ruleKeys : List String :=
  ["include", "match", "begin", "end", "name", "contentName", "captures", "beginCaptures",
    "endCaptures", "patterns", "applyEndPatternLast", "comment"]

/-- The keys of a capture in the order of its fields. -/
def captureKeys : List String := ["name", "patterns"]

/-- The keys of a grammar in the order of its fields. -/
def grammarKeys : List String :=
  ["fileTypes", "firstLineMatch", "foldingStartMarker", "foldingStopMarker", "keyEquivalent",
    "repository", "uuid", "patterns", "name", "scopeName"]

/-- Notes that a known key has been met; meeting it again is a fault, and so is a key that is not
text. -/
def noteKey (known seen : List String) (key : String) (value : Tree) :
    Except Fault (List String) :=
  match value with
  | .keyless _ => throw .malformed
  | _ =>
    if !known.contains key then return seen
    else if seen.contains key then throw .mismatch
    else return key :: seen

/-- Sets the map of captures that is written under a key. -/
def RuleSpec.setCaptures (rule : RuleSpec) (key : String)
    (captures : List (String × CaptureSpec RuleSpec)) : RuleSpec :=
  match key with
  | "beginCaptures" => { rule with openingCaptures := captures }
  | "endCaptures" => { rule with closingCaptures := captures }
  | _ => { rule with captures }

mutual

/-- Reads a rule. -/
def readRule (levels : Levels) : Tree → Except Fault RuleSpec
  | .object entries tail => do
    closeWith tail (← readRuleEntries (← levels.enter) entries [] {})
  | .array items tail => do
    closeWith tail (← readRuleItems (← levels.enter) items ruleKeys {})
  | tree => throw tree.unexpected

/-- Reads the entries of a rule that are left, after those that have been `seen`. -/
def readRuleEntries (levels : Levels) :
    List (String × Tree) → (seen : List String) → RuleSpec → Except Fault RuleSpec
  | [], _, rule => return rule
  | (key, value) :: rest, seen, rule => do
    let seen ← noteKey ruleKeys seen key value
    let rule ← readRuleField levels key value rule
    readRuleEntries levels rest seen rule

/-- Reads the fields of a rule written as an array. -/
def readRuleItems (levels : Levels) :
    List Tree → (keys : List String) → RuleSpec → Except Fault RuleSpec
  | [], _, rule => return rule
  | _ :: _, [], _ => throw .malformed
  | item :: rest, key :: keys, rule => do
    let rule ← readRuleField levels key item rule
    readRuleItems levels rest keys rule

/-- Reads one field of a rule. -/
def readRuleField (levels : Levels) (key : String) (tree : Tree) (rule : RuleSpec) :
    Except Fault RuleSpec :=
  match key with
  | "include" => do return { rule with reference := ← tree.optionalText }
  | "match" => do return { rule with pattern := ← tree.optionalText }
  | "begin" => do return { rule with opening := ← tree.optionalText }
  | "end" => do return { rule with closing := ← tree.optionalText }
  | "name" => do return { rule with name := ← tree.optionalText }
  | "contentName" => do return { rule with contentName := ← tree.optionalText }
  | "captures" | "beginCaptures" | "endCaptures" =>
    match tree with
    | .object entries tail => do
      let captures ← closeWith tail (← readCapturesIn (← levels.enter) entries [])
      return rule.setCaptures key captures
    | tree => throw tree.unexpected
  | "patterns" =>
    match tree with
    | .array items tail => do
      return { rule with patterns := ← closeWith tail (← readRulesIn (← levels.enter) items) }
    | tree => throw tree.unexpected
  | "applyEndPatternLast" => do return { rule with closingLast := ← tree.flag }
  | "comment" => do return { rule with comment := ← tree.optionalText }
  | _ => do
    tree.ignore
    return rule

/-- Reads the items of a list of rules. -/
def readRulesIn (levels : Levels) : List Tree → Except Fault (List RuleSpec)
  | [] => return []
  | item :: rest => do
    let rule ← readRule levels item
    return rule :: (← readRulesIn levels rest)

/-- Reads the entries of a map of captures, after those that have been read already. -/
def readCapturesIn (levels : Levels) :
    List (String × Tree) → List (String × CaptureSpec RuleSpec) →
      Except Fault (List (String × CaptureSpec RuleSpec))
  | [], done => return done
  | (key, value) :: rest, done => do
    let capture ← readCapture levels value
    readCapturesIn levels rest (insertEntry done key capture)

/-- Reads a capture. -/
def readCapture (levels : Levels) : Tree → Except Fault (CaptureSpec RuleSpec)
  | .object entries tail => do
    closeWith tail (← readCaptureEntries (← levels.enter) entries [] {})
  | .array items tail => do
    closeWith tail (← readCaptureItems (← levels.enter) items captureKeys {})
  | tree => throw tree.unexpected

/-- Reads the entries of a capture that are left, after those that have been `seen`. -/
def readCaptureEntries (levels : Levels) :
    List (String × Tree) → (seen : List String) → CaptureSpec RuleSpec →
      Except Fault (CaptureSpec RuleSpec)
  | [], _, capture => return capture
  | (key, value) :: rest, seen, capture => do
    let seen ← noteKey captureKeys seen key value
    let capture ← readCaptureField levels key value capture
    readCaptureEntries levels rest seen capture

/-- Reads the fields of a capture written as an array. -/
def readCaptureItems (levels : Levels) :
    List Tree → (keys : List String) → CaptureSpec RuleSpec → Except Fault (CaptureSpec RuleSpec)
  | [], _, capture => return capture
  | _ :: _, [], _ => throw .malformed
  | item :: rest, key :: keys, capture => do
    let capture ← readCaptureField levels key item capture
    readCaptureItems levels rest keys capture

/-- Reads one field of a capture. -/
def readCaptureField (levels : Levels) (key : String) (tree : Tree)
    (capture : CaptureSpec RuleSpec) : Except Fault (CaptureSpec RuleSpec) :=
  match key with
  | "name" => do return { capture with name := ← tree.optionalText }
  | "patterns" =>
    match tree with
    | .array items tail => do
      return { capture with patterns := ← closeWith tail (← readRulesIn (← levels.enter) items) }
    | tree => throw tree.unexpected
  | _ => do
    tree.ignore
    return capture

end

/-- Reads a list of rules. -/
def readRules (levels : Levels) : Tree → Except Fault (List RuleSpec)
  | .array items tail => do closeWith tail (← readRulesIn (← levels.enter) items)
  | tree => throw tree.unexpected

/-- Reads the entries of a repository, after those that have been read already. -/
def readRepositoryIn (levels : Levels) :
    List (String × Tree) → List (String × RuleSpec) → Except Fault (List (String × RuleSpec))
  | [], done => return done
  | (key, value) :: rest, done => do
    let rule ← readRule levels value
    readRepositoryIn levels rest (insertEntry done key rule)

/-- Reads a repository. -/
def readRepository (levels : Levels) : Tree → Except Fault (List (String × RuleSpec))
  | .object entries tail => do closeWith tail (← readRepositoryIn (← levels.enter) entries [])
  | tree => throw tree.unexpected

/-- Reads one field of a grammar. -/
def readGrammarField (levels : Levels) (key : String) (tree : Tree) (grammar : Grammar) :
    Except Fault Grammar :=
  match key with
  | "fileTypes" => do return { grammar with fileTypes := ← tree.texts levels }
  | "firstLineMatch" => do return { grammar with firstLineMatch := ← tree.optionalText }
  | "foldingStartMarker" => do return { grammar with foldingStartMarker := ← tree.optionalText }
  | "foldingStopMarker" => do return { grammar with foldingStopMarker := ← tree.optionalText }
  | "keyEquivalent" => do return { grammar with keyEquivalent := ← tree.optionalText }
  | "repository" => do return { grammar with repository := ← readRepository levels tree }
  | "uuid" => do return { grammar with uuid := ← tree.optionalText }
  | "patterns" => do return { grammar with patterns := ← readRules levels tree }
  | "name" => do return { grammar with name := ← tree.optionalText }
  | "scopeName" => do return { grammar with scopeName := ← tree.text }
  | _ => do
    tree.ignore
    return grammar

/-- Reads the entries of a grammar that are left, after those that have been `seen`, and returns
with the grammar all known keys that were met. -/
def readGrammarEntries (levels : Levels) :
    List (String × Tree) → (seen : List String) → Grammar → Except Fault (Grammar × List String)
  | [], seen, grammar => return (grammar, seen)
  | (key, value) :: rest, seen, grammar => do
    let seen ← noteKey grammarKeys seen key value
    let grammar ← readGrammarField levels key value grammar
    readGrammarEntries levels rest seen grammar

/-- Reads the fields of a grammar written as an array. The fault at the end of the array comes
before a missing field. -/
def readGrammarItems (levels : Levels) (tail : Option Fault) :
    List Tree → (keys : List String) → Grammar → Except Fault Grammar
  | [], keys, grammar => do
    let grammar ← closeWith tail grammar
    if keys.isEmpty then return grammar else throw .mismatch
  | _ :: _, [], _ => throw .malformed
  | item :: rest, key :: keys, grammar => do
    let grammar ← readGrammarField levels key item grammar
    readGrammarItems levels tail rest keys grammar

/-- Reads a grammar. The scope name has to be there. -/
def readGrammar (levels : Levels) : Tree → Except Fault Grammar
  | .object entries tail => do
    let (grammar, seen) ← readGrammarEntries (← levels.enter) entries [] (.ofScope "")
    let grammar ← closeWith tail grammar
    if seen.contains "scopeName" then return grammar else throw .mismatch
  | .array items tail => do
    readGrammarItems (← levels.enter) tail items grammarKeys (.ofScope "")
  | tree => throw tree.unexpected

namespace Grammar

/-- The grammar written by a JSON text, which is not validated. -/
def ofJson (text : String) : Except Fault Grammar :=
  let reading := Json.readTree text
  reading.finish (readGrammar Json.textLevels reading.tree)

/-- The grammar that a document describes, which is not validated. -/
def ofDocument (document : Document) : Except Fault Grammar :=
  readGrammar none (Tree.ofDocument document)

end Grammar

end ScopeScanner
