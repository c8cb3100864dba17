import ScopeScanner.Document.Basic
import ScopeScanner.Json.Number

/-!
# What was read of a JSON text

Reading a JSON text never fails: it yields a tree that ends where the text stops being JSON. Whoever
walks the tree meets the faults in the order in which they stand in the text, after everything that
comes before them. So a reader that expects a certain shape reports a wrong value in front of a
missing bracket, and one that skips a value does not look into it more closely than it has to.
-/

namespace ScopeScanner.Json

open ScopeScanner

/-- Why a text could not be read. -/
inductive Fault where
  /-- The text ended too early. -/
  | endOfText
  /-- The text is not JSON, or is nested too deeply. -/
  | malformed
  /-- The text is JSON of another shape than expected. -/
  | mismatch
deriving DecidableEq, Repr

/-- A fault in words. -/
def Fault.message : Fault → String
  | endOfText => "the text ends too early"
  | malformed => "the text is not JSON"
  | mismatch => "the text does not have the expected shape"

/-- What was read of a JSON value. -/
inductive Tree where
  | null
  | bool (value : Bool)
  /-- A number as it was written. -/
  | number (literal : String)
  /-- A string, or none if its escapes do not form text. -/
  | string (value : Option String)
  /-- Items, and the fault that ended them before the closing bracket. -/
  | array (items : List Tree) (tail : Option Fault)
  /-- Entries, and the fault that ended them before the closing brace. -/
  | object (entries : List (String × Tree)) (tail : Option Fault)
  /-- A value that could not be read. -/
  | broken (fault : Fault)
  /-- A string that could not be read to its end, and whose escapes do not form text before. -/
  | brokenText (fault : Fault)
  /-- The value of an entry whose key is a string that is not text. -/
  | keyless (value : Tree)
deriving Inhabited

/-- How many more levels of arrays and objects may be entered, plus one; none for any number. -/
abbrev Levels := Option Nat

/-- The limit for texts: arrays and objects nest at most 127 levels deep. -/
def textLevels : Levels := some 128

/-- One level further down. -/
def Levels.enter : Levels → Except Fault Levels
  | none => return none
  | some (left + 2) => return some (left + 1)
  | some _ => throw .malformed

mutual

/-- The document that was read. -/
def Tree.toDocument (levels : Levels) : Tree → Except Fault Document
  | .null => return .null
  | .bool value => return .bool value
  | .number literal => if outOfRange literal then throw .malformed else return .number literal
  | .string (some value) => return .string value
  | .string none => throw .malformed
  | .broken fault => throw fault
  | .brokenText _ | .keyless _ => throw .malformed
  | .array items tail => do
    let items ← itemsToDocuments (← levels.enter) items
    match tail with
    | some fault => throw fault
    | none => return .array items
  | .object entries tail => do
    let entries ← entriesToDocuments (← levels.enter) entries []
    match tail with
    | some fault => throw fault
    | none => return .object entries

/-- The documents of the items of an array. -/
def itemsToDocuments (levels : Levels) : List Tree → Except Fault (List Document)
  | [] => return []
  | item :: rest => do
    let item ← item.toDocument levels
    return item :: (← itemsToDocuments levels rest)

/-- The documents of the entries of an object, after those that have been read already. -/
def entriesToDocuments (levels : Levels) :
    List (String × Tree) → List (String × Document) → Except Fault (List (String × Document))
  | [], done => return done
  | (key, value) :: rest, done => do
    let value ← value.toDocument levels
    entriesToDocuments levels rest (insertEntry done key value)

end

mutual

/-- A document as the tree of a text that was read without faults. -/
def Tree.ofDocument : Document → Tree
  | .null => .null
  | .bool value => .bool value
  | .number literal => .number literal
  | .string value => .string (some value)
  | .array items => .array (treesOfDocuments items) none
  | .object entries => .object (treesOfEntries entries) none

/-- The trees of the items of an array. -/
def treesOfDocuments : List Document → List Tree
  | [] => []
  | item :: rest => .ofDocument item :: treesOfDocuments rest

/-- The trees of the entries of an object. -/
def treesOfEntries : List (String × Document) → List (String × Tree)
  | [] => []
  | (key, value) :: rest => (key, .ofDocument value) :: treesOfEntries rest

end

end ScopeScanner.Json
