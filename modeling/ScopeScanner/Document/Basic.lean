/-!
# Documents

An untyped document, as it is read from JSON or YAML. The entries of an object keep the order in
which they were written, because that order decides which rule of a grammar comes first. An object
holds each key once: writing a key again replaces the value and leaves the entry where it is.
-/

namespace ScopeScanner

/-- An untyped document. -/
inductive Document where
  | null
  | bool (value : Bool)
  /-- A number as it was written. -/
  | number (literal : String)
  | string (value : String)
  | array (items : List Document)
  | object (entries : List (String × Document))
deriving BEq, Repr, Inhabited

/-- Adds an entry to an ordered map, or replaces the value of the key where it stands. -/
def insertEntry {α : Type} (entries : List (String × α)) (key : String) (value : α) :
    List (String × α) :=
  match entries with
  | [] => [(key, value)]
  | entry :: rest =>
    if entry.1 = key then (key, value) :: rest else entry :: insertEntry rest key value

namespace Document

/-- The entries of an object. -/
def entries? : Document → Option (List (String × Document))
  | object entries => some entries
  | _ => none

/-- The items of an array. -/
def items? : Document → Option (List Document)
  | array items => some items
  | _ => none

/-- The text of a string. -/
def string? : Document → Option String
  | string value => some value
  | _ => none

/-- The value of an object's key. -/
def get? (document : Document) (key : String) : Option Document :=
  match document with
  | object entries => entries.lookup key
  | _ => none

end Document

end ScopeScanner
