import ScopeScanner.Document.Basic

/-!
# Pointers into documents

A pointer is a text that leads from the root of a document to one of its nodes: a slash and a key
or an index for each step. In a key a tilde is written `~0` and a slash `~1`. The empty pointer is
the root.
-/

namespace ScopeScanner.Pointer

/-- A key as it is written in a pointer. -/
def encodeKey : List Char → List Char
  | [] => []
  | '~' :: rest => '~' :: '0' :: encodeKey rest
  | '/' :: rest => '~' :: '1' :: encodeKey rest
  | c :: rest => c :: encodeKey rest

/-- The pointer to the value of a key below another pointer. -/
def key (path key : String) : String :=
  path ++ "/" ++ String.ofList (encodeKey key.toList)

/-- The pointer to an item of an array below another pointer. -/
def index (path : String) (index : Nat) : String :=
  path ++ "/" ++ String.ofList (Nat.toDigits 10 index)

end ScopeScanner.Pointer
