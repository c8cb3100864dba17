import ScopeScanner.Document.Basic
import ScopeScanner.Settings.Value

/-!
# Keys of settings

A key leads to a value inside a table: names separated by dots, and indices in brackets for the items
of arrays. Names are compared without regard to case. Setting a value makes tables on the way where
there are none, and arrays where there is an index; a table is merged into the one that is there, any
other value replaces what is there.
-/

namespace ScopeScanner

/-- A step of a key. -/
inductive KeyStep where
  | name (name : String)
  | index (index : Int)
deriving DecidableEq, Repr

/-- A key. -/
abbrev SettingKey := List KeyStep

namespace SettingKey

/-- Whether a character may be part of a name. -/
def isNameChar (c : Char) : Bool :=
  c.isAlphanum || c = ' ' || c = '_' || c = '-'

/-- Whether a character may stand around an index. -/
def isSpace (c : Char) : Bool :=
  c = ' ' || c = '\t'

/-- The indices that can be written. -/
def isIndex (index : Int) : Bool :=
  -9223372036854775808 ≤ index && index ≤ 9223372036854775807

/-- Reads a name. -/
def readName (text : List Char) : Option (KeyStep × List Char) :=
  let name := text.takeWhile isNameChar
  if name.isEmpty then none else some (.name (String.ofList name), text.dropWhile isNameChar)

/-- Reads an index after its opening bracket. -/
def readIndex (text : List Char) : Option (KeyStep × List Char) :=
  let text := text.dropWhile isSpace
  let (negative, text) := match text with
    | '-' :: rest => (true, rest)
    | _ => (false, text)
  let digits := text.takeWhile Char.isDigit
  let value : Int := digits.foldl (fun n c => n * 10 + (c.toNat - '0'.toNat)) 0
  let index := if negative then -value else value
  match (text.dropWhile Char.isDigit).dropWhile isSpace with
  | ']' :: rest =>
    if digits.isEmpty || !isIndex index then none else some (.index index, rest)
  | _ => none

/-- Reads the steps after the first. -/
def readSteps : (fuel : Nat) → List Char → Option SettingKey
  | _, [] => some []
  | 0, _ => none
  | fuel + 1, c :: rest => do
    let (step, rest) ←
      if c = '.' then readName rest else if c = '[' then readIndex rest else none
    return step :: (← readSteps fuel rest)

/-- The key that a text stands for. -/
def ofText? (text : String) : Option SettingKey := do
  let (first, rest) ← readName text.toList
  return first :: (← readSteps rest.length rest)

end SettingKey

namespace Value

/-- The entries of a table; none for any other value. -/
def entries : Value → List (String × Value)
  | table entries => entries
  | _ => []

/-- The items of an array; none for any other value. -/
def items : Value → List Value
  | array items => items
  | _ => []

mutual

/-- Sets a name in the entries of a table. -/
def put (entries : List (String × Value)) (name : String) : Value → List (String × Value)
  | .table incoming =>
    insertEntry entries (lower name)
      (mergeEntries ((entries.lookup (lower name)).getD (.table [])) incoming)
  | value => insertEntry entries (lower name) value

/-- Sets all entries in a value, which becomes a table if there are any. -/
def mergeEntries (target : Value) : List (String × Value) → Value
  | [] => target
  | (name, value) :: rest => mergeEntries (.table (put target.entries name value)) rest

end

/-- The position that an index stands for. Negative indices count from the end. -/
def position (index : Int) (size : Nat) : Nat :=
  if 0 ≤ index then index.toNat else size - index.natAbs

/-- Puts a value into an array, which is made longer if need be. -/
def setItem (items : List Value) (position : Nat) (value : Value) : List Value :=
  (items ++ List.replicate (position + 1 - items.length) Value.null).set position value

/-- Sets a value inside another. -/
def assign (value : Value) : SettingKey → Value → Value
  | [], _ => value
  | [.name name], target => .table (put target.entries name value)
  | .name name :: rest, target =>
    let name := lower name
    let child := (target.entries.lookup name).getD .null
    .table (insertEntry target.entries name (assign value rest child))
  | [.index index], target =>
    .array (setItem target.items (position index target.items.length) value)
  | .index index :: rest, target =>
    let items := target.items
    let position := position index items.length
    .array (setItem items position (assign value rest (items.getD position .null)))

end Value

end ScopeScanner
