import ScopeScanner.Toml.Scalar

/-!
# Reading TOML

A text is a row of lines: a key with a value, or a header that names the table for the lines after
it. Keys may be given as paths, which add tables on their way. A table may be named by one header
only, and a table that was made by a key cannot be opened again by a header or from elsewhere.
-/

namespace ScopeScanner.Toml

/-- An entry of a table that is being read. -/
inductive Item where
  | value (value : Value)
  /-- A table. It is open until a header names it, and dotted if a key has made it. -/
  | table (isOpen dotted : Bool) (entries : List (String × Item))
  /-- Tables in a row, the last one first. -/
  | rows (rows : List (List (String × Item)))
deriving Inhabited

/-- Entries of a table that is being read. -/
abbrev Items := List (String × Item)

/-- Puts an item in the place of an entry, or adds it. -/
def setItem (key : String) (item : Item) : Items → Items
  | [] => [(key, item)]
  | entry :: rest => if entry.1 = key then (key, item) :: rest else entry :: setItem key item rest

/-- Changes the table at the end of a path, adding tables on the way; `dotted` tells whether the path
is a key. The change is told whether a key has made the table. In a row of tables the last one is
meant. -/
def changeAt (dotted : Bool) (change : Bool → Items → Option Items) :
    (path : List String) → (made : Bool) → Items → Option Items
  | [], made, items => change made items
  | key :: path, _, items =>
    match items.lookup key with
    | none => do
      let entries ← changeAt dotted change path dotted []
      return setItem key (.table true dotted entries) items
    | some (.value _) => none
    | some (.rows []) => none
    | some (.rows (row :: rows)) => do
      let row ← changeAt dotted change path false row
      return setItem key (.rows (row :: rows)) items
    | some (.table isOpen made entries) => do
      if dotted && !isOpen then none
      let entries ← changeAt dotted change path made entries
      return setItem key (.table isOpen made entries) items

/-- Adds a value under a key that is given as a path. -/
def addValue (path : List String) (key : String) (value : Value) (items : Items) : Option Items :=
  changeAt true
    (fun made items =>
      if made = path.isEmpty || (items.lookup key).isSome then none
      else some (items ++ [(key, .value value)]))
    path false items

/-- Names a table by a header. -/
def openTable (path : List String) (key : String) (items : Items) : Option Items :=
  changeAt false
    (fun _ items =>
      match items.lookup key with
      | none => some (items ++ [(key, .table false false [])])
      | some (.table true false entries) => some (setItem key (.table false false entries) items)
      | some _ => none)
    path false items

/-- Adds a table to a row by a header. -/
def openRow (path : List String) (key : String) (items : Items) : Option Items :=
  changeAt false
    (fun _ items =>
      match items.lookup key with
      | none => some (items ++ [(key, .rows [[]])])
      | some (.rows rows) => some (setItem key (.rows ([] :: rows)) items)
      | some _ => none)
    path false items

mutual

/-- The value of an item. -/
def Item.toValue : Item → Value
  | .value value => value
  | .table _ _ entries => .table (itemValues entries)
  | .rows rows => .array (rowValues rows [])

/-- The values of the entries of a table. -/
def itemValues : Items → List (String × Value)
  | [] => []
  | (key, item) :: rest => (key, item.toValue) :: itemValues rest

/-- The values of the rows that are left, in front of those that are given. -/
def rowValues : List Items → List Value → List Value
  | [], done => done
  | row :: rest, done => rowValues rest (.table (itemValues row) :: done)

end

/-- Whether a character may be part of a key without quotes. -/
def isKeyChar (c : Char) : Bool :=
  c.isAlphanum || c = '_' || c = '-'

/-- Reads one name of a key. -/
def readName : Reader String := fun text =>
  match text with
  | '"' :: _ | '\'' :: _ => readQuotedLine text
  | _ =>
    let name := text.takeWhile isKeyChar
    if name.isEmpty then none else some (String.ofList name, text.dropWhile isKeyChar)

/-- Reads the names of a key. -/
def readNames : (fuel : Nat) → Reader (List String)
  | 0, _ => none
  | fuel + 1, text => do
    let (name, rest) ← readName (skipBlanks text)
    match skipBlanks rest with
    | '.' :: rest =>
      let (names, rest) ← readNames fuel rest
      return (name :: names, rest)
    | rest => return ([name], rest)

/-- How deep values and keys may be nested. -/
def maxLevels : Nat := 79

/-- Reads a key: the path to its table and its name there. -/
def readKey : Reader (List String × String) := fun text => do
  let (names, rest) ← readNames (text.length + 1) text
  if maxLevels < names.length then none
  return ((names.dropLast, ← names.getLast?), rest)

/-- Passes over blanks, comments and line ends. -/
def skipSpace : (fuel : Nat) → List Char → List Char
  | 0, text => text
  | fuel + 1, text =>
    let text := skipComment (skipBlanks text)
    match skipLineEnd? text with
    | some rest => skipSpace fuel rest
    | none => text

/-- Passes over all space. -/
def skipAllSpace (text : List Char) : List Char :=
  skipSpace (text.length + 1) text

/-- Reads the items of an array after its opening bracket. -/
def readItems (readValue : Reader Value) : (fuel : Nat) → Reader (List Value)
  | 0, _ => none
  | fuel + 1, text =>
    match skipAllSpace text with
    | ']' :: rest => some ([], rest)
    | text => do
      let (item, rest) ← readValue text
      match skipAllSpace rest with
      | ',' :: rest =>
        let (items, rest) ← readItems readValue fuel rest
        return (item :: items, rest)
      | ']' :: rest => return ([item], rest)
      | _ => none

/-- Reads the entries of a table in braces. -/
def readEntries (readValue : Reader Value) : (fuel : Nat) → Items → Reader Items
  | 0, _, _ => none
  | fuel + 1, items, text => do
    let ((path, key), rest) ← readKey text
    match rest with
    | '=' :: rest =>
      let (value, rest) ← readValue (skipBlanks rest)
      let items ← addValue path key value items
      match skipBlanks rest with
      | ',' :: rest => readEntries readValue fuel items rest
      | '\x7d' :: rest => return (items, rest)
      | _ => none
    | _ => none

/-- Reads a value. -/
def readValue : (levels : Nat) → Reader Value
  | levels, text =>
    match text with
    | '"' :: _ | '\'' :: _ => (readQuoted text).map fun (value, rest) => (.text value, rest)
    | '[' :: rest =>
      match levels with
      | 0 => none
      | levels + 1 => do
        let (items, rest) ← readItems (readValue levels) (rest.length + 1) rest
        return (.array items, rest)
    | '\x7b' :: rest =>
      match levels with
      | 0 => none
      | levels + 1 =>
        match skipBlanks rest with
        | '\x7d' :: rest => some (.table [], rest)
        | rest => do
          let (items, rest) ← readEntries (readValue levels) (rest.length + 1) [] rest
          return (.table (itemValues items), rest)
    | _ => readWord text

/-- What has been read of a text. -/
structure Sheet where
  items : Items := []
  /-- The table for the lines that follow. -/
  current : List String := []

/-- Reads what closes a header. -/
def closeHeader (count : Nat) (text : List Char) : Option (List Char) :=
  if text.take count = List.replicate count ']' then some (text.drop count) else none

/-- Adds a value to the present table. -/
def Sheet.addValue (sheet : Sheet) (path : List String) (key : String) (value : Value) :
    Option Sheet := do
  let items ← changeAt false (fun _ items => Toml.addValue path key value items)
    sheet.current false sheet.items
  return { sheet with items }

/-- Reads the line up to its end, or up to a comment. -/
def readStatement (sheet : Sheet) : Reader Sheet := fun text =>
  match text with
  | '[' :: '[' :: rest => do
    let ((path, key), rest) ← readKey rest
    let items ← openRow path key sheet.items
    return ({ items, current := path ++ [key] }, ← closeHeader 2 rest)
  | '[' :: rest => do
    let ((path, key), rest) ← readKey rest
    let items ← openTable path key sheet.items
    return ({ items, current := path ++ [key] }, ← closeHeader 1 rest)
  | _ => do
    let ((path, key), rest) ← readKey text
    match rest with
    | '=' :: rest =>
      let (value, rest) ← readValue maxLevels (skipBlanks rest)
      return (← sheet.addValue path key value, rest)
    | _ => none

/-- Reads the lines that are left. -/
def readSheet : (fuel : Nat) → Sheet → List Char → Option Sheet
  | 0, _, _ => none
  | fuel + 1, sheet, text =>
    match skipAllSpace text with
    | [] => some sheet
    | text => do
      let (sheet, rest) ← readStatement sheet text
      match skipComment (skipBlanks rest) with
      | [] => return sheet
      | rest => readSheet fuel sheet (← skipLineEnd? rest)

/-- The table written by a TOML text; none if the text is not TOML. A byte order mark at the start
is passed over. -/
def read (text : String) : Option (List (String × Value)) := do
  let chars := match text.toList with
    | '\uFEFF' :: rest => rest
    | chars => chars
  let sheet ← readSheet (chars.length + 1) {} chars
  return itemValues sheet.items

end ScopeScanner.Toml
