import ScopeScanner.Decimal.Double
import ScopeScanner.Document.Basic
import ScopeScanner.Yaml.Node

/-!
# Reading YAML

A YAML text as a document. Plain texts that look like null, a truth value or a number are read as
such unless a tag says otherwise; all other texts are strings. Keys are always strings, whatever they
look like. Aliases are replaced by what they stand for. Tags that are not part of the standard are
refused, and so are documents nested more than 128 levels deep and texts in which aliases multiply.
-/

namespace ScopeScanner.Yaml

/-- Whether a text is a run of digits in a radix. -/
def isDigits (radix : Nat) (text : List Char) : Bool :=
  !text.isEmpty && text.all fun c => (Json.hexDigit? c).any (· < radix)

/-- The value of a run of digits in a radix. -/
def digitsValue (radix : Nat) (text : List Char) : Nat :=
  text.foldl (fun value c => value * radix + (Json.hexDigit? c).getD 0) 0

/-- Whether a text consists of more than one digit and starts with a zero. Such a text is no
number. -/
def isZeroPadded (unsigned : List Char) : Bool :=
  match unsigned with
  | '0' :: rest => !rest.isEmpty && rest.all Char.isDigit
  | _ => false

/-- The whole number that a text without a sign stands for. -/
def magnitude? (unsigned : List Char) : Option Nat :=
  match unsigned with
  | '0' :: 'x' :: digits => if isDigits 16 digits then some (digitsValue 16 digits) else none
  | '0' :: 'o' :: digits => if isDigits 8 digits then some (digitsValue 8 digits) else none
  | '0' :: 'b' :: digits => if isDigits 2 digits then some (digitsValue 2 digits) else none
  | digits =>
    if isDigits 10 digits && !isZeroPadded digits then some (digitsValue 10 digits) else none

/-- A text without the sign in front of it, and whether the sign is a minus. -/
def splitSign (text : List Char) : Bool × List Char :=
  match text with
  | '+' :: rest => (false, rest)
  | '-' :: rest => (true, rest)
  | _ => (false, text)

/-- Whether a text without a sign is a decimal number, with a point and an exponent if need be. -/
def isDecimal (unsigned : List Char) : Bool :=
  let whole := unsigned.takeWhile Char.isDigit
  let rest := unsigned.dropWhile Char.isDigit
  let (places, rest) := match rest with
    | '.' :: rest => (rest.takeWhile Char.isDigit, rest.dropWhile Char.isDigit)
    | _ => ([], rest)
  let exponent := match rest with
    | [] => true
    | c :: rest => (c = 'e' || c = 'E') && isDigits 10 (splitSign rest).2
  (!whole.isEmpty || !places.isEmpty) && exponent

/-- Whether a text stands for infinity or for something that is no number. -/
def isUnbounded (text : List Char) : Bool :=
  let unsigned := (splitSign text).2
  [".inf", ".Inf", ".INF"].contains (String.ofList unsigned) ||
    [".nan", ".NaN", ".NAN"].contains (String.ofList text)

/-- What a text stands for as a number with a fraction. One that is too large for a double is none,
and infinity is kept as null. -/
def fractionDocument (text : String) : Option Document :=
  let unsigned := (splitSign text.toList).2
  if isUnbounded text.toList then some .null
  else if isDecimal unsigned && Double.ofText unsigned ≠ .infinite false then some (.number text)
  else none

/-- The largest number without a sign that fits into `bits` bits. -/
def largest (bits : Nat) : Nat := Nat.pow 2 bits - 1

/-- A whole number is read if it fits into 64 bits, and refused if it fits into 128 bits only. Beyond
that it is a fraction like any other. -/
inductive Whole where
  | fits
  | tooLarge
  | none

/-- What whole number a text stands for. -/
def Whole.ofText (text : List Char) : Whole :=
  let (negative, unsigned) := splitSign text
  match magnitude? unsigned with
  | .none => .none
  | some value =>
    let size (bits : Nat) := if negative then Nat.pow 2 (bits - 1) else largest bits
    if value ≤ size 64 then .fits else if value ≤ size 128 then .tooLarge else .none

/-- The number that a whole number is read as. -/
def wholeDocument (text : String) : Option Document :=
  match Whole.ofText text.toList with
  | .fits => some (.number text)
  | _ => none

def isNull (text : String) : Bool :=
  ["null", "Null", "NULL", "~"].contains text

/-- The truth value that a text stands for. -/
def truth? (text : String) : Option Bool :=
  if ["true", "True", "TRUE"].contains text then some true
  else if ["false", "False", "FALSE"].contains text then some false
  else none

/-- What a plain text without a tag stands for. -/
def plainDocument (text : String) : Option Document :=
  if text.isEmpty || isNull text then some .null
  else match truth? text with
    | some value => some (.bool value)
    | none =>
      match Whole.ofText text.toList with
      | .fits => some (.number text)
      | .tooLarge => none
      | .none =>
        if isZeroPadded (splitSign text.toList).2 then some (.string text)
        else some ((fractionDocument text).getD (.string text))

/-- What a text stands for. -/
def scalarDocument (tag : Option String) (plain : Bool) (text : String) : Option Document :=
  match tag with
  | none => if plain then plainDocument text else some (.string text)
  | some "tag:yaml.org,2002:bool" => (truth? text).map .bool
  | some "tag:yaml.org,2002:int" => wholeDocument text
  | some "tag:yaml.org,2002:float" => fractionDocument text
  | some "tag:yaml.org,2002:null" => if isNull text then some .null else none
  | some tag => if tag.toList.head? = some '!' then none else some (.string text)

/-- What an alias may stand for. -/
structure Anchored where
  /-- The node as a document, if it can be one. -/
  document : Option Document
  /-- The node as a key, if it can be one. -/
  text : Option String
  /-- How many aliases are followed when the node is read. -/
  followed : Nat

/-- What has been met of a text: anchors, the latest first, and the number of aliases that have been
followed, those inside of what aliases stand for included. A node that is still being read stands
for nothing. -/
structure Anchors where
  entries : List (String × Option Anchored) := []
  followed : Nat := 0

namespace Anchors

/-- Notes an anchor at the start of its node. -/
def announce (anchors : Anchors) (properties : Properties) : Anchors :=
  match properties.anchor with
  | some name => { anchors with entries := (name, none) :: anchors.entries }
  | none => anchors

/-- Fills in what the latest node with an anchor that is still being read stands for. -/
def fill (name : String) (anchored : Anchored) :
    List (String × Option Anchored) → List (String × Option Anchored)
  | [] => []
  | (known, none) :: rest =>
    if known = name then (known, some anchored) :: rest else (known, none) :: fill name anchored rest
  | entry :: rest => entry :: fill name anchored rest

/-- Notes what a node stands for. -/
def note (anchors : Anchors) (properties : Properties) (anchored : Anchored) : Anchors :=
  match properties.anchor with
  | some name => { anchors with entries := fill name anchored anchors.entries }
  | none => anchors

/-- Follows an alias. -/
def follow (anchors : Anchors) (name : String) : Option (Anchored × Anchors) := do
  let anchored ← (← anchors.entries.lookup name)
  return (anchored, { anchors with followed := anchors.followed + 1 + anchored.followed })

end Anchors

/-- Whether a collection may have a tag. -/
def isCollectionTag (tag : Option String) : Bool :=
  tag.all fun tag => tag.toList.head? ≠ some '!'

/-- A scalar with its anchor noted. -/
def readScalar (properties : Properties) (text : String) (plain : Bool) (anchors : Anchors) :
    Anchored × Anchors :=
  let anchored : Anchored := {
    document := scalarDocument properties.tag plain text
    text := some text
    followed := 0 }
  (anchored, (anchors.announce properties).note properties anchored)

/-- The text of a key. -/
def readKey (key : Node) (anchors : Anchors) : Option (String × Anchors) :=
  match key with
  | .scalar properties text plain => some (text, (readScalar properties text plain anchors).2)
  | .alias name => do
    let (anchored, anchors) ← anchors.follow name
    return (← anchored.text, anchors)
  | .sequence _ _ | .mapping _ _ => none

/-- A collection with its anchor noted; `before` is the number of aliases that had been followed
where it starts. -/
def closeCollection (properties : Properties) (before : Nat) (document : Document)
    (anchors : Anchors) : Document × Anchors :=
  (document, anchors.note properties ⟨document, none, anchors.followed - before⟩)

mutual

/-- The document of a node. -/
def Node.toDocument : Node → Anchors → Option (Document × Anchors)
  | .alias name, anchors => do
    let (anchored, anchors) ← anchors.follow name
    return (← anchored.document, anchors)
  | .scalar properties text plain, anchors => do
    let (anchored, anchors) := readScalar properties text plain anchors
    return (← anchored.document, anchors)
  | .sequence properties items, anchors => do
    if !isCollectionTag properties.tag then none
    let (items, after) ← itemsToDocuments items (anchors.announce properties)
    return closeCollection properties anchors.followed (.array items) after
  | .mapping properties entries, anchors => do
    if !isCollectionTag properties.tag then none
    let (entries, after) ← entriesToDocuments entries [] (anchors.announce properties)
    return closeCollection properties anchors.followed (.object entries) after

/-- The documents of the items of a sequence. -/
def itemsToDocuments : List Node → Anchors → Option (List Document × Anchors)
  | [], anchors => some ([], anchors)
  | item :: rest, anchors => do
    let (item, anchors) ← item.toDocument anchors
    let (items, anchors) ← itemsToDocuments rest anchors
    return (item :: items, anchors)

/-- The entries of a mapping, after those that have been read already. -/
def entriesToDocuments :
    List (Node × Node) → List (String × Document) → Anchors →
      Option (List (String × Document) × Anchors)
  | [], done, anchors => some (done, anchors)
  | (key, value) :: rest, done, anchors => do
    let (key, anchors) ← readKey key anchors
    let (value, anchors) ← value.toDocument anchors
    entriesToDocuments rest (insertEntry done key value) anchors

end

/-- How many aliases may be followed for each mark of a text. -/
def maxFollowed : Nat := 100

/-- How deep documents may be nested. -/
def maxDepth : Nat := 128

mutual

/-- Whether a document is nested at most so many levels deep. -/
def fitsDepth : (levels : Nat) → Document → Bool
  | 0, .array _ | 0, .object _ => false
  | levels + 1, .array items => itemsFitDepth levels items
  | levels + 1, .object entries => entriesFitDepth levels entries
  | _, _ => true

/-- Whether the items of an array are nested at most so many levels deep. -/
def itemsFitDepth (levels : Nat) : List Document → Bool
  | [] => true
  | item :: rest => fitsDepth levels item && itemsFitDepth levels rest

/-- Whether the entries of an object are nested at most so many levels deep. -/
def entriesFitDepth (levels : Nat) : List (String × Document) → Bool
  | [] => true
  | (_, value) :: rest => fitsDepth levels value && entriesFitDepth levels rest

end

/-- The document written by a YAML text; none if the text is not YAML. -/
def read (text : String) : Option Document := do
  let node ← readSingle text
  let (document, anchors) ← node.toDocument {}
  if anchors.followed ≤ node.size * maxFollowed && fitsDepth maxDepth document then
    return document
  else none

end ScopeScanner.Yaml
