/-!
# UTF-8

Bytes as text. Bytes that are not UTF-8 are cut into the longest pieces that begin like a character
and cannot be completed; a byte that cannot begin a character is a piece of its own. So every list of
bytes is a list of characters and broken pieces.
-/

namespace ScopeScanner.Utf8

/-- Whether a byte continues a character. -/
def continues (byte : UInt8) : Bool :=
  0x80 ≤ byte && byte ≤ 0xBF

/-- The second bytes that may follow a first byte, and how many bytes the character has. -/
def lead? (byte : UInt8) : Option (UInt8 × UInt8 × Nat) :=
  if 0xC2 ≤ byte && byte ≤ 0xDF then some (0x80, 0xBF, 2)
  else if byte = 0xE0 then some (0xA0, 0xBF, 3)
  else if byte = 0xED then some (0x80, 0x9F, 3)
  else if 0xE1 ≤ byte && byte ≤ 0xEF then some (0x80, 0xBF, 3)
  else if byte = 0xF0 then some (0x90, 0xBF, 4)
  else if byte = 0xF4 then some (0x80, 0x8F, 4)
  else if 0xF1 ≤ byte && byte ≤ 0xF3 then some (0x80, 0xBF, 4)
  else none

/-- The character with the given first byte and the bits of the bytes after it. -/
def character (first : UInt8) (following : List UInt8) : Char :=
  let bits := match following.length with
    | 0 => first.toNat
    | 1 => first.toNat % 0x20
    | 2 => first.toNat % 0x10
    | _ => first.toNat % 0x08
  Char.ofNat (following.foldl (fun code byte => code * 0x40 + byte.toNat % 0x40) bits)

/-- The bytes that follow a first byte as far as they belong to its character. -/
def following (first : UInt8) (rest : List UInt8) : List UInt8 :=
  match lead? first, rest with
  | some (low, high, size), second :: more =>
    if low ≤ second && second ≤ high then second :: (more.take (size - 2)).takeWhile continues
    else []
  | _, _ => []

/-- Whether the bytes after a first byte complete its character. -/
def completes (first : UInt8) (following : List UInt8) : Bool :=
  match lead? first with
  | some (_, _, size) => following.length + 1 = size
  | none => first < 0x80

/-- The characters of a list of bytes, none standing for a broken piece. -/
def decode : List UInt8 → List (Option Char)
  | [] => []
  | first :: rest =>
    let more := following first rest
    (if completes first more then some (character first more) else none) ::
      decode (rest.drop more.length)
termination_by bytes => bytes.length
decreasing_by simp only [List.length_drop, List.length_cons]; omega

/-- The text of a list of bytes, if they are UTF-8. -/
def text? (bytes : List UInt8) : Option String :=
  ((decode bytes).mapM id).map String.ofList

/-- The text of a list of bytes, with a replacement character for each broken piece. -/
def display (bytes : List UInt8) : String :=
  String.ofList ((decode bytes).map (·.getD '\uFFFD'))

end ScopeScanner.Utf8
