/-!
# Lines

A line is a row of characters together with the byte offset of every character boundary. All
positions that leave this library are byte offsets in UTF-8; all matching runs over character
indices. `Line.offset` and `Line.index` go from one to the other, and `Line.offset` only ever
yields character boundaries.
-/

namespace ScopeScanner

/-- The byte offsets of the boundaries of a row of characters that starts at byte `start`: one
before each character and one after the last. -/
def boundaries : (start : Nat) → List Char → List Nat
  | start, [] => [start]
  | start, c :: rest => start :: boundaries (start + c.utf8Size) rest

/-- A row of characters that knows where in bytes each of them starts. -/
structure Line where
  chars : Array Char
  /-- Byte offsets of all character boundaries, the end of the line included. -/
  offsets : Array Nat
  offsets_eq : offsets.toList = boundaries 0 chars.toList

namespace Line

/-- The line made of the given characters. -/
def ofChars (chars : List Char) : Line where
  chars := chars.toArray
  offsets := (boundaries 0 chars).toArray
  offsets_eq := by simp

/-- The line made of the characters of a text. -/
def ofString (text : String) : Line :=
  ofChars text.toList

/-- Number of bytes of the line. -/
def size (line : Line) : Nat :=
  line.offsets[line.chars.size]?.getD 0

/-- Byte offset of the character with the given index; the end of the line for larger indices. -/
def offset (line : Line) (index : Nat) : Nat :=
  line.offsets[index]?.getD line.size

/-- Index of the first character that starts at or after a byte offset. -/
def index (line : Line) (offset : Nat) : Nat :=
  min (line.offsets.findIdx (fun boundary => offset ≤ boundary)) line.chars.size

/-- Byte offset of the boundary that follows the character at `offset`. -/
def next (line : Line) (offset : Nat) : Nat :=
  line.offset (line.index offset + 1)

/-- The characters between two byte offsets. -/
def slice (line : Line) (start stop : Nat) : List Char :=
  (line.chars.extract (line.index start) (line.index stop)).toList

/-- The part of the line before a byte offset. -/
def take (line : Line) (stop : Nat) : Line :=
  ofChars (line.chars.extract 0 (line.index stop)).toList

/-- The characters at and after a byte offset. -/
def drop (line : Line) (start : Nat) : List Char :=
  (line.chars.extract (line.index start) line.chars.size).toList

/-- Number of bytes of a row of characters. -/
def byteCount (chars : List Char) : Nat :=
  chars.foldl (fun total c => total + c.utf8Size) 0

end Line

/-! ## Boundaries

The boundaries of a line ascend strictly, since every character takes at least one byte. Hence
`Line.next` moves forward from every position inside the line. -/

theorem boundaries_length (start : Nat) (chars : List Char) :
    (boundaries start chars).length = chars.length + 1 := by
  induction chars generalizing start with
  | nil => rfl
  | cons c rest ih => simp [boundaries, ih]

theorem le_of_mem_boundaries {start b : Nat} {chars : List Char} (h : b ∈ boundaries start chars) :
    start ≤ b := by
  induction chars generalizing start with
  | nil => simp [boundaries] at h; omega
  | cons c rest ih =>
    simp only [boundaries, List.mem_cons] at h
    rcases h with rfl | h
    · exact Nat.le_refl _
    · have := ih h; omega

theorem boundaries_pairwise (start : Nat) (chars : List Char) :
    (boundaries start chars).Pairwise (· < ·) := by
  induction chars generalizing start with
  | nil => simp [boundaries]
  | cons c rest ih =>
    refine List.pairwise_cons.2 ⟨fun b hb => ?_, ih _⟩
    have hpos : 0 < c.utf8Size := Char.utf8Size_pos c
    have := le_of_mem_boundaries hb
    omega

namespace Line

theorem offsets_size (line : Line) : line.offsets.size = line.chars.size + 1 := by
  have := congrArg List.length line.offsets_eq
  simpa [boundaries_length] using this

theorem offsets_lt (line : Line) {i j : Nat} (hij : i < j) (hj : j < line.offsets.size) :
    line.offsets[i] < line.offsets[j] := by
  have hp : line.offsets.toList.Pairwise (· < ·) := by
    rw [line.offsets_eq]; exact boundaries_pairwise 0 _
  have := List.pairwise_iff_getElem.1 hp i j (by simp; omega) (by simpa using hj) hij
  simpa using this

theorem size_eq (line : Line) (h : line.chars.size < line.offsets.size) :
    line.size = line.offsets[line.chars.size] := by
  simp [size, h]

/-- A position inside the line lies before the next boundary. -/
theorem lt_next (line : Line) {offset : Nat} (h : offset < line.size) :
    offset < line.next offset := by
  have hn : line.chars.size < line.offsets.size := by rw [line.offsets_size]; omega
  have hsize := line.size_eq hn
  have hle : line.offsets.findIdx (fun b => offset ≤ b) ≤ line.chars.size := by
    rcases Nat.lt_or_ge line.chars.size (line.offsets.findIdx (fun b => offset ≤ b)) with hlt | hge
    · have := Array.not_of_lt_findIdx hlt
      simp at this; omega
    · exact hge
  have hlt : line.offsets.findIdx (fun b => offset ≤ b) < line.offsets.size := by omega
  have hget : offset ≤ line.offsets[line.offsets.findIdx (fun b => offset ≤ b)] := by
    have := Array.findIdx_getElem (w := hlt); simpa using this
  have hindex : line.index offset = line.offsets.findIdx (fun b => offset ≤ b) := by
    simp only [index]; omega
  simp only [next, Line.offset, hindex]
  by_cases hi : line.offsets.findIdx (fun b => offset ≤ b) + 1 < line.offsets.size
  · have := line.offsets_lt (Nat.lt_add_one _) hi
    simp [hi]; omega
  · simp [hi]; exact h

/-- Beyond the line the next boundary is its end. -/
theorem next_of_size_le (line : Line) {offset : Nat} (h : line.size ≤ offset) :
    line.next offset = line.size := by
  have hn : line.chars.size < line.offsets.size := by rw [line.offsets_size]; omega
  have hsize := line.size_eq hn
  have hge : line.chars.size ≤ line.offsets.findIdx (fun b => offset ≤ b) := by
    rcases Nat.lt_or_ge (line.offsets.findIdx (fun b => offset ≤ b)) line.chars.size with hlt | hge
    · have hw : line.offsets.findIdx (fun b => offset ≤ b) < line.offsets.size := by omega
      have hget : offset ≤ line.offsets[line.offsets.findIdx (fun b => offset ≤ b)] := by
        have := Array.findIdx_getElem (w := hw); simpa using this
      have := line.offsets_lt hlt hn
      omega
    · exact hge
  have hindex : line.index offset = line.chars.size := by
    simp only [index]; omega
  have hnone : ¬ line.chars.size + 1 < line.offsets.size := by rw [line.offsets_size]; omega
  simp [next, Line.offset, hindex, hnone]

/-- From any position beyond `offset`, the next boundary lies beyond `offset` as well. -/
theorem lt_next_of_lt (line : Line) {offset later : Nat} (h : offset < line.size)
    (hlater : offset < later) : offset < line.next later := by
  rcases Nat.lt_or_ge later line.size with hlt | hge
  · have := line.lt_next hlt; omega
  · rw [line.next_of_size_le hge]; exact h

end Line

end ScopeScanner
