import ScopeScanner.Text.Blank
import ScopeScanner.Text.Line

/-!
# Character boundaries

A byte offset is a boundary of a row of characters if some number of whole characters lies before
it. This module ties the offsets of a `Line` to that notion, so that no later proof has to look at
the table of offsets again:

* **`mem_boundaries_iff`**: boundaries are the sizes of the beginnings of the row.
* **`Line.offset_eq`**, **`Line.size_eq_byteCount`**: an offset of a line is the size of so many of
  its characters. In particular every offset is a boundary (`Line.offset_boundary`).
* **`Line.index_of_append`**: from a boundary one gets back to the number of characters before it;
  with it `Line.take` and `Line.drop` cut a line in two (`Line.take_of_append`,
  `Line.drop_of_append`).
* **`Text.lines_flatten`**, **`Text.eq_last_of_mem_lines`**: the lines of a text make up the text,
  and a line feed stands nowhere but at the end of one.
-/

namespace ScopeScanner

namespace Line

/-! ## Sizes of rows of characters -/

@[simp] theorem byteCount_nil : byteCount [] = 0 := rfl

/-- The size so far can be taken out of the sum. -/
theorem foldl_utf8Size (chars : List Char) (total : Nat) :
    chars.foldl (fun total c => total + c.utf8Size) total = total + byteCount chars := by
  induction chars generalizing total with
  | nil => rfl
  | cons c rest ih =>
    show rest.foldl _ (total + c.utf8Size) = total + rest.foldl _ (0 + c.utf8Size)
    rw [ih, ih]
    omega

@[simp] theorem byteCount_cons (c : Char) (rest : List Char) :
    byteCount (c :: rest) = c.utf8Size + byteCount rest := by
  show rest.foldl _ (0 + c.utf8Size) = _
  rw [foldl_utf8Size]
  omega

@[simp] theorem byteCount_append (first second : List Char) :
    byteCount (first ++ second) = byteCount first + byteCount second := by
  induction first with
  | nil => simp
  | cons c rest ih => rw [List.cons_append, byteCount_cons, byteCount_cons, ih]; omega

/-- Only the empty row takes no bytes. -/
theorem byteCount_eq_zero {chars : List Char} : byteCount chars = 0 ↔ chars = [] := by
  cases chars with
  | nil => simp
  | cons c rest =>
    have hpos : 0 < c.utf8Size := Char.utf8Size_pos c
    rw [byteCount_cons]
    constructor
    · intro h; omega
    · intro h; cases h

/-- The size of a row is the size of the text made of it. -/
theorem byteCount_eq_utf8ByteSize (chars : List Char) :
    byteCount chars = (String.ofList chars).utf8ByteSize := by
  induction chars with
  | nil => rfl
  | cons c rest ih =>
    have happend : String.ofList (c :: rest) = String.singleton c ++ String.ofList rest := by
      apply String.toList_injective
      simp
    rw [byteCount_cons, ih, happend, String.utf8ByteSize_append, String.utf8ByteSize_singleton]

end Line

/-! ## Boundaries of rows of characters -/

/-- Boundaries are the sizes of the beginnings of the row. -/
theorem mem_boundaries_iff {start p : Nat} {chars : List Char} :
    p ∈ boundaries start chars ↔
      ∃ before after, chars = before ++ after ∧ p = start + Line.byteCount before := by
  induction chars generalizing start with
  | nil =>
    simp only [boundaries, List.mem_singleton]
    constructor
    · intro h
      exact ⟨[], [], rfl, by simp [h]⟩
    · rintro ⟨before, after, h, rfl⟩
      obtain ⟨rfl, rfl⟩ := List.append_eq_nil_iff.mp h.symm
      rfl
  | cons c rest ih =>
    simp only [boundaries, List.mem_cons, ih]
    constructor
    · rintro (rfl | ⟨before, after, rfl, rfl⟩)
      · exact ⟨[], c :: rest, rfl, by simp⟩
      · exact ⟨c :: before, after, rfl, by rw [Line.byteCount_cons]; omega⟩
    · rintro ⟨before, after, h, rfl⟩
      cases before with
      | nil => exact Or.inl rfl
      | cons d before =>
        rw [List.cons_append] at h
        injection h with hd hrest
        subst hd
        exact Or.inr ⟨before, after, hrest, by rw [Line.byteCount_cons]; omega⟩

/-- The boundaries of a text are the valid positions of the string. -/
theorem isValid_of_mem_boundaries {text : String} {p : Nat} (h : p ∈ boundaries 0 text.toList) :
    String.Pos.Raw.IsValid text ⟨p⟩ := by
  obtain ⟨before, after, htext, rfl⟩ := mem_boundaries_iff.mp h
  rw [String.Pos.Raw.isValid_iff_exists_append]
  refine ⟨String.ofList before, String.ofList after, ?_, ?_⟩
  · apply String.toList_injective
    simpa using htext
  · rw [Nat.zero_add, Line.byteCount_eq_utf8ByteSize]
    rfl

/-- The table of boundaries lists the sizes of the beginnings in order. -/
theorem boundaries_getElem? (start : Nat) (chars : List Char) (i : Nat) (h : i ≤ chars.length) :
    (boundaries start chars)[i]? = some (start + Line.byteCount (chars.take i)) := by
  induction chars generalizing start i with
  | nil =>
    obtain rfl : i = 0 := by simpa using h
    rfl
  | cons c rest ih =>
    cases i with
    | zero => rfl
    | succ i =>
      rw [List.take_succ_cons, Line.byteCount_cons]
      simp only [boundaries, List.getElem?_cons_succ]
      rw [ih _ _ (by simpa using h)]
      congr 1
      omega

namespace Line

/-! ## Offsets of lines -/

/-- An offset of a line is a character boundary of it. -/
def Boundary (line : Line) (p : Nat) : Prop :=
  p ∈ boundaries 0 line.chars.toList

/-- The line is its characters; the offsets follow from them. -/
theorem offsets_getElem? (line : Line) (i : Nat) (h : i ≤ line.chars.size) :
    line.offsets[i]? = some (byteCount (line.chars.toList.take i)) := by
  have htable : line.offsets[i]? = line.offsets.toList[i]? := by simp
  rw [htable, line.offsets_eq, boundaries_getElem? _ _ _ (by simpa using h), Nat.zero_add]

theorem size_eq_byteCount (line : Line) : line.size = byteCount line.chars.toList := by
  rw [size, line.offsets_getElem? _ (Nat.le_refl _), List.take_of_length_le (by simp)]
  rfl

theorem offset_eq (line : Line) (i : Nat) :
    line.offset i = byteCount (line.chars.toList.take i) := by
  rcases Nat.lt_or_ge line.chars.size i with hlt | hge
  · have hnone : line.offsets[i]? = none := by
      apply Array.getElem?_eq_none
      rw [line.offsets_size]
      omega
    rw [offset, hnone, List.take_of_length_le (by simpa using Nat.le_of_lt hlt),
      ← line.size_eq_byteCount]
    rfl
  · rw [offset, line.offsets_getElem? _ hge]
    rfl

/-- Offsets ascend with the index. -/
theorem offset_le (line : Line) {first second : Nat} (h : first ≤ second) :
    line.offset first ≤ line.offset second := by
  have happend : line.chars.toList.take second =
      line.chars.toList.take first ++ (line.chars.toList.take second).drop first := by
    have hsplit := List.take_append_drop first (line.chars.toList.take second)
    rwa [List.take_take, Nat.min_eq_left h, eq_comm] at hsplit
  rw [line.offset_eq, line.offset_eq, happend, byteCount_append]
  exact Nat.le_add_right _ _

/-- The first character at or after a position does not start before it. -/
theorem le_offset_index (line : Line) {position : Nat} (h : position ≤ line.size) :
    position ≤ line.offset (line.index position) := by
  have hlast : line.chars.size < line.offsets.size := by rw [line.offsets_size]; omega
  have hfound : line.offsets.findIdx (fun boundary => position ≤ boundary) < line.offsets.size := by
    refine Array.findIdx_lt_size.mpr ⟨_, Array.getElem_mem hlast, ?_⟩
    rw [← line.size_eq hlast]
    exact decide_eq_true h
  have hindex : line.index position =
      line.offsets.findIdx (fun boundary => position ≤ boundary) := by
    rw [line.offsets_size] at hfound
    exact Nat.min_eq_left (Nat.le_of_lt_succ hfound)
  have hget := Array.findIdx_getElem (w := hfound)
  rw [hindex, offset, Array.getElem?_eq_getElem hfound]
  exact of_decide_eq_true hget

/-- Whatever the index, an offset lies on a boundary. -/
theorem offset_boundary (line : Line) (i : Nat) : line.Boundary (line.offset i) := by
  rw [Boundary, mem_boundaries_iff, line.offset_eq]
  exact ⟨line.chars.toList.take i, line.chars.toList.drop i, (List.take_append_drop i _).symm,
    by omega⟩

theorem next_boundary (line : Line) (p : Nat) : line.Boundary (line.next p) :=
  line.offset_boundary _

theorem zero_boundary (line : Line) : line.Boundary 0 :=
  mem_boundaries_iff.mpr ⟨[], line.chars.toList, rfl, rfl⟩

theorem size_boundary (line : Line) : line.Boundary line.size :=
  mem_boundaries_iff.mpr ⟨line.chars.toList, [], by simp, by rw [size_eq_byteCount]; omega⟩

theorem Boundary.le_size {line : Line} {p : Nat} (h : line.Boundary p) : p ≤ line.size := by
  obtain ⟨before, after, hchars, rfl⟩ := mem_boundaries_iff.mp h
  rw [size_eq_byteCount, hchars, byteCount_append]
  omega

/-! ## Cutting a line at a boundary -/

/-- The index of a boundary is the number of characters before it. -/
theorem index_of_append (line : Line) {before after : List Char}
    (h : line.chars.toList = before ++ after) : line.index (byteCount before) = before.length := by
  have hlength : line.chars.size = before.length + after.length := by
    have := congrArg List.length h
    simpa using this
  have hlt : before.length < line.offsets.size := by
    rw [line.offsets_size]
    omega
  have hsome := line.offsets_getElem? before.length (by omega)
  rw [h, List.take_left] at hsome
  have hget : line.offsets[before.length] = byteCount before := by
    rw [Array.getElem?_eq_getElem hlt] at hsome
    exact Option.some.inj hsome
  have hfind : line.offsets.findIdx (fun boundary => byteCount before ≤ boundary) = before.length := by
    rw [Array.findIdx_eq hlt]
    refine ⟨by simp [hget], ?_⟩
    intro j hj
    have := line.offsets_lt hj hlt
    simp only [decide_eq_false_iff_not, Nat.not_le]
    omega
  rw [index, hfind, hlength]
  omega

theorem chars_ofChars (chars : List Char) : (ofChars chars).chars.toList = chars := by
  simp [ofChars]

theorem take_of_append (line : Line) {before after : List Char}
    (h : line.chars.toList = before ++ after) : line.take (byteCount before) = ofChars before := by
  rw [take, line.index_of_append h]
  congr 1
  simp [h]

theorem drop_of_append (line : Line) {before after : List Char}
    (h : line.chars.toList = before ++ after) : line.drop (byteCount before) = after := by
  rw [drop, line.index_of_append h]
  have hsize : line.chars.size = before.length + after.length := by
    have := congrArg List.length h
    simpa using this
  simp [h, hsize]

/-- Cutting off nothing leaves what follows any place as it is. -/
theorem drop_take_size (line : Line) (p : Nat) : (line.take line.size).drop p = line.drop p := by
  have hwhole : line.take line.size = ofChars line.chars.toList := by
    rw [size_eq_byteCount,
      line.take_of_append (show line.chars.toList = line.chars.toList ++ [] by simp)]
  have hline : ofChars line.chars.toList = line := by
    obtain ⟨chars, offsets, hoffsets⟩ := line
    simp only [ofChars, mk.injEq, Array.toArray_toList, true_and]
    rw [← hoffsets, Array.toArray_toList]
  rw [hwhole, hline]

/-- Wherever a line is cut off, it does not get longer. -/
theorem size_take_le (line : Line) (stop : Nat) : (line.take stop).size ≤ line.size := by
  have hsplit := congrArg byteCount (List.take_append_drop (line.index stop) line.chars.toList)
  rw [byteCount_append] at hsplit
  have hchars : (line.take stop).chars.toList = line.chars.toList.take (line.index stop) := by
    rw [take, chars_ofChars, Array.toList_extract]
    simp
  rw [size_eq_byteCount, size_eq_byteCount, hchars]
  omega

/-- Boundaries of a line that has been cut off are boundaries of the whole line. -/
theorem Boundary.of_take {line : Line} {stop p : Nat} (h : line.Boundary stop)
    (hp : (line.take stop).Boundary p) : line.Boundary p := by
  obtain ⟨before, after, hchars, rfl⟩ := mem_boundaries_iff.mp h
  rw [Nat.zero_add, line.take_of_append hchars, Boundary, chars_ofChars, mem_boundaries_iff] at hp
  obtain ⟨first, second, rfl, rfl⟩ := hp
  exact mem_boundaries_iff.mpr ⟨first, second ++ after, by rw [hchars, List.append_assoc], rfl⟩

/-- Boundaries of the whole line are boundaries of what is left of it, as far as they lie there. -/
theorem Boundary.take {line : Line} {stop p : Nat} (h : line.Boundary stop) (hp : line.Boundary p)
    (hle : p ≤ stop) : (line.take stop).Boundary p := by
  obtain ⟨before, after, hchars, rfl⟩ := mem_boundaries_iff.mp h
  obtain ⟨before', after', hchars', rfl⟩ := mem_boundaries_iff.mp hp
  rw [Nat.zero_add, line.take_of_append hchars, Boundary, chars_ofChars]
  rw [hchars] at hchars'
  rcases List.append_eq_append_iff.mp hchars' with ⟨more, hmore, _⟩ | ⟨more, hmore, _⟩
  · -- the boundary would lie further on, so nothing lies between
    rw [hmore, byteCount_append] at hle
    obtain rfl : more = [] := byteCount_eq_zero.mp (by omega)
    exact mem_boundaries_iff.mpr ⟨before, [], by simp, by rw [hmore]; simp⟩
  · exact mem_boundaries_iff.mpr ⟨before', more, hmore, rfl⟩

/-- Cutting twice is cutting at the place that comes first. -/
theorem take_take {line : Line} {stop p : Nat} (h : line.Boundary stop)
    (hp : (line.take stop).Boundary p) : (line.take stop).take p = line.take p := by
  obtain ⟨before, after, hchars, rfl⟩ := mem_boundaries_iff.mp h
  rw [Nat.zero_add, line.take_of_append hchars] at hp ⊢
  rw [Boundary, chars_ofChars, mem_boundaries_iff] at hp
  obtain ⟨first, second, rfl, rfl⟩ := hp
  rw [Nat.zero_add, (ofChars (first ++ second)).take_of_append (chars_ofChars _),
    line.take_of_append (show line.chars.toList = first ++ (second ++ after) by simp [hchars])]

end Line

/-! ## The lines of a text -/

namespace Text

/-- The lines make up the text. -/
theorem lines_flatten (chars : List Char) : (lines chars).flatten = chars := by
  induction chars with
  | nil => rfl
  | cons c rest ih =>
    rw [lines]
    split
    · simp [ih]
    · split
      · next hnil => rw [hnil] at ih; simp [← ih]
      · next line more hcons => rw [hcons] at ih; simp [← ih]

/-- No line of a text is empty. -/
theorem ne_nil_of_mem_lines {chars line : List Char} (h : line ∈ lines chars) : line ≠ [] := by
  induction chars generalizing line with
  | nil => simp [lines] at h
  | cons c rest ih =>
    rw [lines] at h
    split at h
    · rcases List.mem_cons.mp h with rfl | h
      · simp
      · exact ih h
    · split at h
      · simp at h
        simp [h]
      · next first more hcons =>
        rcases List.mem_cons.mp h with rfl | h
        · simp
        · exact ih (by rw [hcons]; exact List.mem_cons_of_mem _ h)

/-- A line of a text, taken by itself, is one line. -/
theorem lines_of_mem_lines {chars line : List Char} (h : line ∈ lines chars) :
    lines line = [line] := by
  induction chars generalizing line with
  | nil => simp [lines] at h
  | cons c rest ih =>
    rw [lines] at h
    split at h
    · next hc =>
      rcases List.mem_cons.mp h with rfl | h
      · simp [lines, hc]
      · exact ih h
    · next hc =>
      split at h
      · obtain rfl := List.mem_singleton.mp h
        simp [lines, hc]
      · next first more hcons =>
        rcases List.mem_cons.mp h with rfl | h
        · have hfirst := ih (hcons ▸ List.mem_cons_self)
          rw [lines, if_neg hc, hfirst]
        · exact ih (by rw [hcons]; exact List.mem_cons_of_mem _ h)

/-- There are no more lines than bytes. -/
theorem lines_length_le (chars : List Char) : (lines chars).length ≤ Line.byteCount chars := by
  induction chars with
  | nil => exact Nat.le_refl 0
  | cons c rest ih =>
    have hpos : 0 < c.utf8Size := Char.utf8Size_pos c
    rw [lines, Line.byteCount_cons]
    split
    · rw [List.length_cons]
      omega
    · split
      · rw [List.length_singleton]
        omega
      · next first more hcons =>
        rw [hcons] at ih
        rw [List.length_cons] at ih ⊢
        omega

/-- A line feed stands nowhere but at the end of a line. -/
theorem eq_last_of_mem_lines {chars line before after : List Char} (h : line ∈ lines chars)
    (hline : line = before ++ '\n' :: after) : after = [] := by
  induction chars generalizing line before with
  | nil => simp [lines] at h
  | cons c rest ih =>
    rw [lines] at h
    split at h
    · next hc =>
      rcases List.mem_cons.mp h with rfl | h
      · cases before with
        | nil =>
          injection hline with _ hnil
          exact hnil.symm
        | cons d before => simp at hline
      · exact ih h hline
    · next hc =>
      -- the character goes in front of the first line of the rest, if there is one
      split at h
      · obtain rfl := List.mem_singleton.mp h
        cases before with
        | nil => simp at hline; exact absurd hline.1 hc
        | cons d before => simp at hline
      · next first more hcons =>
        rcases List.mem_cons.mp h with rfl | h
        · cases before with
          | nil => simp at hline; exact absurd hline.1 hc
          | cons d before =>
            rw [List.cons_append] at hline
            injection hline with _ hfirst
            have hmem : first ∈ lines rest := by
              rw [hcons]
              exact List.mem_cons_self
            exact ih hmem hfirst
        · exact ih (by rw [hcons]; exact List.mem_cons_of_mem _ h) hline

end Text

end ScopeScanner
