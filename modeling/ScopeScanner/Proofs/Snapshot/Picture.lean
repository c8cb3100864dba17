import ScopeScanner.Proofs.Scanner.Bytes
import ScopeScanner.Proofs.Scanner.Partition
import ScopeScanner.Proofs.Snapshot.Rows

/-!
# Snapshots show scans

The tokens of a scan tile the lines of the text one by one, and their ends are character boundaries. So
each line has rows below it that tile its columns, and each row shows the scopes of the characters that it
marks:

* **`tile_rows`**, `shows_rows`: the rows of one line.
* **`exists_pictures`**: the entries of all lines.
* **`renderLines?_eq`**: the rendering takes no character apart.
* **`render_faithful`**: this holds for the scans of every accepted grammar, whose scopes are words, so
  that the entries can be read off the snapshot. Two scans of a text with equal snapshots give equal scopes
  to all characters, line ends apart.
-/

namespace ScopeScanner

/-! ## Sizes of beginnings -/

namespace Line

/-- A longer beginning takes no fewer bytes. -/
theorem byteCount_take_mono (chars : List Char) {i j : Nat} (h : i ≤ j) :
    byteCount (chars.take i) ≤ byteCount (chars.take j) := by
  have hsplit : chars.take j = chars.take i ++ (chars.drop i).take (j - i) := by
    rw [← List.take_add, Nat.add_sub_cancel' h]
  rw [hsplit, byteCount_append]
  exact Nat.le_add_right _ _

/-- One more character takes more bytes. -/
theorem byteCount_take_succ {chars : List Char} {i : Nat} (h : i < chars.length) :
    byteCount (chars.take (i + 1)) = byteCount (chars.take i) + chars[i].utf8Size := by
  rw [← List.take_append_getElem h, byteCount_append]
  simp

theorem byteCount_take_lt {chars : List Char} {i j : Nat} (h : i < j) (hi : i < chars.length) :
    byteCount (chars.take i) < byteCount (chars.take j) := by
  have hpos := Char.utf8Size_pos chars[i]
  have hsucc := byteCount_take_succ hi
  have hmono := byteCount_take_mono chars (Nat.succ_le_of_lt h)
  rw [Nat.succ_eq_add_one] at hmono
  omega

/-- The bytes of a beginning of a longer row, as far as they lie in the row. -/
theorem min_byteCount_take (line ends : List Char) (j : Nat) :
    min (byteCount ((line ++ ends).take j)) (byteCount line) = byteCount (line.take j) := by
  rcases Nat.le_total j line.length with hle | hge
  · have hmono := byteCount_take_mono line hle
    rw [List.take_length] at hmono
    rw [List.take_append_of_le_length hle]
    omega
  · rw [List.take_append, List.take_of_length_le hge, byteCount_append]
    omega

theorem index_byteCount_take (line : List Char) (j : Nat) :
    (ofChars line).index (byteCount (line.take j)) = min j line.length := by
  have hsplit : (ofChars line).chars.toList = line.take j ++ line.drop j := by
    rw [chars_ofChars, List.take_append_drop]
  rw [index_of_append _ hsplit, List.length_take]

theorem boundary_byteCount_take (line : List Char) (j : Nat) :
    (ofChars line).Boundary (byteCount (line.take j)) := by
  rw [Boundary, chars_ofChars, mem_boundaries_iff]
  exact ⟨line.take j, line.drop j, (List.take_append_drop j line).symm, by omega⟩

instance (line : Line) (p : Nat) : Decidable (line.Boundary p) :=
  inferInstanceAs (Decidable (p ∈ boundaries 0 line.chars.toList))

end Line

/-! ## Tokens on a line -/

/-- A token covers the characters of a line from one index up to another. -/
structure Token.Spans (start : Nat) (raw : List Char) (token : Token) (i j : Nat) : Prop where
  lt : i < j
  le : j ≤ raw.length
  start_eq : token.start = start + Line.byteCount (raw.take i)
  stop_eq : token.stop = start + Line.byteCount (raw.take j)

/-- A token that starts at a boundary of a line and ends at another one spans what lies between. -/
theorem Token.spans_of_boundaries {start i : Nat} {raw : List Char} {token : Token}
    (hstart : token.start = start + Line.byteCount (raw.take i))
    (hstop : token.stop ∈ boundaries start raw) (hlength : 0 < token.length) :
    ∃ j, token.Spans start raw i j := by
  obtain ⟨before, after, rfl, hbefore⟩ := mem_boundaries_iff.mp hstop
  have htake : (before ++ after).take before.length = before := List.take_left
  refine ⟨before.length, ?_, by simp, hstart, by rw [htake]; exact hbefore⟩
  rw [Token.stop, hstart] at hbefore
  by_contra hge
  have hmono := Line.byteCount_take_mono (before ++ after) (Nat.le_of_not_lt hge)
  rw [htake] at hmono
  omega

/-- So does each token of a tiling of the line. -/
theorem Tiles.exists_spans {start : Nat} {raw : List Char} {tokens : List Token}
    (h : Tiles start tokens (start + Line.byteCount raw))
    (hstops : ∀ token ∈ tokens, token.stop ∈ boundaries start raw) {token : Token}
    (hmem : token ∈ tokens) : ∃ i j, token.Spans start raw i j := by
  have hfirst : start ∈ boundaries start raw := mem_boundaries_iff.mpr ⟨[], raw, rfl, rfl⟩
  obtain ⟨before, after, hsplit, hstart⟩ :=
    mem_boundaries_iff.mp (h.start_of_stops hfirst hstops token hmem)
  have htake : raw.take before.length = before := by rw [hsplit, List.take_left]
  rw [← htake] at hstart
  have hlt := h.start_lt_stop hmem
  rw [Token.stop] at hlt
  exact ⟨before.length, Token.spans_of_boundaries hstart (hstops token hmem) (by omega)⟩

/-- The tokens tile lines, one after the other, and end on character boundaries. -/
inductive TilesLines : (start : Nat) → List (List Char) → List Token → Prop where
  | nil (start : Nat) : TilesLines start [] []
  | cons {start : Nat} {raw : List Char} {rest : List (List Char)} {current tokens : List Token}
      (htiles : Tiles start current (start + Line.byteCount raw))
      (hstops : ∀ token ∈ current, token.stop ∈ boundaries start raw)
      (hrest : TilesLines (start + Line.byteCount raw) rest tokens) :
      TilesLines start (raw :: rest) (current ++ tokens)

theorem TilesLines.tiles {start : Nat} {lines : List (List Char)} {tokens : List Token}
    (h : TilesLines start lines tokens) :
    Tiles start tokens (start + Line.byteCount lines.flatten) := by
  induction h with
  | nil start => exact rfl
  | cons htiles _ _ ih =>
    rw [List.flatten_cons, Line.byteCount_append, ← Nat.add_assoc]
    exact htiles.append ih

/-- The next line comes after all tokens of the present one, and before all others. -/
theorem TilesLines.split {start : Nat} {raw : List Char} {rest : List (List Char)}
    {current tokens : List Token} (htiles : Tiles start current (start + Line.byteCount raw))
    (hrest : TilesLines (start + Line.byteCount raw) rest tokens) :
    (current ++ tokens).takeWhile (·.start < start + Line.byteCount raw) = current ∧
      (current ++ tokens).dropWhile (·.start < start + Line.byteCount raw) = tokens := by
  have hbefore : ∀ token ∈ current, decide (token.start < start + Line.byteCount raw) = true := by
    intro token hmem
    have hlt := htiles.start_lt_stop hmem
    have hle := (htiles.mem_bounds hmem).2
    exact decide_eq_true (by omega)
  rw [List.takeWhile_append_of_pos hbefore, List.dropWhile_append_of_pos hbefore]
  cases tokens with
  | nil => simp
  | cons token tokens =>
    have hle := (hrest.tiles.mem_bounds List.mem_cons_self).1
    have hnot : ¬token.start < start + Line.byteCount raw := by omega
    simp [hnot]

/-- Each byte of a tiling carries the scopes of the one token that covers it. -/
theorem Tiles.mem_bytes_iff {start stop : Nat} {tokens : List Token} (h : Tiles start tokens stop)
    {token : Token} (hmem : token ∈ tokens) {place : Nat} (hstart : token.start ≤ place)
    (hstop : place < token.stop) (scopes : List String) :
    (place, scopes) ∈ tokens.flatMap Token.bytes ↔ scopes = token.scopes := by
  obtain ⟨before, after, rfl⟩ := List.append_of_mem hmem
  obtain ⟨middle, hbefore, hmiddle, _, hafter⟩ := h.of_append
  rw [List.mem_flatMap]
  constructor
  · rintro ⟨other, hother, hbytes⟩
    obtain ⟨hplace, hscopes⟩ := Token.mem_bytes.mp hbytes
    rcases List.mem_append.mp hother with hother | hother
    · have hle := (hbefore.mem_bounds hother).2
      omega
    · rcases List.mem_cons.mp hother with rfl | hother
      · exact hscopes
      · have hle := (hafter.mem_bounds hother).1
        omega
  · rintro rfl
    exact ⟨token, hmem, Token.mem_bytes.mpr ⟨⟨hstart, hstop⟩, rfl⟩⟩

namespace Snapshot

/-! ## Rows of a line -/

namespace Row

/-- What the row of a token says, if the token marks anything on a line that starts at `lineStart`. -/
def ofToken? (line : Line) (lineStart : Nat) (token : Token) : Option Row :=
  let start := max token.start lineStart - lineStart
  let stop := min token.stop (lineStart + line.size) - lineStart
  if min token.stop (lineStart + line.size) ≤ max token.start lineStart || token.scopes.isEmpty then none
  else some {
    column := line.index start
    width := line.index stop - line.index start
    scopes := token.scopes }

/-- Whether a row marks a column. -/
def Marks (row : Row) (column : Nat) : Prop :=
  row.column ≤ column ∧ column < row.column + row.width

/-- The rows mark the columns from one up to another, each once and in order. -/
def Tile : (column : Nat) → List Row → (stop : Nat) → Prop
  | column, [], stop => column = stop
  | column, row :: rest, stop =>
    row.column = column ∧ 0 < row.width ∧ Tile (column + row.width) rest stop

theorem Tile.exists_marks {column stop : Nat} {rows : List Row} (h : Tile column rows stop) {k : Nat}
    (hk : column ≤ k) (hstop : k < stop) : ∃ row ∈ rows, row.Marks k := by
  induction rows generalizing column with
  | nil =>
    rw [Tile] at h
    omega
  | cons row rest ih =>
    obtain ⟨rfl, _, hrest⟩ := h
    rcases Nat.lt_or_ge k (row.column + row.width) with hlt | hge
    · exact ⟨row, List.mem_cons_self, hk, hlt⟩
    · obtain ⟨other, hmem, hmarks⟩ := ih hrest hge
      exact ⟨other, List.mem_cons_of_mem _ hmem, hmarks⟩

end Row

theorem tokenRow_eq (line : Line) (lineStart : Nat) (token : Token) :
    tokenRow line lineStart token = (Row.ofToken? line lineStart token).elim [] Row.text := by
  simp only [tokenRow, Row.ofToken?]
  split
  · rfl
  · rfl

theorem flatMap_tokenRow (line : Line) (lineStart : Nat) (tokens : List Token) :
    tokens.flatMap (tokenRow line lineStart) =
      (tokens.filterMap (Row.ofToken? line lineStart)).flatMap Row.text := by
  induction tokens with
  | nil => rfl
  | cons token rest ih =>
    rw [List.flatMap_cons, ih, tokenRow_eq, List.filterMap_cons]
    cases Row.ofToken? line lineStart token with
    | none => rfl
    | some row => rfl

/-- The row of a token, if both ends of what it marks are character boundaries. -/
def tokenRow? (line : Line) (lineStart : Nat) (token : Token) : Option (List Char) :=
  let start := max token.start lineStart - lineStart
  let stop := min token.stop (lineStart + line.size) - lineStart
  if min token.stop (lineStart + line.size) ≤ max token.start lineStart || token.scopes.isEmpty then
    some []
  else if line.Boundary start ∧ line.Boundary stop then some (tokenRow line lineStart token)
  else none

/-! A token spans characters of a line as it stands in the text; what is shown is the line without its
end. -/

section Spans

variable {start i j : Nat} {line ends : List Char} {token : Token}
  (h : token.Spans start (line ++ ends) i j)
include h

/-- Where a token ends and starts on the line that is shown. It marks something unless it starts behind the
end of this line. -/
theorem clipped_of_spans :
    min token.stop (start + (Line.ofChars line).size) - start = Line.byteCount (line.take j) ∧
      (min token.stop (start + (Line.ofChars line).size) ≤ max token.start start ↔ line.length ≤ i) ∧
      (i < line.length → max token.start start - start = Line.byteCount (line.take i)) := by
  have hsize : (Line.ofChars line).size = Line.byteCount line := by
    rw [Line.size_eq_byteCount, Line.chars_ofChars]
  have hstart := h.start_eq
  have hstop := h.stop_eq
  have hstop' := Line.min_byteCount_take line ends j
  have hstart' := Line.min_byteCount_take line ends i
  rcases Nat.lt_or_ge i line.length with hlt | hge
  · have hinside := Line.byteCount_take_lt h.lt hlt
    rw [List.take_append_of_le_length (Nat.le_of_lt hlt)] at hstart
    omega
  · rw [List.take_of_length_le hge] at hstart'
    omega

/-- A token marks the characters that it spans, up to where the line ends. -/
theorem ofToken?_of_spans (hscopes : token.scopes ≠ []) :
    Row.ofToken? (Line.ofChars line) start token =
      if line.length ≤ i then none
      else some { column := i, width := min j line.length - i, scopes := token.scopes } := by
  obtain ⟨hstop, hnone, hstart⟩ := clipped_of_spans h
  have hany : token.scopes.isEmpty = false := by simpa using hscopes
  simp only [Row.ofToken?, hany, Bool.or_false, decide_eq_true_eq, hnone]
  split
  · rfl
  · next hlt =>
    rw [hstart (Nat.lt_of_not_le hlt), hstop, Line.index_byteCount_take, Line.index_byteCount_take,
      Nat.min_eq_left (Nat.le_of_not_le hlt)]

/-- What a token marks begins and ends with whole characters. -/
theorem tokenRow?_of_spans :
    tokenRow? (Line.ofChars line) start token = some (tokenRow (Line.ofChars line) start token) := by
  obtain ⟨hstop, hnone, hstart⟩ := clipped_of_spans h
  simp only [tokenRow?, tokenRow]
  split
  · rfl
  · next hmarks =>
    have hlt : i < line.length := by
      rw [Bool.or_eq_true, decide_eq_true_eq, hnone] at hmarks
      omega
    rw [hstart hlt, hstop, if_pos ⟨Line.boundary_byteCount_take line i, Line.boundary_byteCount_take line j⟩]

/-- A row with words for scopes can be read. -/
theorem readable_of_spans {row : Row} (hscopes : token.scopes ≠ [])
    (hwords : ∀ scope ∈ token.scopes, Text.IsWord scope)
    (hrow : Row.ofToken? (Line.ofChars line) start token = some row) : row.Readable := by
  rw [ofToken?_of_spans h hscopes] at hrow
  split at hrow
  · cases hrow
  · have hlt := h.lt
    obtain rfl := Option.some.inj hrow
    exact ⟨by dsimp only; omega, hscopes, hwords⟩

/-- The bytes of a character that a row marks belong to the token of the row. -/
theorem bytes_of_spans {row : Row} (hscopes : token.scopes ≠ [])
    (hrow : Row.ofToken? (Line.ofChars line) start token = some row) {before after : List Char} {c : Char}
    (hline : line = before ++ c :: after) (hmarks : row.Marks before.length) {place : Nat}
    (hplace : start + Line.byteCount before ≤ place)
    (hplace' : place < start + Line.byteCount (before ++ [c])) :
    row.scopes = token.scopes ∧ token.start ≤ place ∧ place < token.stop := by
  rw [ofToken?_of_spans h hscopes] at hrow
  split at hrow
  · cases hrow
  obtain rfl := Option.some.inj hrow
  obtain ⟨hfrom, hto⟩ := hmarks
  dsimp only at hfrom hto
  have hbefore : (line ++ ends).take before.length = before := by
    rw [hline, List.append_assoc, List.take_left]
  have hnext : (line ++ ends).take (before.length + 1) = before ++ [c] := by
    rw [hline, List.append_assoc, List.take_length_add_append]
    rfl
  have hstart := Line.byteCount_take_mono (line ++ ends) hfrom
  have hstop := Line.byteCount_take_mono (line ++ ends) (show before.length + 1 ≤ j by omega)
  rw [hbefore] at hstart
  rw [hnext] at hstop
  refine ⟨rfl, ?_, ?_⟩
  · rw [h.start_eq]
    omega
  · rw [h.stop_eq]
    omega

end Spans

/-- Each token of a line has scopes, and these are words. -/
def Worded (tokens : List Token) : Prop :=
  ∀ token ∈ tokens, token.scopes ≠ [] ∧ ∀ scope ∈ token.scopes, Text.IsWord scope

/-- **The rows of a line tile its columns.** -/
theorem tile_rows {start i : Nat} {line ends : List Char} {tokens : List Token}
    (hi : i ≤ (line ++ ends).length)
    (htiles : Tiles (start + Line.byteCount ((line ++ ends).take i)) tokens
      (start + Line.byteCount (line ++ ends)))
    (hstops : ∀ token ∈ tokens, token.stop ∈ boundaries start (line ++ ends))
    (hworded : Worded tokens) :
    Row.Tile (min i line.length) (tokens.filterMap (Row.ofToken? (Line.ofChars line) start))
      line.length := by
  induction tokens generalizing i with
  | nil =>
    -- no more tokens, so the line is at its end
    have hend : (line ++ ends).length ≤ i := by
      by_contra hlt
      have hmore := Line.byteCount_take_lt (Nat.lt_of_not_le hlt) (Nat.lt_of_not_le hlt)
      rw [List.take_length] at hmore
      rw [Tiles] at htiles
      omega
    rw [List.length_append] at hend
    exact Nat.min_eq_right (by omega)
  | cons token rest ih =>
    obtain ⟨hstart, hlength, hrest⟩ := htiles
    obtain ⟨hstop, hstops⟩ := List.forall_mem_cons.mp hstops
    obtain ⟨⟨hscopes, _⟩, hworded⟩ := List.forall_mem_cons.mp hworded
    obtain ⟨j, hspans⟩ := Token.spans_of_boundaries hstart hstop hlength
    have hlt := hspans.lt
    rw [hspans.stop_eq] at hrest
    have hrows := ih hspans.le hrest hstops hworded
    rw [List.filterMap_cons, ofToken?_of_spans hspans hscopes]
    by_cases hbehind : line.length ≤ i
    · rw [if_pos hbehind]
      rw [Nat.min_eq_right (by omega)] at hrows ⊢
      exact hrows
    · rw [if_neg hbehind, Nat.min_eq_left (by omega)]
      refine ⟨rfl, ?_, ?_⟩
      · dsimp only
        omega
      · dsimp only
        rwa [Nat.add_sub_cancel' (by omega)]

/-! ## Entries of a text -/

/-- An entry shows a line that starts at byte `start`: the line without its end, with rows that tile its
columns, and the scopes that the bytes of its characters carry. -/
structure Entry.Shows (bytes : List (Nat × List String)) (start : Nat) (raw : List Char)
    (entry : Entry) : Prop where
  line_eq : entry.line = Text.dropLineEnds raw
  tile : Row.Tile 0 entry.rows entry.line.length
  scopes : ∀ row ∈ entry.rows, ∀ before c after, entry.line = before ++ c :: after →
    row.Marks before.length → ∀ place, start + Line.byteCount before ≤ place →
      place < start + Line.byteCount (before ++ [c]) →
        ∀ scopes, (place, scopes) ∈ bytes ↔ scopes = row.scopes

/-- There is one entry for each line, and it shows this line. -/
inductive Pictures (bytes : List (Nat × List String)) :
    (start : Nat) → List (List Char) → List Entry → Prop where
  | nil (start : Nat) : Pictures bytes start [] []
  | cons {start : Nat} {raw : List Char} {rest : List (List Char)} {entry : Entry}
      {entries : List Entry} (hentry : entry.Shows bytes start raw)
      (hrest : Pictures bytes (start + Line.byteCount raw) rest entries) :
      Pictures bytes start (raw :: rest) (entry :: entries)

/-- A byte of a character of a text that is not part of a line's end. -/
def Visible (text : List Char) (place : Nat) : Prop :=
  ∃ before raw after first c last, Text.lines text = before ++ raw :: after ∧
    Text.dropLineEnds raw = first ++ c :: last ∧
      Line.byteCount before.flatten + Line.byteCount first ≤ place ∧
      place < Line.byteCount before.flatten + Line.byteCount (first ++ [c])

/-- The tokens that tile a line have rows that show it. -/
theorem shows_rows {bytes : List (Nat × List String)} {start : Nat} {raw : List Char}
    {tokens : List Token} (htiles : Tiles start tokens (start + Line.byteCount raw))
    (hstops : ∀ token ∈ tokens, token.stop ∈ boundaries start raw) (hworded : Worded tokens)
    (hbytes : ∀ token ∈ tokens, ∀ place, token.start ≤ place → place < token.stop →
      ∀ scopes, (place, scopes) ∈ bytes ↔ scopes = token.scopes) :
    Entry.Shows bytes start raw {
      line := Text.dropLineEnds raw
      rows := tokens.filterMap (Row.ofToken? (Line.ofChars (Text.dropLineEnds raw)) start) } := by
  obtain ⟨ends, hraw, _⟩ := Text.exists_lineEnds raw
  generalize hline : Text.dropLineEnds raw = line at hraw ⊢
  refine ⟨hline.symm, ?_, ?_⟩
  · have hrows := @tile_rows start 0 line ends tokens (Nat.zero_le _) (hraw ▸ htiles) (hraw ▸ hstops)
      hworded
    rwa [Nat.zero_min] at hrows
  · intro row hmem before c after hsplit hmarks place hplace hplace' scopes
    obtain ⟨token, htoken, hrow⟩ := List.mem_filterMap.mp hmem
    obtain ⟨i, j, hspans⟩ := htiles.exists_spans hstops htoken
    rw [hraw] at hspans
    obtain ⟨hscopes, hstart, hstop⟩ := bytes_of_spans hspans (hworded token htoken).1 hrow hsplit hmarks
      hplace hplace'
    rw [hscopes]
    exact hbytes token htoken place hstart hstop scopes

/-- **The entries of all lines.** What is rendered is how they are written. -/
theorem exists_pictures {bytes : List (Nat × List String)} {start : Nat} {lines : List (List Char)}
    {tokens : List Token} (h : TilesLines start lines tokens)
    (hfeed : ∀ raw ∈ lines, '\n' ∉ Text.dropLineEnds raw) (hworded : Worded tokens)
    (hbytes : ∀ token ∈ tokens, ∀ place, token.start ≤ place → place < token.stop →
      ∀ scopes, (place, scopes) ∈ bytes ↔ scopes = token.scopes) :
    ∃ entries, Pictures bytes start lines entries ∧ (∀ entry ∈ entries, entry.Readable) ∧
      renderLines start lines tokens = entries.flatMap Entry.text := by
  induction h with
  | nil start => exact ⟨[], .nil start, List.forall_mem_nil _, rfl⟩
  | @cons start raw rest current tokens htiles hstops hrest ih =>
    obtain ⟨hline, hfeed⟩ := List.forall_mem_cons.mp hfeed
    obtain ⟨hcurrent, hworded⟩ := List.forall_mem_append.mp hworded
    obtain ⟨hbytes, hbytes'⟩ := List.forall_mem_append.mp hbytes
    obtain ⟨entries, hpictures, hreadable, hrender⟩ := ih hfeed hworded hbytes'
    obtain ⟨hhere, hlater⟩ := TilesLines.split htiles hrest
    refine ⟨_ :: entries, .cons (shows_rows htiles hstops hcurrent hbytes) hpictures,
      List.forall_mem_cons.mpr ⟨⟨hline, ?_⟩, hreadable⟩, ?_⟩
    · intro row hmem
      obtain ⟨token, htoken, hrow⟩ := List.mem_filterMap.mp hmem
      obtain ⟨i, j, hspans⟩ := htiles.exists_spans hstops htoken
      obtain ⟨ends, hraw, _⟩ := Text.exists_lineEnds raw
      rw [hraw] at hspans
      exact readable_of_spans hspans (hcurrent token htoken).1 (hcurrent token htoken).2 hrow
    · rw [renderLines, hhere, hlater, hrender, flatMap_tokenRow]
      rfl

/-- Where two texts are shown by the same entries, characters that are shown carry the same scopes. -/
theorem Pictures.mem_bytes_iff {bytes bytes' : List (Nat × List String)} {start : Nat}
    {before after : List (List Char)} {raw : List Char} {entries : List Entry}
    (h : Pictures bytes start (before ++ raw :: after) entries)
    (h' : Pictures bytes' start (before ++ raw :: after) entries) {first last : List Char} {c : Char}
    (hraw : Text.dropLineEnds raw = first ++ c :: last) {place : Nat}
    (hplace : start + Line.byteCount before.flatten + Line.byteCount first ≤ place)
    (hplace' : place < start + Line.byteCount before.flatten + Line.byteCount (first ++ [c]))
    (scopes : List String) : (place, scopes) ∈ bytes ↔ (place, scopes) ∈ bytes' := by
  induction before generalizing start entries with
  | nil =>
    cases h with
    | cons hentry _ =>
    cases h' with
    | cons hentry' _ =>
      have hline := hentry.line_eq.trans hraw
      have hlength := congrArg List.length hline
      rw [List.length_append, List.length_cons] at hlength
      obtain ⟨row, hrow, hmarks⟩ :=
        hentry.tile.exists_marks (Nat.zero_le first.length) (by omega)
      rw [hentry.scopes row hrow first c last hline hmarks place hplace hplace',
        hentry'.scopes row hrow first c last hline hmarks place hplace hplace']
  | cons other before ih =>
    rw [List.flatten_cons, Line.byteCount_append, ← Nat.add_assoc] at hplace hplace'
    cases h with
    | cons _ hrest =>
    cases h' with
    | cons _ hrest' => exact ih hrest hrest' hplace hplace'

/-! ## Rendering without failure -/

/-- The rows of the lines that are left, if no character is taken apart. -/
def renderLines? : (lineStart : Nat) → List (List Char) → List Token → Option (List Char)
  | _, [], _ => some []
  | lineStart, raw :: rest, tokens => do
    let line := Text.dropLineEnds raw
    let next := lineStart + Line.byteCount raw
    let rows ← (tokens.takeWhile (·.start < next)).mapM (tokenRow? (Line.ofChars line) lineStart)
    let below ← renderLines? next rest (tokens.dropWhile (·.start < next))
    return '>' :: (line ++ ['\n']) ++ rows.flatten ++ below

/-- The snapshot of a text with its tokens, if no character is taken apart. -/
def render? (text : String) (tokens : List Token) : Option String :=
  String.ofList <$> renderLines? 0 (Text.lines text.toList) tokens

/-- The rows of one line are rendered without failure. -/
theorem mapM_tokenRow? {start : Nat} {line ends : List Char} {tokens : List Token}
    (h : ∀ token ∈ tokens, ∃ i j, token.Spans start (line ++ ends) i j) :
    tokens.mapM (tokenRow? (Line.ofChars line) start) =
      some (tokens.map (tokenRow (Line.ofChars line) start)) := by
  induction tokens with
  | nil => rfl
  | cons token rest ih =>
    obtain ⟨⟨i, j, hspans⟩, hrest⟩ := List.forall_mem_cons.mp h
    rw [List.mapM_cons, tokenRow?_of_spans hspans, ih hrest]
    rfl

/-- **No character is taken apart.** -/
theorem renderLines?_eq {start : Nat} {lines : List (List Char)} {tokens : List Token}
    (h : TilesLines start lines tokens) :
    renderLines? start lines tokens = some (renderLines start lines tokens) := by
  induction h with
  | nil start => rfl
  | @cons start raw rest current tokens htiles hstops hrest ih =>
    obtain ⟨hhere, hlater⟩ := TilesLines.split htiles hrest
    obtain ⟨ends, hraw, _⟩ := Text.exists_lineEnds raw
    have hspans : ∀ token ∈ current, ∃ i j, token.Spans start (Text.dropLineEnds raw ++ ends) i j :=
      fun token hmem => hraw ▸ htiles.exists_spans hstops hmem
    rw [renderLines?, renderLines, hhere, hlater, mapM_tokenRow? hspans, ih]
    rfl

end Snapshot

namespace Repository

variable (repository : Repository)

/-- The tokens of a scan tile the lines of the text one by one. -/
theorem foldl_tilesLines (stallLimit : Nat) (lines : List (List Char)) (progress : ScanProgress) :
    ∃ added, (lines.foldl (repository.scanNextLine stallLimit) progress).tokens =
        progress.tokens ++ added ∧ TilesLines progress.offset lines added := by
  induction lines generalizing progress with
  | nil => exact ⟨[], (List.append_nil _).symm, .nil _⟩
  | cons raw rest ih =>
    obtain ⟨current, htokens, htiles, hstops⟩ := repository.scanNextLine_tokens stallLimit progress raw
    obtain ⟨added, hadded, hrest⟩ := ih (repository.scanNextLine stallLimit progress raw)
    refine ⟨current ++ added, ?_, .cons htiles hstops hrest⟩
    rw [List.foldl_cons, hadded, htokens, List.append_assoc]

theorem scan_tilesLines (settings : ScannerSettings) (session : Session) (text : String)
    (state : Option ScopeStack) :
    TilesLines 0 (Text.lines text.toList) (repository.scan settings session text state).1.tokens := by
  obtain ⟨added, htokens, htiles⟩ := repository.foldl_tilesLines settings.stallLimit
    (Text.lines text.toList) (.begin settings session (state.getD (.fresh repository)))
  rw [scan_eq, reached]
  dsimp only
  rw [htokens]
  exact htiles

end Repository

namespace Snapshot

/-- A snapshot of a text with its tokens is how certain entries are written. They show the lines of the text
and the scopes of its characters, no other entries are written like this, and its lines can be grouped in no
other way. -/
structure Faithful (text : String) (tokens : List Token) (entries : List Entry) : Prop where
  pictures : Pictures (tokens.flatMap Token.bytes) 0 (Text.lines text.toList) entries
  readable : ∀ entry ∈ entries, entry.Readable
  render_eq : render text tokens = String.ofList (entries.flatMap Entry.text)
  unique : ∀ others : List Entry, (∀ entry ∈ others, entry.Readable) →
    render text tokens = String.ofList (others.flatMap Entry.text) → others = entries
  grouped : ∀ groups : List Group, (∀ group ∈ groups, group.Marked) →
    (Text.lines (render text tokens).toList = groups.flatMap Group.lines ↔
      groups = entries.map Entry.group)

/-- Tokens that tile the lines of a text and have words for scopes have a faithful snapshot. -/
theorem exists_faithful {text : String} {tokens : List Token}
    (htiles : TilesLines 0 (Text.lines text.toList) tokens) (hworded : Worded tokens) :
    ∃ entries, Faithful text tokens entries := by
  obtain ⟨entries, hpictures, hreadable, hrender⟩ := exists_pictures htiles
    (fun _ hmem => Text.newLine_not_mem_dropLineEnds hmem) hworded
    fun token hmem place hstart hstop => htiles.tiles.mem_bytes_iff hmem hstart hstop
  have hwritten : render text tokens = String.ofList (entries.flatMap Entry.text) := by
    rw [render, hrender]
  have hlines : Text.lines (render text tokens).toList =
      (entries.map Entry.group).flatMap Group.lines := by
    rw [hwritten, String.toList_ofList, Entry.lines_text hreadable]
  refine ⟨entries, hpictures, hreadable, hwritten, fun others hothers hsame => ?_,
    fun groups hgroups => ⟨fun hsplit => ?_, fun heq => heq ▸ hlines⟩⟩
  · have htexts := congrArg String.toList (hsame.symm.trans hwritten)
    rw [String.toList_ofList, String.toList_ofList] at htexts
    exact Entry.entries_inj hothers hreadable htexts
  · refine Group.groups_inj hgroups ?_ (hsplit.symm.trans hlines)
    intro group hmem
    obtain ⟨entry, _, rfl⟩ := List.mem_map.mp hmem
    exact entry.group_marked

/-- Equal snapshots of a text show equal scopes. -/
theorem Faithful.mem_bytes_iff {text : String} {tokens tokens' : List Token} {entries entries' : List Entry}
    (h : Faithful text tokens entries) (h' : Faithful text tokens' entries')
    (heq : render text tokens = render text tokens') {place : Nat} (hvisible : Visible text.toList place)
    (scopes : List String) :
    (place, scopes) ∈ tokens.flatMap Token.bytes ↔ (place, scopes) ∈ tokens'.flatMap Token.bytes := by
  obtain rfl := h.unique entries' h'.readable (heq.trans h'.render_eq)
  obtain ⟨before, raw, after, first, c, last, hlines, hraw, hplace, hplace'⟩ := hvisible
  have hpictures := h.pictures
  have hpictures' := h'.pictures
  rw [hlines] at hpictures hpictures'
  exact hpictures.mem_bytes_iff hpictures' hraw (by omega) (by omega) scopes

/-- **Snapshots are faithful pictures of scans.** Take any scan of a text over an accepted grammar, from a
fresh stack. Its snapshot is rendered without taking a character apart. It can be split in one way only into
entries, one for each line: the line without its end, and rows below it that mark each of its columns once,
in order, with the scopes of all characters that they mark. So if another such scan of the text gives other
scopes to a character that is not part of a line's end, then it has another snapshot. -/
theorem render_faithful {repository : Repository} (h : repository.Loaded) (settings : ScannerSettings)
    (session : Session) (text : String) :
    let tokens := (repository.scan settings session text none).1.tokens
    render? text tokens = some (render text tokens) ∧
      (∃ entries, Faithful text tokens entries) ∧
      ∀ repository' : Repository, repository'.Loaded → ∀ settings' session' place scopes,
        let tokens' := (repository'.scan settings' session' text none).1.tokens
        Visible text.toList place → (place, scopes) ∈ tokens.flatMap Token.bytes →
          (place, scopes) ∉ tokens'.flatMap Token.bytes → render text tokens ≠ render text tokens' := by
  have hfaithful {repository : Repository} (h : repository.Loaded) (settings : ScannerSettings)
      (session : Session) :
      ∃ entries, Faithful text (repository.scan settings session text none).1.tokens entries :=
    exists_faithful (repository.scan_tilesLines settings session text none)
      (h.scan_words settings session text)
  refine ⟨?_, hfaithful h settings session, ?_⟩
  · rw [render?, renderLines?_eq (repository.scan_tilesLines settings session text none)]
    rfl
  · intro repository' h' settings' session' place scopes tokens' hvisible hmem hnot heq
    obtain ⟨entries, hpicture⟩ := hfaithful h settings session
    obtain ⟨entries', hpicture'⟩ := hfaithful h' settings' session'
    exact hnot ((hpicture.mem_bytes_iff hpicture' heq hvisible scopes).mp hmem)

/-- A grammar for headings. -/
def headingGrammar : Grammar where
  scopeName := "text.t"
  patterns := [{ pattern := some "#+", name := some "mark heading" }]

/-- A grammar that knows nothing but its name. -/
def plainGrammar : Grammar where
  scopeName := "text.t"

/-- A text whose lines look like those of a snapshot. -/
def trickyText : String := "#é\r\n>#"

theorem headingGrammar_tokens :
    (match Repository.ofGrammar headingGrammar 1000, Repository.ofGrammar plainGrammar 1000 with
      | .ok repository, .ok plain =>
        let tokens (repository : Repository) : List Token :=
          ((Text.lines trickyText.toList).foldl (repository.scanNextLineWithin 32 8)
            (.begin {} {} (.fresh repository))).tokens
        decide (tokens repository = [⟨0, 1, ["text.t", "mark", "heading"]⟩, ⟨1, 4, ["text.t"]⟩,
          ⟨5, 1, ["text.t"]⟩, ⟨6, 1, ["text.t", "mark", "heading"]⟩]) &&
        decide (tokens plain = [⟨0, 5, ["text.t"]⟩, ⟨5, 2, ["text.t"]⟩])
      | _, _ => false) = true := by
  decide +kernel

/-- A snapshot of the text with its headings. Without these it would be another one. -/
theorem render_faithful_tricky :
    ∃ repository plain, Repository.ofGrammar headingGrammar 1000 = .ok repository ∧
      Repository.ofGrammar plainGrammar 1000 = .ok plain ∧
      let tokens := (repository.scan {} {} trickyText none).1.tokens
      let tokens' := (plain.scan {} {} trickyText none).1.tokens
      render trickyText tokens =
          ">#é\n#^ text.t mark heading\n# ^ text.t\n>>#\n#^ text.t\n# ^ text.t mark heading\n" ∧
        render? trickyText tokens = some (render trickyText tokens) ∧
        (∃ entries, Faithful trickyText tokens entries) ∧
        render trickyText tokens ≠ render trickyText tokens' := by
  have hruns := headingGrammar_tokens
  split at hruns
  · next repository plain hgrammar hplain =>
    simp only [Repository.scanNextLineWithin_eq, Bool.and_eq_true, decide_eq_true_eq] at hruns
    obtain ⟨hrun, hrun'⟩ := hruns
    have htokens : (repository.scan {} {} trickyText none).1.tokens =
        [⟨0, 1, ["text.t", "mark", "heading"]⟩, ⟨1, 4, ["text.t"]⟩, ⟨5, 1, ["text.t"]⟩,
          ⟨6, 1, ["text.t", "mark", "heading"]⟩] := by
      rw [Repository.scan_eq, Repository.reached, Option.getD_none]
      dsimp only
      exact hrun
    have htokens' : (plain.scan {} {} trickyText none).1.tokens =
        [⟨0, 5, ["text.t"]⟩, ⟨5, 2, ["text.t"]⟩] := by
      rw [Repository.scan_eq, Repository.reached, Option.getD_none]
      dsimp only
      exact hrun'
    obtain ⟨hrender, hfaithful, hdiffer⟩ := render_faithful (.grammar hgrammar) {} {} trickyText
    have hvisible : Visible trickyText.toList 0 :=
      ⟨[], "#é\r\n".toList, [">#".toList], [], '#', ['é'], by decide +kernel, by decide +kernel,
        by decide +kernel, by decide +kernel⟩
    have hother := hdiffer plain (.grammar hplain) {} {} 0 ["text.t", "mark", "heading"] hvisible
      (by rw [htokens]; decide +kernel) (by rw [htokens']; decide +kernel)
    refine ⟨repository, plain, hgrammar, hplain, ?_, hrender, hfaithful, hother⟩
    rw [htokens]
    decide +kernel
  · cases hruns

end Snapshot

end ScopeScanner
