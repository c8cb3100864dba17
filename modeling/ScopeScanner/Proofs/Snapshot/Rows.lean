import ScopeScanner.Proofs.Scanner.ScopeNames
import ScopeScanner.Snapshot.Render

/-!
# Reading a snapshot

A snapshot is a list of entries, one for each line of a text: the line, and the rows below it. What a
snapshot says can be read off its characters, also if lines of the text look like rows:

* **`Row.text_inj`**: a row that marks some column, with scopes that are words, is known by how it is
  written, whatever stands behind it. Blanks end at the first caret, carets and scopes at the next blank.
* **`Entry.entries_inj`**: so is a list of entries.
* **`Group.groups_inj`**, `Entry.lines_text`: the lines of a snapshot belong to entries in one way only,
  since a `>` or a `#` at the start of each tells whose it is.
-/

namespace ScopeScanner.Snapshot

/-! ## Scopes -/

/-- What stands before and behind the first occurrence of a character. -/
theorem append_cons_inj {c : Char} {first first' rest rest' : List Char} (h : c ∉ first)
    (h' : c ∉ first') (heq : first ++ c :: rest = first' ++ c :: rest') :
    first = first' ∧ rest = rest' := by
  induction first generalizing first' with
  | nil =>
    cases first' with
    | nil => exact ⟨rfl, (List.cons.inj heq).2⟩
    | cons d first' =>
      obtain ⟨rfl, _⟩ := List.cons.inj heq
      exact absurd List.mem_cons_self h'
  | cons d first ih =>
    cases first' with
    | nil =>
      obtain ⟨rfl, _⟩ := List.cons.inj heq
      exact absurd List.mem_cons_self h
    | cons d' first' =>
      obtain ⟨rfl, htail⟩ := List.cons.inj heq
      obtain ⟨rfl, hrest⟩ := ih (List.not_mem_of_not_mem_cons h) (List.not_mem_of_not_mem_cons h') htail
      exact ⟨rfl, hrest⟩

/-- White space does not stand in a word. -/
theorem not_mem_of_isWord {word : String} (h : Text.IsWord word) {c : Char}
    (hblank : Unicode.isBlank c = true) : c ∉ word.toList := by
  intro hmem
  rw [h.2 c hmem] at hblank
  cases hblank

theorem joinScopes_cons (scope : String) {rest : List String} (h : rest ≠ []) :
    joinScopes (scope :: rest) = scope.toList ++ ' ' :: joinScopes rest := by
  cases rest with
  | nil => exact absurd rfl h
  | cons next rest => rfl

/-- A row of words is on one line. -/
theorem newLine_not_mem_joinScopes {scopes : List String} (h : ∀ scope ∈ scopes, Text.IsWord scope) :
    '\n' ∉ joinScopes scopes := by
  have hfeed : Unicode.isBlank '\n' = true := by decide
  induction scopes with
  | nil => exact List.not_mem_nil
  | cons scope rest ih =>
    obtain ⟨hscope, hrest⟩ := List.forall_mem_cons.mp h
    have hfirst := not_mem_of_isWord hscope hfeed
    by_cases hnil : rest = []
    · rw [hnil]
      exact hfirst
    · rw [joinScopes_cons scope hnil]
      simp [hfirst, ih hrest]

/-- Words can be told from each other by the blanks between them. -/
theorem joinScopes_inj {scopes scopes' : List String} (h : ∀ scope ∈ scopes, Text.IsWord scope)
    (h' : ∀ scope ∈ scopes', Text.IsWord scope) (hne : scopes ≠ []) (hne' : scopes' ≠ [])
    (heq : joinScopes scopes = joinScopes scopes') : scopes = scopes' := by
  have hblank : Unicode.isBlank ' ' = true := by decide
  induction scopes generalizing scopes' with
  | nil => exact absurd rfl hne
  | cons scope rest ih =>
    cases scopes' with
    | nil => exact absurd rfl hne'
    | cons scope' rest' =>
      obtain ⟨hscope, hrest⟩ := List.forall_mem_cons.mp h
      obtain ⟨hscope', hrest'⟩ := List.forall_mem_cons.mp h'
      have hno := not_mem_of_isWord hscope hblank
      have hno' := not_mem_of_isWord hscope' hblank
      by_cases hnil : rest = []
      · by_cases hnil' : rest' = []
        · rw [hnil, hnil'] at heq ⊢
          exact congrArg (fun scope => [scope]) (String.toList_injective heq)
        · rw [hnil, joinScopes_cons scope' hnil', joinScopes] at heq
          exact absurd (heq ▸ List.mem_append_right _ List.mem_cons_self) hno
      · by_cases hnil' : rest' = []
        · rw [hnil', joinScopes_cons scope hnil, joinScopes] at heq
          exact absurd (heq ▸ List.mem_append_right _ List.mem_cons_self) hno'
        · rw [joinScopes_cons scope hnil, joinScopes_cons scope' hnil'] at heq
          obtain ⟨hfirst, hjoined⟩ := append_cons_inj hno hno' heq
          rw [String.toList_injective hfirst, ih hrest hrest' hnil hnil' hjoined]

/-! ## Rows -/

/-- A row below a line: the columns that it marks, and the scopes behind the marks. -/
structure Row where
  column : Nat
  width : Nat
  scopes : List String
deriving DecidableEq, Repr

namespace Row

/-- How a row is written. -/
def text (row : Row) : List Char :=
  '#' :: (List.replicate row.column ' ' ++ List.replicate row.width '^' ++ ' ' :: joinScopes row.scopes)
    ++ ['\n']

/-- A row that marks some column and has words for scopes. -/
structure Readable (row : Row) : Prop where
  width_pos : 0 < row.width
  scopes_ne_nil : row.scopes ≠ []
  words : ∀ scope ∈ row.scopes, Text.IsWord scope

variable {row row' : Row} {rest rest' : List Char}

/-- A row as it is read: blanks up to the first caret, then carets up to a blank, then scopes up to the end
of the line. -/
theorem text_append (h : row.Readable) (rest : List Char) : row.text ++ rest =
    '#' :: (List.replicate row.column ' ' ++
      '^' :: (List.replicate (row.width - 1) '^' ++ ' ' :: (joinScopes row.scopes ++ '\n' :: rest))) := by
  have hcarets : List.replicate row.width '^' = '^' :: List.replicate (row.width - 1) '^' := by
    rw [← List.replicate_succ, Nat.sub_add_cancel h.width_pos]
  rw [text, hcarets]
  simp

/-- **A row can be read off how it is written**, whatever stands behind it. -/
theorem text_inj (h : row.Readable) (h' : row'.Readable) (heq : row.text ++ rest = row'.text ++ rest') :
    row = row' ∧ rest = rest' := by
  rw [text_append h, text_append h'] at heq
  obtain ⟨hblanks, heq⟩ := append_cons_inj (by simp) (by simp) (List.cons.inj heq).2
  obtain ⟨hcarets, heq⟩ := append_cons_inj (by simp) (by simp) heq
  obtain ⟨hscopes, hrest⟩ := append_cons_inj (newLine_not_mem_joinScopes h.words)
    (newLine_not_mem_joinScopes h'.words) heq
  have hcolumn := congrArg List.length hblanks
  have hwidth := congrArg List.length hcarets
  rw [List.length_replicate, List.length_replicate] at hcolumn hwidth
  have hpos := h.width_pos
  have hpos' := h'.width_pos
  have hscopes := joinScopes_inj h.words h'.words h.scopes_ne_nil h'.scopes_ne_nil hscopes
  obtain ⟨column, width, scopes⟩ := row
  obtain ⟨column', width', scopes'⟩ := row'
  obtain rfl : width = width' := by
    dsimp only at hwidth hpos hpos'
    omega
  obtain rfl : column = column' := hcolumn
  obtain rfl : scopes = scopes' := hscopes
  exact ⟨rfl, hrest⟩

/-- So can a list of rows, if what stands behind it does not look like a row. -/
theorem rows_inj {rows rows' : List Row} (h : ∀ row ∈ rows, row.Readable)
    (h' : ∀ row ∈ rows', row.Readable) (hrest : rest.head? ≠ some '#') (hrest' : rest'.head? ≠ some '#')
    (heq : rows.flatMap text ++ rest = rows'.flatMap text ++ rest') : rows = rows' ∧ rest = rest' := by
  induction rows generalizing rows' with
  | nil =>
    cases rows' with
    | nil => exact ⟨rfl, heq⟩
    | cons row' rows' =>
      rw [List.flatMap_nil, List.nil_append] at heq
      rw [heq] at hrest
      exact absurd rfl hrest
  | cons row rows ih =>
    cases rows' with
    | nil =>
      rw [List.flatMap_nil, List.nil_append] at heq
      rw [← heq] at hrest'
      exact absurd rfl hrest'
    | cons row' rows' =>
      obtain ⟨hrow, hrows⟩ := List.forall_mem_cons.mp h
      obtain ⟨hrow', hrows'⟩ := List.forall_mem_cons.mp h'
      rw [List.flatMap_cons, List.flatMap_cons, List.append_assoc, List.append_assoc] at heq
      obtain ⟨rfl, hlater⟩ := text_inj hrow hrow' heq
      obtain ⟨rfl, hrest⟩ := ih hrows hrows' hlater
      exact ⟨rfl, hrest⟩

end Row

/-! ## Groups of lines -/

/-- A line of a snapshot, and the lines below it. -/
structure Group where
  head : List Char
  below : List (List Char)
deriving DecidableEq, Repr

namespace Group

/-- All lines of a group. -/
def lines (group : Group) : List (List Char) :=
  group.head :: group.below

/-- A line that starts with `>`, above lines that start with `#`. -/
structure Marked (group : Group) : Prop where
  head : group.head.head? = some '>'
  below : ∀ line ∈ group.below, line.head? = some '#'

/-- The lines below the first of a group are those up to the next `>`. -/
theorem takeWhile_below {group : Group} {groups : List Group} (h : group.Marked)
    (hgroups : ∀ group ∈ groups, group.Marked) :
    (group.below ++ groups.flatMap lines).takeWhile (·.head? = some '#') = group.below := by
  rw [List.takeWhile_append_of_pos fun line hmem => decide_eq_true (h.below line hmem)]
  cases groups with
  | nil => simp
  | cons next groups =>
    have hnext := (hgroups next List.mem_cons_self).head
    simp [lines, hnext]

/-- **Lines can be grouped in one way only.** -/
theorem groups_inj {groups groups' : List Group} (h : ∀ group ∈ groups, group.Marked)
    (h' : ∀ group ∈ groups', group.Marked) (heq : groups.flatMap lines = groups'.flatMap lines) :
    groups = groups' := by
  induction groups generalizing groups' with
  | nil =>
    cases groups' with
    | nil => rfl
    | cons group' groups' => cases heq
  | cons group groups ih =>
    cases groups' with
    | nil => cases heq
    | cons group' groups' =>
      obtain ⟨hgroup, hgroups⟩ := List.forall_mem_cons.mp h
      obtain ⟨hgroup', hgroups'⟩ := List.forall_mem_cons.mp h'
      obtain ⟨hhead, hrest⟩ := List.cons.inj heq
      have hbelow : group.below = group'.below := by
        rw [← takeWhile_below hgroup hgroups, ← takeWhile_below hgroup' hgroups']
        exact congrArg _ hrest
      obtain ⟨head, below⟩ := group
      obtain ⟨head', below'⟩ := group'
      obtain rfl : head = head' := hhead
      obtain rfl : below = below' := hbelow
      rw [ih hgroups hgroups' (List.append_cancel_left hrest)]

end Group

/-! ## Entries -/

/-- The first line ends with the first line feed. -/
theorem lines_append_newLine {first : List Char} (h : '\n' ∉ first) (rest : List Char) :
    Text.lines (first ++ '\n' :: rest) = (first ++ ['\n']) :: Text.lines rest := by
  induction first with
  | nil => simp [Text.lines]
  | cons c first ih =>
    have hc : c ≠ '\n' := fun heq => h (heq ▸ List.mem_cons_self)
    rw [List.cons_append, Text.lines, if_neg hc, ih (List.not_mem_of_not_mem_cons h)]
    rfl

/-- A line of a text, with the rows below it. -/
structure Entry where
  line : List Char
  rows : List Row
deriving DecidableEq, Repr

namespace Entry

/-- The lines that an entry takes up. -/
def group (entry : Entry) : Group where
  head := '>' :: (entry.line ++ ['\n'])
  below := entry.rows.map Row.text

theorem group_marked (entry : Entry) : entry.group.Marked where
  head := rfl
  below := by
    intro row hmem
    obtain ⟨row, _, rfl⟩ := List.mem_map.mp hmem
    rfl

/-- How an entry is written. -/
def text (entry : Entry) : List Char :=
  '>' :: (entry.line ++ ['\n']) ++ entry.rows.flatMap Row.text

/-- A line without a line feed, above rows that can be read. -/
structure Readable (entry : Entry) : Prop where
  line : '\n' ∉ entry.line
  rows : ∀ row ∈ entry.rows, row.Readable

/-- Entries do not start like a row. -/
theorem head?_entries (entries : List Entry) : (entries.flatMap text).head? ≠ some '#' := by
  cases entries with
  | nil => simp
  | cons entry entries => simp [text]

/-- **A list of entries can be read off how it is written.** -/
theorem entries_inj {entries entries' : List Entry} (h : ∀ entry ∈ entries, entry.Readable)
    (h' : ∀ entry ∈ entries', entry.Readable)
    (heq : entries.flatMap text = entries'.flatMap text) : entries = entries' := by
  induction entries generalizing entries' with
  | nil =>
    cases entries' with
    | nil => rfl
    | cons entry' entries' => cases heq
  | cons entry entries ih =>
    cases entries' with
    | nil => cases heq
    | cons entry' entries' =>
      obtain ⟨hentry, hentries⟩ := List.forall_mem_cons.mp h
      obtain ⟨hentry', hentries'⟩ := List.forall_mem_cons.mp h'
      have hread (entry : Entry) (rest : List Char) :
          entry.text ++ rest = '>' :: (entry.line ++ '\n' :: (entry.rows.flatMap Row.text ++ rest)) := by
        simp [text]
      rw [List.flatMap_cons, List.flatMap_cons, hread, hread] at heq
      obtain ⟨hline, hbelow⟩ := append_cons_inj hentry.line hentry'.line (List.cons.inj heq).2
      obtain ⟨hrows, hlater⟩ := Row.rows_inj hentry.rows hentry'.rows (head?_entries entries)
        (head?_entries entries') hbelow
      obtain ⟨line, rows⟩ := entry
      obtain ⟨line', rows'⟩ := entry'
      obtain rfl : line = line' := hline
      obtain rfl : rows = rows' := hrows
      rw [ih hentries hentries' hlater]

/-- **The lines of what is written are those of the entries.** -/
theorem lines_text {entries : List Entry} (h : ∀ entry ∈ entries, entry.Readable) :
    Text.lines (entries.flatMap text) = (entries.map group).flatMap Group.lines := by
  have hrow {row : Row} (hrow : row.Readable) (rest : List Char) :
      Text.lines (row.text ++ rest) = row.text :: Text.lines rest := by
    have hfeed : '\n' ∉ '#' :: (List.replicate row.column ' ' ++ List.replicate row.width '^' ++
        ' ' :: joinScopes row.scopes) := by
      simp [newLine_not_mem_joinScopes hrow.words]
    rw [Row.text, List.append_assoc]
    exact lines_append_newLine hfeed rest
  have hrows {rows : List Row} (hrows : ∀ row ∈ rows, row.Readable) (rest : List Char) :
      Text.lines (rows.flatMap Row.text ++ rest) = rows.map Row.text ++ Text.lines rest := by
    induction rows with
    | nil => rfl
    | cons row rows ih =>
      obtain ⟨hfirst, hlater⟩ := List.forall_mem_cons.mp hrows
      rw [List.flatMap_cons, List.append_assoc, hrow hfirst, ih hlater]
      rfl
  induction entries with
  | nil => rfl
  | cons entry entries ih =>
    obtain ⟨hentry, hentries⟩ := List.forall_mem_cons.mp h
    have hline : '\n' ∉ '>' :: entry.line := by simp [hentry.line]
    rw [List.map_cons, List.flatMap_cons, List.flatMap_cons, text, ← List.cons_append,
      List.append_assoc, List.append_assoc, List.singleton_append, lines_append_newLine hline, hrows hentry.rows,
      ih hentries]
    rfl

end Entry

end ScopeScanner.Snapshot
