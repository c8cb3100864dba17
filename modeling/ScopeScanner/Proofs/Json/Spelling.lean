import ScopeScanner.Json.Printer
import ScopeScanner.Json.Reader

/-!
# What is written as JSON is read back

The two layouts differ in the blanks they put between tokens only (`Layout`), and the reader drops
blanks. So one argument is enough for both of them:

* **`Layout.readValue_text`**: the text of a document is read as the document, whatever follows it.
* **`readTree_print`**, **`readTree_printIndented`**: a text that was written is read as the document
  that it was written from, and nothing is left of it.

Documents with numbers are left out (`Document.numberless`): a number is kept as it was written, and
not every text that stands for one in a document would be read as a number.
-/

namespace ScopeScanner

mutual

/-- Whether there is no number in a document. -/
def Document.numberless : Document → Bool
  | .number _ => false
  | .array items => numberlessItems items
  | .object entries => numberlessEntries entries
  | _ => true

/-- Whether there is no number in a list of documents. -/
def numberlessItems : List Document → Bool
  | [] => true
  | item :: rest => item.numberless && numberlessItems rest

/-- Whether there is no number in the values of an object. -/
def numberlessEntries : List (String × Document) → Bool
  | [] => true
  | (_, value) :: rest => value.numberless && numberlessEntries rest

end

namespace Json

/-! ## Layouts -/

/-- The blanks that a text has between its tokens. -/
structure Layout where
  /-- In front of an item, a key or a closing bracket at a level. -/
  gap : Nat → List Char
  /-- Between a colon and a value. -/
  afterColon : List Char
  gap_blank : ∀ level rest, skipBlanks (gap level ++ rest) = skipBlanks rest
  afterColon_blank : ∀ rest, skipBlanks (afterColon ++ rest) = skipBlanks rest

namespace Layout

mutual

/-- A document inside a line at the given level. -/
def text (layout : Layout) (level : Nat) : Document → List Char
  | .null => ['n', 'u', 'l', 'l']
  | .bool true => ['t', 'r', 'u', 'e']
  | .bool false => ['f', 'a', 'l', 's', 'e']
  | .number literal => literal.toList
  | .string value => quoteText value
  | .array [] => ['[', ']']
  | .array (item :: rest) =>
    '[' :: (layout.items (level + 1) (item :: rest) ++ (layout.gap level ++ [']']))
  | .object [] => ['\x7b', '\x7d']
  | .object (entry :: rest) =>
    '\x7b' :: (layout.entries (level + 1) (entry :: rest) ++ (layout.gap level ++ ['\x7d']))

/-- Items separated by commas. -/
def items (layout : Layout) (level : Nat) : List Document → List Char
  | [] => []
  | [item] => layout.gap level ++ layout.text level item
  | item :: rest => layout.gap level ++ (layout.text level item ++ ',' :: layout.items level rest)

/-- Entries separated by commas. -/
def entries (layout : Layout) (level : Nat) : List (String × Document) → List Char
  | [] => []
  | [(key, value)] =>
    layout.gap level ++ (quoteText key ++ ':' :: (layout.afterColon ++ layout.text level value))
  | (key, value) :: rest =>
    layout.gap level ++ (quoteText key ++
      ':' :: (layout.afterColon ++ (layout.text level value ++ ',' :: layout.entries level rest)))

end

/-- No blanks at all. -/
def compact : Layout where
  gap _ := []
  afterColon := []
  gap_blank _ _ := rfl
  afterColon_blank _ := rfl

theorem skipBlanks_newLine (level : Nat) (rest : List Char) :
    skipBlanks (newLine level ++ rest) = skipBlanks rest := by
  rw [newLine, List.cons_append, skipBlanks]
  induction 2 * level with
  | zero => rfl
  | succ count ih => rwa [List.replicate_succ, List.cons_append, skipBlanks]

/-- Each item and each entry on a line of its own. -/
def indented : Layout where
  gap := newLine
  afterColon := [' ']
  gap_blank := skipBlanks_newLine
  afterColon_blank _ := rfl

mutual

theorem text_compact : ∀ (document : Document) (level : Nat),
    compact.text level document = Json.compact document
  | .null, _ | .bool true, _ | .bool false, _ | .number _, _ | .string _, _ | .array [], _
  | .object [], _ => rfl
  | .array (item :: rest), level => by
    rw [text, Json.compact, items_compact (item :: rest)]
    rfl
  | .object (entry :: rest), level => by
    rw [text, Json.compact, entries_compact (entry :: rest)]
    rfl

theorem items_compact : ∀ (documents : List Document) (level : Nat),
    compact.items level documents = compactItems documents
  | [], _ => rfl
  | [item], level => by
    rw [items, compactItems, text_compact item]
    rfl
  | item :: next :: rest, level => by
    rw [items, compactItems, text_compact item, items_compact (next :: rest)]
    · rfl
    all_goals simp

theorem entries_compact : ∀ (documents : List (String × Document)) (level : Nat),
    compact.entries level documents = compactEntries documents
  | [], _ => rfl
  | [(key, value)], level => by
    rw [entries, compactEntries, text_compact value]
    rfl
  | (key, value) :: next :: rest, level => by
    rw [entries, compactEntries, text_compact value, entries_compact (next :: rest)]
    · rfl
    all_goals simp

end

mutual

theorem text_indented : ∀ (document : Document) (level : Nat),
    indented.text level document = Json.indented level document
  | .null, _ | .bool true, _ | .bool false, _ | .number _, _ | .string _, _ | .array [], _
  | .object [], _ => rfl
  | .array (item :: rest), level => by
    rw [text, Json.indented, items_indented (item :: rest), List.append_assoc]
    rfl
  | .object (entry :: rest), level => by
    rw [text, Json.indented, entries_indented (entry :: rest), List.append_assoc]
    rfl

theorem items_indented : ∀ (documents : List Document) (level : Nat),
    indented.items level documents = indentedItems level documents
  | [], _ => rfl
  | [item], level => by
    rw [items, indentedItems, text_indented item]
    rfl
  | item :: next :: rest, level => by
    rw [items, indentedItems, text_indented item, items_indented (next :: rest), List.append_assoc]
    · rfl
    all_goals simp

theorem entries_indented : ∀ (documents : List (String × Document)) (level : Nat),
    indented.entries level documents = indentedEntries level documents
  | [], _ => rfl
  | [(key, value)], level => by
    rw [entries, indentedEntries, text_indented value, List.append_assoc]
    rfl
  | (key, value) :: next :: rest, level => by
    rw [entries, indentedEntries, text_indented value, entries_indented (next :: rest),
      List.append_assoc]
    · rfl
    all_goals simp

end

end Layout

/-! ## Strings -/

/-- What a control character is written as is read as its number. -/
theorem fourHexDigits_hexChar : ∀ code < 32,
    fourHexDigits? '0' '0' (hexChar (code / 16)) (hexChar (code % 16)) = some code ∧
      (hexChar (code / 16)).utf8Size = 1 ∧ (hexChar (code % 16)).utf8Size = 1 := by
  decide

theorem readPieces_escapeChar (fuel : Nat) (c : Char) (rest : List Char) (pieces : List Piece) :
    readPieces (fuel + 1) (escapeChar c ++ rest) pieces =
      readPieces fuel rest (.char c :: pieces) := by
  rw [escapeChar.eq_def]
  split
  · rfl
  · rfl
  · rfl
  · rfl
  · rfl
  · rfl
  · rfl
  · next hquote hbackslash _ _ _ _ _ =>
    split
    · next hcontrol =>
      obtain ⟨hdigits, hfirst, hsecond⟩ := fourHexDigits_hexChar c.toNat hcontrol
      have hunit : readCodeUnit
          ('0' :: '0' :: hexChar (c.toNat / 16) :: hexChar (c.toNat % 16) :: rest) =
            .ok (c.toNat, rest) := by
        simp only [readCodeUnit, List.take_succ_cons, List.take_zero, List.foldl_cons,
          List.foldl_nil, hfirst, hsecond, hdigits]
        rfl
      have hchar : Piece.ofUnit c.toNat = .char c := by
        rw [Piece.ofUnit, if_neg (by simp; omega), Char.ofNat_toNat]
      simp only [List.cons_append, List.nil_append, readPieces, hunit, hchar]
    · next hplain =>
      -- The reader comes to its last case when the character is neither a quote nor a backslash.
      rw [List.singleton_append, readPieces, if_neg hplain]
      · exact hquote
      · exact fun _ h => (hbackslash h).elim
      · exact fun _ _ h => (hbackslash h).elim
      · exact fun h => (hbackslash h).elim

theorem escapeChar_ne_nil (c : Char) : escapeChar c ≠ [] := by
  rw [escapeChar.eq_def]
  split
  all_goals try simp
  split
  all_goals simp

/-- A string is read as it was written, up to its closing quote. -/
theorem readPieces_escaped (value : List Char) {fuel : Nat} (rest : List Char)
    (pieces : List Piece) (h : (value.flatMap escapeChar).length < fuel) :
    readPieces fuel (value.flatMap escapeChar ++ '"' :: rest) pieces =
      .ok ((value.map Piece.char).reverse ++ pieces, rest) := by
  induction value generalizing fuel pieces with
  | nil =>
    obtain ⟨fuel, rfl⟩ := Nat.exists_eq_add_one_of_ne_zero (Nat.ne_zero_of_lt h)
    rfl
  | cons c value ih =>
    obtain ⟨fuel, rfl⟩ := Nat.exists_eq_add_one_of_ne_zero (Nat.ne_zero_of_lt h)
    rw [List.flatMap_cons, List.length_append] at h
    have hc := List.length_pos_iff.mpr (escapeChar_ne_nil c)
    rw [List.flatMap_cons, List.append_assoc, readPieces_escapeChar, ih _ (by omega)]
    simp

theorem assemble_chars (value : List Char) : assemble (value.map Piece.char) = some value := by
  induction value with
  | nil => rfl
  | cons c value ih =>
    rw [List.map_cons, assemble, ih]
    rfl

/-- **A string is read as it was written.** -/
theorem readString_quoteText (value : String) (rest : List Char) :
    readString (value.toList.flatMap escapeChar ++ '"' :: rest) = .whole (some value) rest := by
  have hlength : (value.toList.flatMap escapeChar).length <
      (value.toList.flatMap escapeChar ++ '"' :: rest).length + 1 := by
    rw [List.length_append]
    omega
  rw [readString, readPieces_escaped _ _ _ hlength, List.append_nil]
  dsimp only
  rw [List.reverse_reverse, assemble_chars, Option.map_some, String.ofList_toList]

/-! ## Values -/

/-- The characters that a value without numbers may start with. -/
def valueStarts : List Char := ['n', 't', 'f', '"', '[', '\x7b']

/-- The start of a value is no blank, and closes nothing. -/
theorem skipBlanks_start {c : Char} (hc : c ∈ valueStarts) (rest : List Char) :
    skipBlanks (c :: rest) = c :: rest := by
  simp only [valueStarts, List.mem_cons, List.not_mem_nil, or_false] at hc
  rcases hc with rfl | rfl | rfl | rfl | rfl | rfl
  all_goals rfl

theorem skipBlanks_idem (text : List Char) : skipBlanks (skipBlanks text) = skipBlanks text := by
  induction text using skipBlanks.induct with
  | case1 rest ih | case2 rest ih | case3 rest ih | case4 rest ih => rwa [skipBlanks]
  | case5 text hspace htab hfeed hreturn =>
    have hsame : skipBlanks text = text := by rw [skipBlanks] <;> assumption
    rw [hsame, hsame]

/-- Blanks in front of a value make no difference. -/
theorem readValue_congr {text other : List Char} (h : skipBlanks text = skipBlanks other)
    (fuel : Nat) : readValue fuel text = readValue fuel other := by
  cases fuel with
  | zero => rfl
  | succ fuel => rw [readValue, readValue, h]

theorem readItems_congr {text other : List Char} (h : skipBlanks text = skipBlanks other)
    (fuel : Nat) (done : List Tree) : readItems fuel text done = readItems fuel other done := by
  cases fuel with
  | zero => rfl
  | succ fuel => rw [readItems, readItems, h]

theorem readEntries_congr {text other : List Char} (h : skipBlanks text = skipBlanks other)
    (fuel : Nat) (done : List (String × Tree)) :
    readEntries fuel text done = readEntries fuel other done := by
  cases fuel with
  | zero => rfl
  | succ fuel => rw [readEntries, readEntries, h]

/-! ### One step -/

section Steps

variable {fuel : Nat} {c : Char} {text more rest after : List Char} {tree : Tree} {key : String}

theorem readValue_array (hc : c ∈ valueStarts) (hstart : skipBlanks text = c :: more) :
    readValue (fuel + 1) ('[' :: text) =
      (.array (readItems fuel text []).1 (readItems fuel text []).2.1,
        (readItems fuel text []).2.2) := by
  have hsame := readItems_congr (skipBlanks_idem text) fuel []
  rw [hstart] at hsame
  have hbracket : skipBlanks ('[' :: text) = '[' :: text := rfl
  simp only [readValue, hbracket, hstart]
  split
  · next hclosing =>
    obtain ⟨rfl, _⟩ := List.cons.inj hclosing
    simp [valueStarts] at hc
  · rw [hsame]

theorem readValue_object (hstart : skipBlanks text = '"' :: more) :
    readValue (fuel + 1) ('\x7b' :: text) =
      (.object (readEntries fuel text []).1 (readEntries fuel text []).2.1,
        (readEntries fuel text []).2.2) := by
  have hsame := readEntries_congr (skipBlanks_idem text) fuel []
  rw [hstart] at hsame
  have hbrace : skipBlanks ('\x7b' :: text) = '\x7b' :: text := rfl
  simp only [readValue, hbrace, hstart]
  split
  · next hclosing => simp at hclosing
  · rw [hsame]

section Items

variable {done : List Tree}

theorem readItems_last (hstart : skipBlanks text = c :: more)
    (hvalue : readValue fuel (c :: more) = (tree, some rest))
    (hrest : skipBlanks rest = ']' :: after) :
    readItems (fuel + 1) text done = (done.reverse ++ [tree], none, some after) := by
  simp only [readItems, hstart, hvalue, hrest, List.reverse_cons]

theorem readItems_next (hstart : skipBlanks text = c :: more)
    (hvalue : readValue fuel (c :: more) = (tree, some (',' :: rest)))
    {first : Char} {others : List Char} (hfirst : first ∈ valueStarts)
    (hrest : skipBlanks rest = first :: others) :
    readItems (fuel + 1) text done = readItems fuel rest (tree :: done) := by
  have hsame := readItems_congr (skipBlanks_idem rest) fuel (tree :: done)
  rw [hrest] at hsame
  have hcomma : skipBlanks (',' :: rest) = ',' :: rest := rfl
  simp only [readItems, hstart, hvalue, hcomma, hrest]
  split
  · next hclosing =>
    obtain ⟨rfl, _⟩ := List.cons.inj hclosing
    simp [valueStarts] at hfirst
  · exact hsame

end Items

section Entries

variable {done : List (String × Tree)}

theorem quoteText_append (value : String) (rest : List Char) :
    quoteText value ++ rest = '"' :: (value.toList.flatMap escapeChar ++ '"' :: rest) := by
  rw [quoteText, List.cons_append, List.append_assoc, List.singleton_append]

theorem skipBlanks_quoteText (value : String) (rest : List Char) :
    skipBlanks (quoteText value ++ rest) = quoteText value ++ rest := by
  rw [quoteText_append]
  rfl

theorem readEntries_last (hstart : skipBlanks text = quoteText key ++ ':' :: more)
    (hvalue : readValue fuel more = (tree, some rest))
    (hrest : skipBlanks rest = '\x7d' :: after) :
    readEntries (fuel + 1) text done = (done.reverse ++ [(key, tree)], none, some after) := by
  rw [quoteText_append] at hstart
  have hcolon : skipBlanks (':' :: more) = ':' :: more := rfl
  simp only [readEntries, hstart, readString_quoteText, hcolon, hvalue, hrest, List.reverse_cons]

theorem readEntries_next (hstart : skipBlanks text = quoteText key ++ ':' :: more)
    (hvalue : readValue fuel more = (tree, some (',' :: rest)))
    {others : List Char} (hrest : skipBlanks rest = '"' :: others) :
    readEntries (fuel + 1) text done = readEntries fuel rest ((key, tree) :: done) := by
  have hsame := readEntries_congr (skipBlanks_idem rest) fuel ((key, tree) :: done)
  rw [hrest] at hsame
  rw [quoteText_append] at hstart
  have hcolon : skipBlanks (':' :: more) = ':' :: more := rfl
  have hcomma : skipBlanks (',' :: rest) = ',' :: rest := rfl
  simp only [readEntries, hstart, readString_quoteText, hcolon, hvalue, hcomma, hrest]
  split
  · next hclosing => simp at hclosing
  · exact hsame

end Entries

end Steps

namespace Layout

variable (layout : Layout)

theorem text_start (level : Nat) {document : Document} (h : document.numberless = true) :
    ∃ c ∈ valueStarts, ∃ rest, layout.text level document = c :: rest := by
  match document with
  | .null => exact ⟨'n', by decide, _, rfl⟩
  | .bool true => exact ⟨'t', by decide, _, rfl⟩
  | .bool false => exact ⟨'f', by decide, _, rfl⟩
  | .string value => exact ⟨'"', by decide, _, rfl⟩
  | .array [] | .array (_ :: _) => exact ⟨'[', by decide, _, rfl⟩
  | .object [] | .object (_ :: _) => exact ⟨'\x7b', by decide, _, rfl⟩

theorem items_start (level : Nat) {item : Document} (more : List Document)
    (h : item.numberless = true) (tail : List Char) : ∃ c ∈ valueStarts, ∃ rest,
      skipBlanks (layout.items level (item :: more) ++ tail) = c :: rest := by
  obtain ⟨c, hc, rest, hrest⟩ := layout.text_start level h
  cases more with
  | nil =>
    refine ⟨c, hc, rest ++ tail, ?_⟩
    rw [items, hrest, List.append_assoc, gap_blank, List.cons_append, skipBlanks_start hc]
  | cons next more =>
    refine ⟨c, hc, rest ++ ',' :: layout.items level (next :: more) ++ tail, ?_⟩
    rw [items, hrest, List.append_assoc, gap_blank, List.cons_append, List.cons_append,
      skipBlanks_start hc]
    simp

theorem entries_start (level : Nat) (entry : String × Document)
    (more : List (String × Document)) (tail : List Char) : ∃ rest,
      skipBlanks (layout.entries level (entry :: more) ++ tail) = '"' :: rest := by
  obtain ⟨key, value⟩ := entry
  cases more with
  | nil =>
    rw [entries, List.append_assoc, gap_blank, List.append_assoc, quoteText_append]
    exact ⟨_, rfl⟩
  | cons next more =>
    rw [entries, List.append_assoc, gap_blank, List.append_assoc, quoteText_append]
    · exact ⟨_, rfl⟩
    · simp

/-! ### Whole values -/

mutual

/-- **The text of a document is read as the document, whatever follows it.** -/
theorem readValue_text : ∀ (document : Document) (level fuel : Nat) (rest : List Char),
    document.numberless = true → (layout.text level document).length ≤ fuel →
      readValue fuel (layout.text level document ++ rest) = (.ofDocument document, some rest)
  | .null => by
    intro level fuel rest _ hfuel
    obtain ⟨fuel, rfl⟩ := Nat.exists_eq_add_one_of_ne_zero (Nat.ne_zero_of_lt hfuel)
    rfl
  | .bool true => by
    intro level fuel rest _ hfuel
    obtain ⟨fuel, rfl⟩ := Nat.exists_eq_add_one_of_ne_zero (Nat.ne_zero_of_lt hfuel)
    rfl
  | .bool false => by
    intro level fuel rest _ hfuel
    obtain ⟨fuel, rfl⟩ := Nat.exists_eq_add_one_of_ne_zero (Nat.ne_zero_of_lt hfuel)
    rfl
  | .number _ => by
    rintro level fuel rest ⟨⟩
  | .string value => by
    intro level fuel rest _ hfuel
    obtain ⟨fuel, rfl⟩ := Nat.exists_eq_add_one_of_ne_zero (Nat.ne_zero_of_lt hfuel)
    have hquote (more : List Char) : skipBlanks ('"' :: more) = '"' :: more := rfl
    rw [text, quoteText_append]
    simp only [readValue, hquote, readString_quoteText]
    rfl
  | .array [] => by
    intro level fuel rest _ hfuel
    obtain ⟨fuel, rfl⟩ := Nat.exists_eq_add_one_of_ne_zero (Nat.ne_zero_of_lt hfuel)
    rfl
  | .array (item :: more) => by
    intro level fuel rest hnumbers hfuel
    obtain ⟨fuel, rfl⟩ := Nat.exists_eq_add_one_of_ne_zero (Nat.ne_zero_of_lt hfuel)
    simp only [text, List.length_cons, List.length_append, List.length_nil] at hfuel
    have htail : skipBlanks (layout.gap level ++ ']' :: rest) = ']' :: rest :=
      layout.gap_blank level _
    have hitems := readItems_items (item :: more) (level + 1) fuel _ rest [] (by simp) hnumbers
      (by omega) htail
    rw [Document.numberless, numberlessItems, Bool.and_eq_true] at hnumbers
    obtain ⟨c, hc, _, hstart⟩ :=
      layout.items_start (level + 1) more hnumbers.1 (layout.gap level ++ ']' :: rest)
    rw [text, List.cons_append, List.append_assoc, List.append_assoc, List.singleton_append,
      readValue_array hc hstart, hitems]
    rfl
  | .object [] => by
    intro level fuel rest _ hfuel
    obtain ⟨fuel, rfl⟩ := Nat.exists_eq_add_one_of_ne_zero (Nat.ne_zero_of_lt hfuel)
    rfl
  | .object (entry :: more) => by
    intro level fuel rest hnumbers hfuel
    obtain ⟨fuel, rfl⟩ := Nat.exists_eq_add_one_of_ne_zero (Nat.ne_zero_of_lt hfuel)
    simp only [text, List.length_cons, List.length_append, List.length_nil] at hfuel
    have htail : skipBlanks (layout.gap level ++ '\x7d' :: rest) = '\x7d' :: rest :=
      layout.gap_blank level _
    have hentries := readEntries_entries (entry :: more) (level + 1) fuel _ rest [] (by simp)
      hnumbers (by omega) htail
    obtain ⟨_, hstart⟩ :=
      layout.entries_start (level + 1) entry more (layout.gap level ++ '\x7d' :: rest)
    rw [text, List.cons_append, List.append_assoc, List.append_assoc, List.singleton_append,
      readValue_object hstart, hentries]
    rfl

/-- Items are read up to the bracket behind them. -/
theorem readItems_items : ∀ (documents : List Document) (level fuel : Nat)
    (tail rest : List Char) (done : List Tree), documents ≠ [] →
      numberlessItems documents = true → (layout.items level documents).length < fuel →
      skipBlanks tail = ']' :: rest →
        readItems fuel (layout.items level documents ++ tail) done =
          (done.reverse ++ treesOfDocuments documents, none, some rest)
  | [] => by
    intro level fuel tail rest done hne
    exact absurd rfl hne
  | [item] => by
    intro level fuel tail rest done _ hnumbers hfuel htail
    obtain ⟨fuel, rfl⟩ := Nat.exists_eq_add_one_of_ne_zero (Nat.ne_zero_of_lt hfuel)
    rw [numberlessItems, Bool.and_eq_true] at hnumbers
    rw [items, List.length_append] at hfuel
    have hvalue := readValue_text item level fuel tail hnumbers.1 (by omega)
    obtain ⟨c, hc, more, hmore⟩ := layout.text_start level hnumbers.1
    rw [hmore, List.cons_append] at hvalue
    have hstart : skipBlanks (layout.items level [item] ++ tail) = c :: (more ++ tail) := by
      rw [items, hmore, List.append_assoc, gap_blank, List.cons_append, skipBlanks_start hc]
    exact readItems_last hstart hvalue htail
  | item :: next :: others => by
    intro level fuel tail rest done _ hnumbers hfuel htail
    obtain ⟨fuel, rfl⟩ := Nat.exists_eq_add_one_of_ne_zero (Nat.ne_zero_of_lt hfuel)
    rw [numberlessItems, Bool.and_eq_true] at hnumbers
    have hitems : layout.items level (item :: next :: others) =
        layout.gap level ++ (layout.text level item ++ ',' :: layout.items level (next :: others)) := by
      rw [items]
      simp
    rw [hitems, List.length_append, List.length_append, List.length_cons] at hfuel
    have hvalue := readValue_text item level fuel
      (',' :: (layout.items level (next :: others) ++ tail)) hnumbers.1 (by omega)
    obtain ⟨c, hc, more, hmore⟩ := layout.text_start level hnumbers.1
    rw [hmore, List.cons_append] at hvalue
    rw [hmore, List.length_cons] at hfuel
    have hstart : skipBlanks (layout.items level (item :: next :: others) ++ tail) =
        c :: (more ++ ',' :: (layout.items level (next :: others) ++ tail)) := by
      rw [hitems, hmore, List.append_assoc, gap_blank, List.cons_append, List.cons_append,
        skipBlanks_start hc, List.append_assoc, List.cons_append]
    have hnext := hnumbers.2
    rw [numberlessItems, Bool.and_eq_true] at hnext
    obtain ⟨first, hfirst, _, hothers⟩ := layout.items_start level others hnext.1 tail
    rw [readItems_next hstart hvalue hfirst hothers,
      readItems_items (next :: others) level fuel tail rest _ (by simp) hnumbers.2 (by omega) htail,
      List.reverse_cons, List.append_assoc]
    rfl

/-- Entries are read up to the brace behind them. -/
theorem readEntries_entries : ∀ (documents : List (String × Document)) (level fuel : Nat)
    (tail rest : List Char) (done : List (String × Tree)), documents ≠ [] →
      numberlessEntries documents = true → (layout.entries level documents).length < fuel →
      skipBlanks tail = '\x7d' :: rest →
        readEntries fuel (layout.entries level documents ++ tail) done =
          (done.reverse ++ treesOfEntries documents, none, some rest)
  | [] => by
    intro level fuel tail rest done hne
    exact absurd rfl hne
  | [(key, value)] => by
    intro level fuel tail rest done _ hnumbers hfuel htail
    obtain ⟨fuel, rfl⟩ := Nat.exists_eq_add_one_of_ne_zero (Nat.ne_zero_of_lt hfuel)
    rw [numberlessEntries, Bool.and_eq_true] at hnumbers
    simp only [entries, List.length_append, List.length_cons] at hfuel
    have hvalue := readValue_text value level fuel tail hnumbers.1 (by omega)
    rw [← readValue_congr (layout.afterColon_blank (layout.text level value ++ tail))] at hvalue
    have hstart : skipBlanks (layout.entries level [(key, value)] ++ tail) =
        quoteText key ++ ':' :: (layout.afterColon ++ (layout.text level value ++ tail)) := by
      rw [entries, List.append_assoc, gap_blank, List.append_assoc, skipBlanks_quoteText,
        List.cons_append, List.append_assoc]
    exact readEntries_last hstart hvalue htail
  | (key, value) :: next :: others => by
    intro level fuel tail rest done _ hnumbers hfuel htail
    obtain ⟨fuel, rfl⟩ := Nat.exists_eq_add_one_of_ne_zero (Nat.ne_zero_of_lt hfuel)
    rw [numberlessEntries, Bool.and_eq_true] at hnumbers
    have hentries : layout.entries level ((key, value) :: next :: others) =
        layout.gap level ++ (quoteText key ++ ':' :: (layout.afterColon ++
          (layout.text level value ++ ',' :: layout.entries level (next :: others)))) := by
      rw [entries]
      simp
    simp only [hentries, List.length_append, List.length_cons] at hfuel
    have hvalue := readValue_text value level fuel
      (',' :: (layout.entries level (next :: others) ++ tail)) hnumbers.1 (by omega)
    rw [← readValue_congr (layout.afterColon_blank (layout.text level value ++ _))] at hvalue
    have hstart : skipBlanks (layout.entries level ((key, value) :: next :: others) ++ tail) =
        quoteText key ++ ':' :: (layout.afterColon ++ (layout.text level value ++
          ',' :: (layout.entries level (next :: others) ++ tail))) := by
      rw [hentries, List.append_assoc, gap_blank, List.append_assoc, skipBlanks_quoteText,
        List.cons_append, List.append_assoc, List.append_assoc, List.cons_append]
    obtain ⟨_, hothers⟩ := layout.entries_start level next others tail
    rw [readEntries_next hstart hvalue hothers,
      readEntries_entries (next :: others) level fuel tail rest _ (by simp) hnumbers.2 (by omega)
        htail, List.reverse_cons, List.append_assoc]
    rfl

end

/-- A whole text, with nothing but blanks behind it. -/
theorem readTree_text {document : Document} (h : document.numberless = true) {blanks : List Char}
    (hblanks : skipBlanks blanks = []) :
    readTree (String.ofList (layout.text 0 document ++ blanks)) =
      { tree := .ofDocument document, trailing := false } := by
  have hvalue := layout.readValue_text document 0
    (2 * (layout.text 0 document ++ blanks).length + 2) blanks h (by rw [List.length_append]; omega)
  rw [readTree, String.toList_ofList, hvalue]
  dsimp only
  rw [hblanks]
  rfl

end Layout

variable {document : Document} {blanks : String}

/-- **A document is read back from its compact text.** -/
theorem readTree_print (h : document.numberless = true) (hblanks : skipBlanks blanks.toList = []) :
    readTree (print document ++ blanks) = { tree := .ofDocument document, trailing := false } := by
  have hprint : print document ++ blanks =
      String.ofList (Layout.compact.text 0 document ++ blanks.toList) := by
    rw [print, Layout.text_compact, String.ofList_append, String.ofList_toList]
  rw [hprint]
  exact Layout.compact.readTree_text h hblanks

/-- **A document is read back from its indented text.** -/
theorem readTree_printIndented (h : document.numberless = true)
    (hblanks : skipBlanks blanks.toList = []) :
    readTree (printIndented document ++ blanks) =
      { tree := .ofDocument document, trailing := false } := by
  have hprint : printIndented document ++ blanks =
      String.ofList (Layout.indented.text 0 document ++ blanks.toList) := by
    rw [printIndented, Layout.text_indented, String.ofList_append, String.ofList_toList]
  rw [hprint]
  exact Layout.indented.readTree_text h hblanks

end Json

end ScopeScanner
