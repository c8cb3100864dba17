import ScopeScanner.Pattern.EndTemplate
import ScopeScanner.Proofs.Regex.Literal

/-!
# Ends that echo their begins

An end that quotes two texts around a reference to a group of the begin is a template. Once the
text of the group is known, it is a pattern that looks for the three texts in a row, taken literally:

* **`EndTemplate.instantiate_quoted`**: the source that the template is turned into is the quoted
  row. Backslashes come in pairs in a quoted text, so the reference is met as such whatever the
  first text ends in, and what comes after its digit belongs to the second text.
* **`Pattern.findAt_quoted`**: a pattern with a quoted source finds the first place of the text.
* **`EndTemplate.echo`**: both together.
-/

namespace ScopeScanner

open Escaping (quote isSpecial)

/-! ## Escapes of quoted texts -/

namespace Escaping

/-- All characters that are escaped in a text are of some kind, and no backslash is left at its end. -/
inductive Escapes (Kind : Char → Prop) : List Char → Prop where
  | nil : Escapes Kind []
  | char {c : Char} {rest : List Char} (hc : c ≠ '\\') (hrest : Escapes Kind rest) :
      Escapes Kind (c :: rest)
  | escape {c : Char} {rest : List Char} (hkind : Kind c) (hrest : Escapes Kind rest) :
      Escapes Kind ('\\' :: c :: rest)

namespace Escapes

variable {Kind : Char → Prop} {text : List Char}

/-- Only special characters are escaped in a quoted text. -/
theorem quote (chars : List Char) : Escapes (isSpecial · = true) (quote chars) := by
  induction chars with
  | nil => exact .nil
  | cons c chars ih =>
    cases hc : isSpecial c with
    | true =>
      rw [quote_cons_of_special hc]
      exact .escape hc ih
    | false =>
      rw [quote_cons_of_plain hc]
      refine .char ?_ ih
      rintro rfl
      exact absurd hc (by decide)

theorem append (h : Escapes Kind text) {rest : List Char} (hrest : Escapes Kind rest) :
    Escapes Kind (text ++ rest) := by
  induction h with
  | nil => exact hrest
  | char hc _ ih => exact .char hc ih
  | escape hkind _ ih => exact .escape hkind ih

theorem mono (h : Escapes Kind text) {Kind' : Char → Prop} (himp : ∀ c, Kind c → Kind' c) :
    Escapes Kind' text := by
  induction h with
  | nil => exact .nil
  | char hc _ ih => exact .char hc ih
  | escape hkind _ ih => exact .escape (himp _ hkind) ih

/-- A text is kept by a replacement that leaves its escapes alone, whatever follows. -/
theorem substitute_append (h : Escapes Kind text) {replace : Char → Option (List Char)}
    (hkept : ∀ c, Kind c → replace c = none) (rest : List Char) :
    substitute replace (text ++ rest) = text ++ substitute replace rest := by
  induction h with
  | nil => rfl
  | char hc _ ih =>
    rw [List.cons_append, substitute, ih]
    · rfl
    · rintro d after rfl
      exact absurd rfl hc
  | escape hkind _ ih =>
    -- the backslash and the character behind it are a unit that is kept
    rw [List.cons_append, List.cons_append, substitute, hkept _ hkind, ih]
    rfl

theorem any_append (h : Escapes Kind text) {condition : Char → Bool}
    (hother : ∀ c, Kind c → condition c = false) (rest : List Char) :
    any condition (text ++ rest) = any condition rest := by
  induction h with
  | nil => rfl
  | char hc _ ih =>
    rw [List.cons_append, any, ih]
    rintro d after rfl
    exact absurd rfl hc
  | escape hkind _ ih => rw [List.cons_append, List.cons_append, any, hother _ hkind, Bool.false_or, ih]

end Escapes

theorem substitute_quote_append {replace : Char → Option (List Char)}
    (h : ∀ c, isSpecial c = true → replace c = none) (chars rest : List Char) :
    substitute replace (quote chars ++ rest) = quote chars ++ substitute replace rest :=
  (Escapes.quote chars).substitute_append h rest

theorem any_quote_append {condition : Char → Bool}
    (h : ∀ c, isSpecial c = true → condition c = false) (chars rest : List Char) :
    any condition (quote chars ++ rest) = any condition rest :=
  (Escapes.quote chars).any_append h rest

end Escaping

namespace EndTemplate

/-- The source of an end: two texts taken literally, with a reference to a group between them. -/
def quoted (before : List Char) (group : Nat) (after : List Char) : String :=
  String.ofList (quote before ++ '\\' :: Nat.digitChar group :: quote after)

theorem isReference_digitChar {group : Nat} (hfirst : 1 ≤ group) (hlast : group ≤ 9) :
    isReference (Nat.digitChar group) = true ∧
      (Nat.digitChar group).toNat - '0'.toNat = group := by
  have hdigit : (Nat.digitChar group).toNat = 48 + group :=
    Nat.toNat_digitChar_of_lt_ten (Nat.lt_succ_of_le hlast)
  have hlow : '1' ≤ Nat.digitChar group := by
    rw [Char.le_def, UInt32.le_iff_toNat_le]
    exact Nat.le_trans (Nat.add_le_add_left hfirst 48) (Nat.le_of_eq hdigit.symm)
  have hhigh : Nat.digitChar group ≤ '9' := by
    rw [Char.le_def, UInt32.le_iff_toNat_le]
    exact Nat.le_trans (Nat.le_of_eq hdigit) (Nat.add_le_add_left hlast 48)
  constructor
  · rw [isReference, decide_eq_true hlow, decide_eq_true hhigh]
    rfl
  · rw [hdigit]
    exact Nat.add_sub_cancel_left 48 group

theorem isReference_special {c : Char} (h : isSpecial c = true) : isReference c = false := by
  have hother := @Escaping.of_isSpecial (fun c => (!isReference c) = true)
    (List.all_eq_true.mp (by decide)) c h
  rwa [Bool.not_eq_true'] at hother

/-- An end that refers to a group is a template. -/
theorem ofSource?_quoted (before after : List Char) {group : Nat} (hfirst : 1 ≤ group)
    (hlast : group ≤ 9) :
    ofSource? (quoted before group after) = some ⟨quoted before group after⟩ := by
  have hany : Escaping.any isReference (quoted before group after).toList = true := by
    rw [quoted, String.toList_ofList, Escaping.any_quote_append fun c => isReference_special,
      Escaping.any, (isReference_digitChar hfirst hlast).1, Bool.true_or]
  rw [ofSource?, if_pos hany]

/-- **What a template is turned into**: the three texts in a row, taken literally. -/
theorem instantiate_quoted (before after : List Char) {group : Nat} (hfirst : 1 ≤ group)
    (hlast : group ≤ 9) (texts : List (Option (List Char))) :
    instantiate ⟨quoted before group after⟩ texts =
      String.ofList (quote (before ++ texts[group]?.join.getD [] ++ after)) := by
  obtain ⟨hreference, hgroup⟩ := isReference_digitChar hfirst hlast
  rw [instantiate]
  dsimp only
  rw [quoted, String.toList_ofList]
  have hkept (c : Char) (h : isSpecial c = true) : (if isReference c then
      some (quote (texts[c.toNat - '0'.toNat]?.join.getD [])) else none) = none := by
    rw [isReference_special h, if_neg Bool.false_ne_true]
  have hafter := Escaping.substitute_quote_append hkept after []
  rw [Escaping.substitute_quote_append hkept, Escaping.substitute, hreference, if_pos rfl, hgroup,
    ← List.append_nil (quote after), hafter]
  rw [Option.getD_some, Escaping.substitute, List.append_nil, Escaping.quote_append,
    Escaping.quote_append, List.append_assoc]

end EndTemplate

/-! ## Occurrences in a line -/

namespace Line

/-- A text stands in a line at a byte position. -/
def OccursAt (line : Line) (text : List Char) (position : Nat) : Prop :=
  ∃ before after, line.chars.toList = before ++ text ++ after ∧ position = byteCount before

/-- The first place of a text in a line at or after a byte position, if there is one. -/
def FirstFrom (line : Line) (text : List Char) (start : Nat) : Option Nat → Prop
  | some position => line.OccursAt text position ∧ start ≤ position ∧
      ∀ other, line.OccursAt text other → start ≤ other → position ≤ other
  | none => ∀ other, line.OccursAt text other → other < start

/-- The first character at or after a byte position does not lie behind a later boundary. -/
theorem index_le_of_append (line : Line) {before after : List Char}
    (h : line.chars.toList = before ++ after) {start : Nat} (hstart : start ≤ byteCount before) :
    line.index start ≤ before.length := by
  have hlength : before.length < line.offsets.size := by
    have hsize : line.chars.size = before.length + after.length := by
      rw [← Array.length_toList, h, List.length_append]
    rw [line.offsets_size]
    omega
  have hget : line.offsets[before.length] = byteCount before := by
    have hsome := line.offsets_getElem? before.length (by rw [line.offsets_size] at hlength; omega)
    rw [h, List.take_left, Array.getElem?_eq_getElem hlength] at hsome
    exact Option.some.inj hsome
  have hfound : line.offsets.findIdx (fun boundary => start ≤ boundary) ≤ before.length := by
    refine Nat.le_of_not_lt fun hlt => ?_
    have hbefore := Array.not_of_lt_findIdx hlt
    rw [hget, decide_eq_true hstart] at hbefore
    exact absurd hbefore (by decide)
  exact Nat.le_trans (Nat.min_le_left _ _) hfound

/-- A text that stands at or after a byte position stands at a character where a search from there
looks for it. -/
theorem tried_of_append (line : Line) {before text after : List Char}
    (h : line.chars.toList = before ++ text ++ after) {start : Nat}
    (hfrom : start ≤ byteCount before) : line.index start ≤ before.length ∧
      before.length ≤ line.chars.size ∧ text <+: line.chars.toList.drop before.length := by
  rw [List.append_assoc] at h
  have hsize : line.chars.size = before.length + (text ++ after).length := by
    rw [← Array.length_toList, h, List.length_append]
  refine ⟨line.index_le_of_append h hfrom, by omega, ?_⟩
  rw [h, List.drop_left]
  exact List.prefix_append text after

/-- **The first place, character by character.** What the search for the characters of a text finds
is the first place of the text in bytes. -/
theorem firstFrom_find? (line : Line) (text : List Char) {start : Nat}
    (hstart : start ≤ line.size) :
    line.FirstFrom text start (((List.range' (line.index start)
      (line.chars.size + 1 - line.index start)).find? fun pos =>
        text <+: line.chars.toList.drop pos).map line.offset) := by
  cases hfind : (List.range' (line.index start) (line.chars.size + 1 - line.index start)).find?
      fun pos => text <+: line.chars.toList.drop pos with
  | none =>
    rw [List.find?_range'_eq_none] at hfind
    rintro other ⟨before, after, hline, rfl⟩
    refine Nat.lt_of_not_le fun hfrom => ?_
    obtain ⟨hle, hsize, hmet⟩ := line.tried_of_append hline hfrom
    have hmissed := hfind before.length hle (by omega)
    rw [decide_eq_true hmet] at hmissed
    exact absurd hmissed (by decide)
  | some pos =>
    rw [List.find?_range'_eq_some, List.mem_range'_1] at hfind
    obtain ⟨hmet, ⟨hfrom, _⟩, hfirst⟩ := hfind
    obtain ⟨after, hafter⟩ := of_decide_eq_true hmet
    refine ⟨⟨line.chars.toList.take pos, after, ?_, line.offset_eq pos⟩, ?_, ?_⟩
    · rw [List.append_assoc, hafter, List.take_append_drop]
    · exact Nat.le_trans (line.le_offset_index hstart) (line.offset_le hfrom)
    · rintro other ⟨before, after, hline, rfl⟩ hother
      obtain ⟨hle, _, hmet⟩ := line.tried_of_append hline hother
      have hpos : pos ≤ before.length := by
        refine Nat.le_of_not_lt fun hlt => ?_
        have hmissed := hfirst before.length hle hlt
        rw [decide_eq_true hmet] at hmissed
        exact absurd hmissed (by decide)
      have hoffset : line.offset before.length = byteCount before := by
        rw [line.offset_eq, hline, List.append_assoc, List.take_left]
      rw [← hoffset]
      exact line.offset_le hpos

/-- The characters of a text that stands at some place take up its bytes. -/
theorem offset_add_of_prefix (line : Line) {text : List Char} {pos : Nat}
    (h : text <+: line.chars.toList.drop pos) :
    line.offset (pos + text.length) = line.offset pos + byteCount text := by
  obtain ⟨after, hafter⟩ := h
  rw [line.offset_eq, line.offset_eq, List.take_add, ← hafter, List.take_left, byteCount_append]

end Line

/-! ## Searching for a quoted text -/

namespace Pattern

/-- A search for a row of characters finds its first place. -/
theorem searchAt_literals (pattern : Pattern) (text : List Char) (line : Line) {start : Nat}
    (hstart : start ≤ line.size) :
    ∃ found, line.FirstFrom text start found ∧
      pattern.searchAt (.literals text) line (line.index start) =
        .ok (found.map fun position => ⟨[some ⟨position, position + Line.byteCount text⟩]⟩) := by
  refine ⟨_, line.firstFrom_find? text hstart, ?_⟩
  rw [searchAt, Regex.search_literals]
  cases hfind : (List.range' (line.index start) (line.chars.size + 1 - line.index start)).find?
      fun pos => text <+: line.chars.toList.drop pos with
  | none => rfl
  | some pos =>
    have hhere := List.find?_some hfind
    have hmet : text <+: line.chars.toList.drop pos := of_decide_eq_true hhere
    have hstop := line.offset_add_of_prefix hmet
    simp only [Option.map_some, Except.map, Groups.ofIndices, List.map_cons, List.map_nil, hstop]

/-- **A source without anchors is compiled as it is**, and only once. -/
theorem compile_of_unanchored {source : List Char} (h : Escaping.Escapes (· ≠ 'G') source) (budget : Nat) :
    compile (String.ofList source) budget =
      match compileRegex source with
      | .error _ => .error ⟨String.ofList source⟩
      | .ok detached => .ok { source := String.ofList source, detached, attached := none, budget } := by
  have hkept : replaceAnchor neverMark source = source := by
    have hsame := h.substitute_append (fun c hc => if_neg hc : ∀ c, c ≠ 'G' →
      (if c = 'G' then some neverMark else none) = none) []
    rwa [List.append_nil, Escaping.substitute, List.append_nil] at hsame
  have hanchor : sourceHasAnchor source = false := by
    have hnone := h.any_append (fun c hc => decide_eq_false hc : ∀ c, c ≠ 'G' →
      decide (c = 'G') = false) []
    rwa [List.append_nil, Escaping.any] at hnone
  rw [compile, String.toList_ofList, hkept, hanchor]
  rfl

/-- **A quoted text is a pattern for the text**: it compiles and finds the first place of the
text. -/
theorem findAt_quoted {text : List Char} (hsize : Regex.Footprint.stateSize * Line.byteCount text +
      2 * Regex.Footprint.stateSize ≤ Regex.Footprint.limit) (budget : Nat) :
    ∃ pattern, compile (String.ofList (quote text)) budget = .ok pattern ∧
      ∀ line start atAnchor, start ≤ Line.size line → ∃ found, line.FirstFrom text start found ∧
        pattern.findAt line start atAnchor =
          .ok (found.map fun position => ⟨[some ⟨position, position + Line.byteCount text⟩]⟩) := by
  have hspecial (c : Char) (h : isSpecial c = true) : c ≠ 'G' := by
    rintro rfl
    exact absurd h (by decide)
  have hregex : compileRegex (quote text) = .ok (.literals text) := by
    rw [compileRegex, ← Regex.rowText_map_ofChar, Regex.compile_literals (Regex.rowPlain_map_ofChar text),
      Regex.takesAtMost_literals hsize, if_pos rfl]
  refine ⟨{ source := String.ofList (quote text), detached := .literals text, attached := none,
            budget }, ?_, ?_⟩
  · rw [compile_of_unanchored ((Escaping.Escapes.quote text).mono hspecial), hregex]
  · intro line start atAnchor hstart
    rw [findAt, ite_self]
    exact searchAt_literals _ text line hstart

end Pattern

/-- **The end of a region echoes the text of its begin.** An end that holds two texts taken literally
and a reference to a group between them is a template; whatever text the group has matched, be it
none, the template makes a pattern that compiles, up to the size that an automaton may have, and
finds exactly the first place where the three texts stand in a row. -/
theorem EndTemplate.echo (before after : List Char) {group : Nat} (hfirst : 1 ≤ group)
    (hlast : group ≤ 9) (texts : List (Option (List Char))) (budget : Nat) {text : List Char}
    (htext : texts[group]?.join.getD [] = text)
    (hsize : Regex.Footprint.stateSize * Line.byteCount (before ++ text ++ after) +
      2 * Regex.Footprint.stateSize ≤ Regex.Footprint.limit) :
    ∃ template pattern, ofSource? (quoted before group after) = some template ∧
      Pattern.compile (template.instantiate texts) budget = .ok pattern ∧
      ∀ line start atAnchor, start ≤ Line.size line →
        ∃ found, line.FirstFrom (before ++ text ++ after) start found ∧
          pattern.findAt line start atAnchor = .ok (found.map fun position =>
            ⟨[some ⟨position, position + Line.byteCount (before ++ text ++ after)⟩]⟩) := by
  subst htext
  obtain ⟨pattern, hcompile, hfound⟩ := Pattern.findAt_quoted hsize budget
  refine ⟨_, pattern, ofSource?_quoted before after hfirst hlast, ?_, hfound⟩
  rw [instantiate_quoted before after hfirst hlast]
  exact hcompile

/-- The first text ends in a backslash, the second one starts with a digit, and the group has
matched something with a dot. -/
theorem EndTemplate.echo_backslash_dot_digit :
    ∃ template pattern, ofSource? (quoted ['x', '\\'] 1 ['2', '*']) = some template ∧
      Pattern.compile (template.instantiate [some ['<', 'a', '.'], some ['a', '.']]) 1000 =
        .ok pattern ∧
      ∀ line start atAnchor, start ≤ Line.size line →
        ∃ found, line.FirstFrom ['x', '\\', 'a', '.', '2', '*'] start found ∧
          pattern.findAt line start atAnchor =
            .ok (found.map fun position => ⟨[some ⟨position, position + 6⟩]⟩) :=
  EndTemplate.echo ['x', '\\'] ['2', '*'] (by decide : 1 ≤ 1) (by decide : 1 ≤ 9)
    [some ['<', 'a', '.'], some ['a', '.']] 1000 rfl (by decide)

end ScopeScanner
