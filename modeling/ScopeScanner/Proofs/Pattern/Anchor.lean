import ScopeScanner.Proofs.Pattern.Echo

/-!
# Anchors between texts

An anchor is no assertion. A pattern that holds one is compiled once without it and once with a
character in its place that is supposed never to occur, and where a match starts decides which of
the two counts. What that comes to is said here for an anchor between two texts taken literally:

* **`Pattern.compile_anchored`**: the two expressions look for the two texts in a row, with nothing
  or with the character between them.
* **`Pattern.anchor_between`**: hence the anchor holds at the start of the search and nowhere else,
  except that a text in front of it is matched from there as well, and that the character may occur.
-/

namespace ScopeScanner

open Escaping (quote isSpecial)

/-- The character that stands for an anchor that does not hold. -/
def Pattern.neverChar : Char := '\uffff'

namespace Regex

/-- A digit in front of digits in braces is one of them. -/
theorem readHexUntilBrace_cons {c : Char} (hdigit : isHexDigit c = true)
    (h : c ∉ ['(', '?', '*', '+', '\x7b', '\x7d']) {most : Nat} {text digits rest : List Char}
    (hread : readHexUntilBrace false most text = .ok (digits, rest)) :
    readHexUntilBrace false (most + 1) (c :: text) = .ok (c :: digits, rest) := by
  have hsets : Sets (c :: text) := .cons (fun hmem => h (List.mem_append_left ['\x7d'] hmem)) text
  rw [readHexUntilBrace, hsets.shown]
  dsimp only [bind, Except.bind]
  split
  · next heq =>
    cases heq
    exact absurd h (by decide)
  · next heq =>
    cases heq
    rw [if_pos hdigit, hread]
    rfl
  · next heq => cases heq

/-- The code of the character, written in braces. -/
theorem readHex_never (rest : List Char) :
    readHex false 2 ('\x7b' :: 'F' :: 'F' :: 'F' :: 'F' :: '\x7d' :: rest) =
      .ok (.char Pattern.neverChar true, rest) := by
  have hclosed : readHexUntilBrace false 4 ('\x7d' :: rest) = .ok ([], rest) := by
    rw [readHexUntilBrace, (Sets.cons (by decide) rest).shown]
    rfl
  have hdigits : readHexUntilBrace false 8 ('F' :: 'F' :: 'F' :: 'F' :: '\x7d' :: rest) =
      .ok (['F', 'F', 'F', 'F'], rest) := by
    iterate 4 refine readHexUntilBrace_cons (by decide) (by decide) ?_
    exact hclosed
  rw [readHex, skipBlanks_cons (by decide)]
  simp only [bind, Except.bind, hdigits]
  rfl

theorem sets_neverMark (rest : List Char) : Sets (Pattern.neverMark ++ rest) :=
  .cons (by decide) _

/-- The mark is one more way to write a character. -/
theorem readAtom_neverMark (fuel depth : Nat) (rest : List Char) :
    readAtom (fuel + 1) depth .lines (Pattern.neverMark ++ rest) =
      .ok (.ofSet (.single Pattern.neverChar), rest, .lines) := by
  have hskip : Progress.lines.skip (Pattern.neverMark ++ rest) = .ok (Pattern.neverMark ++ rest) :=
    (sets_neverMark rest).shown
  have hread : readEscape Progress.lines.flags.extended Progress.lines.flags.ignoreCase
      ('x' :: '\x7b' :: 'F' :: 'F' :: 'F' :: 'F' :: '\x7d' :: rest) =
      .ok (.char Pattern.neverChar true, rest) := readHex_never rest
  rw [readAtom, hskip]
  dsimp only [bind, Except.bind, Pattern.neverMark, List.cons_append, List.nil_append]
  rw [hread]
  rfl

/-- The mark in place of an anchor, as an item. -/
def Item.never : Item where
  text := Pattern.neverMark
  node := .ofSet (.single Pattern.neverChar)
  plain := .literal Pattern.neverChar
  nonempty := List.cons_ne_nil _ _
  solid := rfl
  sets := sets_neverMark
  read := fun fuel depth rest hrest => readPiece_of_atom hrest .lines (readAtom_neverMark fuel depth rest)
  easy := rfl
  toPlain := rfl
  flat := (Item.ofChar Pattern.neverChar).flat

end Regex

namespace Line

/-- A text does not stand behind the end of a line. -/
theorem OccursAt.add_le {line : Line} {text : List Char} {position : Nat}
    (h : line.OccursAt text position) : position + byteCount text ≤ line.size := by
  obtain ⟨before, after, hchars, rfl⟩ := h
  rw [line.size_eq_byteCount, hchars, byteCount_append, byteCount_append]
  omega

/-- Where a text stands, the search for it ends at once. -/
theorem FirstFrom.eq_start_iff {line : Line} {text : List Char} {start : Nat} {found : Option Nat}
    (h : line.FirstFrom text start found) : found = some start ↔ line.OccursAt text start := by
  constructor
  · rintro rfl
    exact h.1
  · intro hoccurs
    cases found with
    | none => exact absurd (h start hoccurs) (Nat.lt_irrefl _)
    | some position =>
      have hle := h.2.2 start hoccurs (Nat.le_refl _)
      rw [Nat.le_antisymm hle h.2.1]

/-- Nothing is found if the text stands nowhere behind the start. -/
theorem FirstFrom.eq_none_iff {line : Line} {text : List Char} {start : Nat} {found : Option Nat}
    (h : line.FirstFrom text start found) :
    found = none ↔ ∀ other, line.OccursAt text other → other < start := by
  cases found with
  | none => exact ⟨fun _ => h, fun _ => rfl⟩
  | some position =>
    exact ⟨nofun, fun hnone => absurd (hnone position h.1) (Nat.not_lt_of_le h.2.1)⟩

/-- A boundary is where the character with its index starts. -/
theorem Boundary.offset_index {line : Line} {position : Nat} (h : line.Boundary position) :
    line.offset (line.index position) = position := by
  obtain ⟨before, after, hchars, rfl⟩ := mem_boundaries_iff.mp h
  rw [Nat.zero_add, line.index_of_append hchars, line.offset_eq, hchars, List.take_left]

/-- The boundary behind the character at a boundary is that of the next index. -/
theorem index_next {line : Line} {start : Nat} (h : line.index start < line.chars.size) :
    line.index (line.next start) = line.index start + 1 := by
  have hsplit := (List.take_append_drop (line.index start + 1) line.chars.toList).symm
  have hindex := line.index_of_append hsplit
  rw [next, line.offset_eq, hindex, List.length_take, Array.length_toList]
  omega

end Line

namespace Pattern

/-- The source of a pattern with an anchor between two texts taken literally. -/
def anchored (before after : List Char) : String :=
  String.ofList (quote before ++ '\\' :: 'G' :: quote after)

/-- What an anchored pattern looks for where the anchor does not hold. -/
def neverBetween (before after : List Char) : List Char :=
  before ++ neverChar :: after

theorem byteCount_neverBetween_pos (before after : List Char) :
    0 < Line.byteCount (neverBetween before after) := by
  rw [neverBetween, Line.byteCount_append, Line.byteCount_cons]
  exact Nat.add_pos_right _ (Nat.add_pos_left (Char.utf8Size_pos _) _)

theorem replaceAnchor_anchored (mark before after : List Char) :
    replaceAnchor mark (quote before ++ '\\' :: 'G' :: quote after) =
      quote before ++ mark ++ quote after := by
  have hkept (c : Char) (h : isSpecial c = true) :
      (if c = 'G' then some mark else none) = none := by
    refine if_neg ?_
    rintro rfl
    exact absurd h (by decide)
  have hafter := Escaping.substitute_quote_append hkept after []
  rw [List.append_nil, Escaping.substitute, List.append_nil] at hafter
  rw [replaceAnchor, Escaping.substitute_quote_append hkept, Escaping.substitute, hafter,
    if_pos rfl, Option.getD_some, List.append_assoc]

theorem sourceHasAnchor_anchored (before after : List Char) :
    sourceHasAnchor (quote before ++ '\\' :: 'G' :: quote after) = true := by
  have hother (c : Char) (h : isSpecial c = true) : decide (c = 'G') = false := by
    refine decide_eq_false ?_
    rintro rfl
    exact absurd h (by decide)
  rw [sourceHasAnchor, Escaping.any_quote_append hother, Escaping.any]
  rfl

/-- The two texts with the mark between them are a row of characters. -/
theorem rowPlain_never (before after : List Char) :
    Regex.rowPlain (before.map .ofChar ++ .never :: after.map .ofChar) =
      .literals (neverBetween before after) := by
  rw [Regex.rowPlain, List.map_append, List.map_cons, List.map_map, List.map_map,
    Regex.Plain.literals, neverBetween, List.map_append, List.map_cons]
  rfl

theorem rowText_never (before after : List Char) :
    Regex.rowText (before.map .ofChar ++ .never :: after.map .ofChar) =
      quote before ++ neverMark ++ quote after := by
  rw [Regex.rowText, List.flatMap_append, List.flatMap_cons, ← Regex.rowText, ← Regex.rowText,
    Regex.rowText_map_ofChar, Regex.rowText_map_ofChar, List.append_assoc]
  rfl

/-- The expressions that an anchored pattern is compiled to. -/
def ofAnchored (before after : List Char) (budget : Nat) : Pattern where
  source := anchored before after
  detached := .literals (neverBetween before after)
  attached := some (.literals (before ++ after))
  budget

/-- An anchored pattern compiles if there is room for both of its expressions. -/
def fitsAnchored (before after : List Char) : Bool :=
  (Regex.Plain.group 0 (.literals (neverBetween before after))).takesAtMost Regex.Footprint.limit &&
    (Regex.Plain.group 0 (.literals (before ++ after))).takesAtMost Regex.Footprint.limit

/-- **What an anchored pattern is compiled to.** -/
theorem compile_anchored (before after : List Char) (budget : Nat) :
    compile (anchored before after) budget =
      if fitsAnchored before after then .ok (ofAnchored before after budget)
      else .error ⟨anchored before after⟩ := by
  have hdetached := Regex.compile_literals (rowPlain_never before after)
  have hattached := Regex.compile_literals (Regex.rowPlain_map_ofChar (before ++ after))
  rw [rowText_never] at hdetached
  rw [Regex.rowText_map_ofChar, Escaping.quote_append, ← List.append_nil (quote before)]
    at hattached
  rw [compile, anchored, String.toList_ofList, replaceAnchor_anchored, compileRegex, hdetached,
    fitsAnchored]
  cases (Regex.Plain.group 0 (.literals (neverBetween before after))).takesAtMost
    Regex.Footprint.limit with
  | false => rfl
  | true =>
    rw [if_pos rfl, Bool.true_and]
    dsimp only
    rw [sourceHasAnchor_anchored, if_pos rfl, replaceAnchor_anchored, compileRegex, hattached]
    cases (Regex.Plain.group 0 (.literals (before ++ after))).takesAtMost Regex.Footprint.limit
    all_goals rfl

/-- The bytes of the texts, and of the character between them, decide whether there is room. -/
theorem fitsAnchored_of_le {before after : List Char}
    (hsize : Regex.Footprint.stateSize * Line.byteCount (neverBetween before after) +
      2 * Regex.Footprint.stateSize ≤ Regex.Footprint.limit) :
    fitsAnchored before after = true := by
  have hshorter :
      Line.byteCount (before ++ after) ≤ Line.byteCount (neverBetween before after) := by
    rw [neverBetween, Line.byteCount_append, Line.byteCount_append, Line.byteCount_cons]
    omega
  have hless := Nat.add_le_add_right (Nat.mul_le_mul_left Regex.Footprint.stateSize hshorter)
    (2 * Regex.Footprint.stateSize)
  rw [fitsAnchored, Regex.takesAtMost_literals hsize,
    Regex.takesAtMost_literals (Nat.le_trans hless hsize)]
  rfl

/-- Where the anchor does not hold, an anchored pattern looks for the character between the texts,
from the next character on if the search has started at the anchor. -/
theorem later_anchored (before after : List Char) (budget : Nat) {line : Line} {start : Nat}
    (hstart : line.Boundary start) :
    ∃ found, line.FirstFrom (neverBetween before after) (line.next start) found ∧
      findAt.later (ofAnchored before after budget) line (line.index start) =
        .ok (found.map fun position =>
          ⟨[some ⟨position, position + Line.byteCount (neverBetween before after)⟩]⟩) := by
  rw [findAt.later]
  split
  · next hinside =>
    rw [← Line.index_next hinside]
    exact searchAt_literals _ _ line (line.next_boundary start).le_size
  · next hend =>
    refine ⟨none, fun other hother => ?_, rfl⟩
    -- the search has started at the end of the line
    have hsize : line.size = start := by
      rw [← hstart.offset_index, line.offset_eq, List.take_of_length_le (Nat.le_of_not_lt hend),
        line.size_eq_byteCount]
    have hpos := byteCount_neverBetween_pos before after
    have hle := hother.add_le
    rw [line.next_of_size_le (Nat.le_of_eq hsize)]
    omega

/-- Where the two texts stand in a row, a search that starts at the anchor finds them. -/
theorem findAt_here {before after : List Char} (budget : Nat) {line : Line} {start : Nat}
    (hoccurs : line.OccursAt (before ++ after) start) :
    (ofAnchored before after budget).findAt line start true =
      .ok (some ⟨[some ⟨start, start + Line.byteCount (before ++ after)⟩]⟩) := by
  obtain ⟨found, hfirst, hsearch⟩ := searchAt_literals (ofAnchored before after budget)
    (before ++ after) line (Nat.le_of_add_right_le hoccurs.add_le)
  rw [hfirst.eq_start_iff.mpr hoccurs, Option.map_some] at hsearch
  rw [findAt]
  dsimp only [ofAnchored, if_true]
  rw [if_pos rfl]
  dsimp only [bind, Except.bind]
  rw [ofAnchored] at hsearch
  rw [hsearch]
  exact if_pos rfl

/-- Every other search is one for the character between the texts. -/
theorem findAt_elsewhere {before after : List Char} (budget : Nat) {line : Line} {start : Nat}
    {atAnchor : Bool} (hstart : line.Boundary start)
    (helse : ¬ (atAnchor = true ∧ line.OccursAt (before ++ after) start)) :
    ∃ place, line.FirstFrom (neverBetween before after)
        (if atAnchor then line.next start else start) place ∧
      (ofAnchored before after budget).findAt line start atAnchor =
        .ok (place.map fun position =>
          ⟨[some ⟨position, position + Line.byteCount (neverBetween before after)⟩]⟩) := by
  cases atAnchor with
  | false => exact searchAt_literals _ _ line hstart.le_size
  | true =>
    obtain ⟨found, hfirst, hsearch⟩ := searchAt_literals (ofAnchored before after budget)
      (before ++ after) line hstart.le_size
    have hmissed : found ≠ some start := fun hfound => helse ⟨rfl, hfirst.eq_start_iff.mp hfound⟩
    have hlater : (ofAnchored before after budget).findAt line start true =
        findAt.later (ofAnchored before after budget) line (line.index start) := by
      rw [findAt, if_pos rfl]
      show ((ofAnchored before after budget).searchAt (.literals (before ++ after)) line
        (line.index start) >>= _) = _
      rw [hsearch]
      cases found with
      | none => rfl
      | some position => exact if_neg fun hposition => hmissed (congrArg some hposition)
    rw [hlater]
    exact later_anchored before after budget hstart

/-- What a search for an anchored pattern comes to if the anchor holds at the start of the search
and nowhere else. -/
def HoldsOnlyAtStart (before after : List Char) (line : Line) (start : Nat) (atAnchor : Bool) :
    Option Groups → Prop
  | some groups => atAnchor = true ∧ before = [] ∧ line.OccursAt after start ∧
      groups = ⟨[some ⟨start, start + Line.byteCount after⟩]⟩
  | none => atAnchor = true → before = [] → ¬ line.OccursAt after start

theorem holdsOnlyAtStart_here {before after : List Char} {line : Line} {start : Nat}
    (hoccurs : line.OccursAt (before ++ after) start) :
    HoldsOnlyAtStart before after line start true
      (some ⟨[some ⟨start, start + Line.byteCount (before ++ after)⟩]⟩) ↔ before = [] := by
  constructor
  · rintro ⟨_, hnil, _⟩
    exact hnil
  · rintro rfl
    exact ⟨rfl, rfl, hoccurs, rfl⟩

/-- Where the texts do not stand at the anchor, nothing is to be found. -/
theorem holdsOnlyAtStart_elsewhere {before after : List Char} {line : Line} {start : Nat}
    {atAnchor : Bool} (helse : ¬ (atAnchor = true ∧ line.OccursAt (before ++ after) start))
    (found : Option Groups) :
    HoldsOnlyAtStart before after line start atAnchor found ↔ found = none := by
  cases found with
  | none =>
    refine ⟨fun _ => rfl, fun _ hanchor hnil hoccurs => helse ⟨hanchor, ?_⟩⟩
    rwa [hnil]
  | some groups =>
    refine ⟨?_, nofun⟩
    rintro ⟨hanchor, rfl, hoccurs, _⟩
    exact absurd ⟨hanchor, hoccurs⟩ helse

/-- **An anchor between two texts.** Two texts taken literally make a pattern with an anchor between
them, up to the size that an automaton may have, and a search for it always ends with an answer. A
search that starts at the anchor finds the two texts in a row if they stand there, the first one
included. Every other search finds the first place of the texts with the character between them that
is supposed never to occur. Hence the anchor holds at the start of the search and nowhere else
exactly if a search that finds the texts at its start has nothing to match in front of the anchor,
and any other search does not meet the texts with the character between them. -/
theorem anchor_between (before after : List Char) (budget : Nat) :
    (Regex.Footprint.stateSize * Line.byteCount (neverBetween before after) +
        2 * Regex.Footprint.stateSize ≤ Regex.Footprint.limit →
      ∃ pattern, compile (anchored before after) budget = .ok pattern) ∧
    ∀ pattern, compile (anchored before after) budget = .ok pattern →
      ∀ (line : Line) (start : Nat) (atAnchor : Bool), line.Boundary start →
        ∃ found, pattern.findAt line start atAnchor = .ok found ∧
          let first := if atAnchor then line.next start else start
          let here := atAnchor = true ∧ line.OccursAt (before ++ after) start
          (here → found = some ⟨[some ⟨start, start + Line.byteCount (before ++ after)⟩]⟩) ∧
          (¬ here → ∃ place, line.FirstFrom (neverBetween before after) first place ∧
            found = place.map fun position =>
              ⟨[some ⟨position, position + Line.byteCount (neverBetween before after)⟩]⟩) ∧
          (HoldsOnlyAtStart before after line start atAnchor found ↔
            (here → before = []) ∧
              (¬ here →
                ∀ other, line.OccursAt (neverBetween before after) other → other < first)) := by
  refine ⟨fun hsize => ⟨ofAnchored before after budget, ?_⟩, fun pattern hpattern => ?_⟩
  · rw [compile_anchored, fitsAnchored_of_le hsize, if_pos rfl]
  obtain rfl : ofAnchored before after budget = pattern := by
    rw [compile_anchored] at hpattern
    split at hpattern
    · exact Except.ok.inj hpattern
    · cases hpattern
  intro line start atAnchor hstart
  by_cases hhere : atAnchor = true ∧ line.OccursAt (before ++ after) start
  · obtain ⟨rfl, hoccurs⟩ := hhere
    refine ⟨_, findAt_here budget hoccurs, fun _ => rfl,
      fun helse => absurd ⟨rfl, hoccurs⟩ helse, ?_⟩
    rw [holdsOnlyAtStart_here hoccurs]
    exact ⟨fun hnil => ⟨fun _ => hnil, fun helse => absurd ⟨rfl, hoccurs⟩ helse⟩,
      fun h => h.1 ⟨rfl, hoccurs⟩⟩
  · obtain ⟨place, hfirst, hfound⟩ := findAt_elsewhere budget hstart hhere
    refine ⟨_, hfound, fun h => absurd h hhere, fun _ => ⟨place, hfirst, rfl⟩, ?_⟩
    rw [holdsOnlyAtStart_elsewhere hhere, Option.map_eq_none_iff, hfirst.eq_none_iff]
    exact ⟨fun hnone => ⟨fun h => absurd h hhere, fun _ => hnone⟩, fun h => h.2 hhere⟩

/-- A letter in front of the anchor is matched from the start of the search, and a line may hold the
character that is supposed never to occur. -/
theorem anchor_between_letters :
    ∃ pattern, compile (anchored ['a'] ['b']) 1000 = .ok pattern ∧
      (pattern.findAt (.ofChars ['a', 'b']) 0 true = .ok (some ⟨[some ⟨0, 2⟩]⟩) ∧
        ¬ HoldsOnlyAtStart ['a'] ['b'] (.ofChars ['a', 'b']) 0 true (some ⟨[some ⟨0, 2⟩]⟩)) ∧
      pattern.findAt (.ofChars ['a', neverChar, 'b']) 0 false = .ok (some ⟨[some ⟨0, 5⟩]⟩) ∧
        ¬ HoldsOnlyAtStart ['a'] ['b'] (.ofChars ['a', neverChar, 'b']) 0 false
          (some ⟨[some ⟨0, 5⟩]⟩) := by
  obtain ⟨hcompiles, hfinds⟩ := anchor_between ['a'] ['b'] 1000
  obtain ⟨pattern, hpattern⟩ := hcompiles (by decide)
  refine ⟨pattern, hpattern, ?_, ?_⟩
  · obtain ⟨found, hfound, hhere, -, honly⟩ := hfinds pattern hpattern (.ofChars ['a', 'b']) 0 true
      (Line.zero_boundary _)
    have hoccurs : true = true ∧ (Line.ofChars ['a', 'b']).OccursAt (['a'] ++ ['b']) 0 :=
      ⟨rfl, [], [], rfl, rfl⟩
    obtain rfl := hhere hoccurs
    exact ⟨hfound, fun hholds => absurd ((honly.mp hholds).1 hoccurs) (by decide)⟩
  · obtain ⟨found, hfound, -, helse, honly⟩ := hfinds pattern hpattern
      (.ofChars ['a', neverChar, 'b']) 0 false (Line.zero_boundary _)
    have hoccurs : (Line.ofChars ['a', neverChar, 'b']).OccursAt (neverBetween ['a'] ['b']) 0 :=
      ⟨[], [], rfl, rfl⟩
    obtain ⟨place, hfirst, rfl⟩ := helse (fun hhere => absurd hhere.1 (by decide))
    obtain rfl := hfirst.eq_start_iff.mpr hoccurs
    refine ⟨hfound, fun hholds => ?_⟩
    have hnone := (honly.mp hholds).2 (fun hhere => absurd hhere.1 (by decide)) 0 hoccurs
    exact Nat.lt_irrefl 0 hnone

end Pattern

end ScopeScanner
