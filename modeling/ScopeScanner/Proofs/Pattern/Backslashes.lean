import Mathlib.Data.List.Basic
import ScopeScanner.Pattern.Basic
import ScopeScanner.Proofs.Pattern.Echo

/-!
# Counting backslashes

Escapes are read from left to right, a backslash with the character behind it. What is escaped can be
said without reading: a character is, if an odd number of backslashes stands directly before it
(`Escaping.IsEscaped`).

* **`Escaping.any_iff`**, **`Escaping.substitute_eq`**: both readings agree, so it can be told position
  by position what becomes of a text when some escapes are replaced.
* **`Escaping.pieces_substitute`**: replacements that end in no open backslash are put between the pieces
  of a text without changing how the others are read.
* **`EndTemplate.escapes_counted`**: what this means for anchors, for the references of a template, and
  for the texts that are put in their place.
-/

namespace ScopeScanner

open Escaping (quote isSpecial)

namespace Escaping

/-! ## Runs of backslashes -/

/-- How many backslashes a text ends in. -/
def runAtEnd (text : List Char) : Nat :=
  (text.reverse.takeWhile (· = '\\')).length

/-- An odd number of backslashes stands directly before a position. -/
def IsEscaped (text : List Char) (position : Nat) : Prop :=
  runAtEnd (text.take position) % 2 = 1

instance (text : List Char) (position : Nat) : Decidable (IsEscaped text position) :=
  inferInstanceAs (Decidable (_ = _))

theorem runAtEnd_le (text : List Char) : runAtEnd text ≤ text.length := by
  have h := (List.takeWhile_prefix (l := text.reverse) (· = '\\')).length_le
  rwa [List.length_reverse] at h

/-- A character in front counts only if it is a backslash and the whole text is a run of them. -/
theorem runAtEnd_cons (c : Char) (text : List Char) :
    runAtEnd (c :: text) =
      if c = '\\' ∧ runAtEnd text = text.length then text.length + 1 else runAtEnd text := by
  rw [runAtEnd, List.reverse_cons, List.takeWhile_append, List.length_reverse, ← runAtEnd]
  split
  · next hrun => by_cases hc : c = '\\' <;> simp [hc, hrun]
  · next hrun =>
    rw [if_neg fun h => hrun h.2]
    rfl

section

variable {c : Char} {text : List Char} {position : Nat}

theorem not_isEscaped_zero (text : List Char) : ¬ IsEscaped text 0 := by
  simp [IsEscaped, runAtEnd]

/-- What is no escape in front is no backslash, unless it is all there is. -/
theorem isEscaped_cons (hlone : c = '\\' → text = []) (hposition : position < text.length) :
    IsEscaped (c :: text) (position + 1) ↔ IsEscaped text position := by
  have hc : c ≠ '\\' := fun h => List.ne_nil_of_length_pos (Nat.zero_lt_of_lt hposition) (hlone h)
  rw [IsEscaped, List.take_succ_cons, runAtEnd_cons, if_neg (fun h => hc h.1), IsEscaped]

/-- Behind a backslash a character is escaped. -/
theorem isEscaped_escape_one (c : Char) (text : List Char) : IsEscaped ('\\' :: c :: text) 1 := by
  simp [IsEscaped, runAtEnd]

/-- An escape in front changes the number of backslashes by two, or not at all. -/
theorem isEscaped_escape :
    IsEscaped ('\\' :: c :: text) (position + 2) ↔ IsEscaped text position := by
  have hle := runAtEnd_le (text.take position)
  rw [IsEscaped, List.take_succ_cons, List.take_succ_cons, runAtEnd_cons, runAtEnd_cons, IsEscaped,
    List.length_cons]
  by_cases hrun : c = '\\' ∧ runAtEnd (text.take position) = (text.take position).length
  · rw [if_pos hrun]
    simp only [and_self, if_true]
    omega
  · rw [if_neg hrun, if_neg]
    rintro ⟨_, hall⟩
    omega

end

/-! ## Both readings -/

/-- A backslash in front of a text that is read on its own is the whole text. -/
theorem eq_nil_of_plain {c : Char} {rest : List Char}
    (hplain : ∀ d more, c = '\\' → rest = d :: more → False) (hc : c = '\\') : rest = [] := by
  cases rest with
  | nil => rfl
  | cons d more => exact (hplain d more hc rfl).elim

/-- **A character is escaped if an odd number of backslashes stands directly before it.** By recursion on
the escapes as they are read. -/
theorem any_iff (condition : Char → Bool) (text : List Char) :
    any condition text = true ↔
      ∃ position c, text[position]? = some c ∧ condition c = true ∧ IsEscaped text position := by
  fun_induction any condition text with
  | case1 c rest ih =>
    rw [Bool.or_eq_true, ih]
    constructor
    · rintro (hc | ⟨position, d, hd, hcondition, hescaped⟩)
      · exact ⟨1, c, rfl, hc, isEscaped_escape_one c rest⟩
      · exact ⟨position + 2, d, hd, hcondition, isEscaped_escape.mpr hescaped⟩
    · rintro ⟨position, d, hd, hcondition, hescaped⟩
      match position with
      | 0 => exact absurd hescaped (not_isEscaped_zero _)
      | 1 =>
        obtain rfl := Option.some.inj hd
        exact Or.inl hcondition
      | position + 2 => exact Or.inr ⟨position, d, hd, hcondition, isEscaped_escape.mp hescaped⟩
  | case2 c rest hplain ih =>
    have hshift {position : Nat} {d : Char} (hd : rest[position]? = some d) :=
      isEscaped_cons (eq_nil_of_plain hplain) (List.getElem?_eq_some_iff.mp hd).1
    rw [ih]
    constructor
    · rintro ⟨position, d, hd, hcondition, hescaped⟩
      exact ⟨position + 1, d, hd, hcondition, (hshift hd).mpr hescaped⟩
    · rintro ⟨position, d, hd, hcondition, hescaped⟩
      match position with
      | 0 => exact absurd hescaped (not_isEscaped_zero _)
      | position + 1 => exact ⟨position, d, hd, hcondition, (hshift hd).mp hescaped⟩
  | case3 => simp

/-- What becomes of the character at a position when some escapes are replaced: an escaped character
becomes the text that replaces it, and the backslash in front of it goes. All others are kept. -/
def becomes (replace : Char → Option (List Char)) (text : List Char) (position : Nat) : List Char :=
  match text[position]? with
  | none => []
  | some c =>
    if IsEscaped text position then (replace c).getD [c]
    else if c = '\\' ∧ (text[position + 1]?.bind replace).isSome then []
    else [c]

section

variable {replace : Char → Option (List Char)} {c : Char} {rest : List Char}

theorem becomes_escape (position : Nat) :
    becomes replace ('\\' :: c :: rest) (position + 2) = becomes replace rest position := by
  simp only [becomes, List.getElem?_cons_succ, isEscaped_escape]

theorem becomes_cons (hlone : c = '\\' → rest = []) {position : Nat} (hposition : position < rest.length) :
    becomes replace (c :: rest) (position + 1) = becomes replace rest position := by
  simp only [becomes, List.getElem?_cons_succ, isEscaped_cons hlone hposition]

/-- An escape becomes the text that replaces it, or stays. -/
theorem becomes_escape_front :
    becomes replace ('\\' :: c :: rest) 0 ++ becomes replace ('\\' :: c :: rest) 1 =
      (replace c).getD ['\\', c] := by
  have hfirst : ¬ IsEscaped ('\\' :: c :: rest) 0 := not_isEscaped_zero _
  have hsecond : IsEscaped ('\\' :: c :: rest) 1 := isEscaped_escape_one c rest
  cases hreplace : replace c <;> simp [becomes, hfirst, hsecond, hreplace]

/-- Any other character in front stays. -/
theorem becomes_front (hlone : c = '\\' → rest = []) : becomes replace (c :: rest) 0 = [c] := by
  have hfirst : ¬ IsEscaped (c :: rest) 0 := not_isEscaped_zero _
  have hkept : ¬ (c = '\\' ∧ ((c :: rest)[0 + 1]?.bind replace).isSome) := by
    rintro ⟨hc, hsome⟩
    simp [hlone hc] at hsome
  simp only [becomes, List.getElem?_cons_zero, if_neg hfirst, if_neg hkept]

end

/-- **What a text becomes, position by position.** -/
theorem substitute_eq (replace : Char → Option (List Char)) (text : List Char) :
    substitute replace text = (List.range text.length).flatMap (becomes replace text) := by
  fun_induction substitute replace text with
  | case1 c rest ih =>
    rw [ih, List.length_cons, List.length_cons, List.range_succ_eq_map, List.range_succ_eq_map,
      List.flatMap_cons, List.map_cons, List.flatMap_cons, ← List.append_assoc, becomes_escape_front,
      List.map_map, List.flatMap_map]
    congr 2
    exact (funext becomes_escape).symm
  | case2 c rest hplain ih =>
    have hlone := eq_nil_of_plain hplain
    rw [ih, List.length_cons, List.range_succ_eq_map, List.flatMap_cons, becomes_front hlone,
      List.flatMap_map, List.singleton_append]
    congr 1
    refine List.flatMap_congr fun position hposition => ?_
    exact (becomes_cons hlone (List.mem_range.mp hposition)).symm
  | case3 => rfl

/-! ## Pieces of a text -/

/-- A piece of a text as it is read. -/
inductive Piece where
  | char (c : Char)
  | escape (c : Char)
deriving DecidableEq, Repr

/-- The pieces of a text, from left to right. -/
def pieces : List Char → List Piece
  | '\\' :: c :: rest => .escape c :: pieces rest
  | c :: rest => .char c :: pieces rest
  | [] => []

/-- The pieces that a piece becomes when some escapes are replaced: those of the text in its place. -/
def Piece.refilled (replace : Char → Option (List Char)) : Piece → List Piece
  | .escape c => (replace c).elim [.escape c] pieces
  | .char c => [.char c]

theorem pieces_cons {c : Char} {rest : List Char} (hlone : c = '\\' → rest = []) :
    pieces (c :: rest) = .char c :: pieces rest := by
  rw [pieces]
  rintro d more rfl hmore
  cases (hlone rfl).symm.trans hmore

namespace Escapes

variable {Kind : Char → Prop} {text : List Char}

/-- A text without an open backslash is read as before, whatever follows. -/
theorem pieces_append (h : Escapes Kind text) (rest : List Char) :
    pieces (text ++ rest) = pieces text ++ pieces rest := by
  induction h with
  | nil => rfl
  | char hc _ ih =>
    rw [List.cons_append, pieces_cons (fun h => absurd h hc), pieces_cons (fun h => absurd h hc), ih]
    rfl
  | escape hkind _ ih =>
    rw [List.cons_append, List.cons_append, pieces, pieces, ih]
    rfl

theorem kind_of_mem (h : Escapes Kind text) {c : Char} (hmem : .escape c ∈ pieces text) : Kind c := by
  induction h with
  | nil => cases hmem
  | char hc _ ih =>
    rw [pieces_cons (fun h => absurd h hc)] at hmem
    rcases List.mem_cons.mp hmem with hmem | hmem
    · cases hmem
    · exact ih hmem
  | escape hkind _ ih =>
    rw [pieces] at hmem
    rcases List.mem_cons.mp hmem with hmem | hmem
    · cases hmem
      exact hkind
    · exact ih hmem

end Escapes

/-- A text holds an escape of some kind if one of its pieces is one. -/
theorem any_eq_true_iff_pieces {condition : Char → Bool} {text : List Char} :
    any condition text = true ↔ ∃ c, .escape c ∈ pieces text ∧ condition c = true := by
  fun_induction any condition text with
  | case1 c rest ih =>
    rw [Bool.or_eq_true, ih, pieces]
    constructor
    · rintro (hc | ⟨d, hd, hcondition⟩)
      · exact ⟨c, List.mem_cons_self, hc⟩
      · exact ⟨d, List.mem_cons_of_mem _ hd, hcondition⟩
    · rintro ⟨d, hd, hcondition⟩
      rcases List.mem_cons.mp hd with hd | hd
      · obtain rfl := Piece.escape.inj hd
        exact Or.inl hcondition
      · exact Or.inr ⟨d, hd, hcondition⟩
  | case2 c rest hplain ih =>
    rw [ih, pieces_cons (eq_nil_of_plain hplain)]
    simp
  | case3 => simp [pieces]

/-- **Texts that are put in leave the other pieces as they are.** By recursion on the pieces. -/
theorem pieces_substitute {replace : Char → Option (List Char)} {Kind : Char → Prop}
    (hclosed : ∀ c text, replace c = some text → Escapes Kind text) (text : List Char) :
    pieces (substitute replace text) = (pieces text).flatMap (Piece.refilled replace) := by
  fun_induction substitute replace text with
  | case1 c rest ih =>
    rw [pieces, List.flatMap_cons, ← ih, Piece.refilled]
    cases hreplace : replace c with
    | none => rfl
    | some text => exact (hclosed c text hreplace).pieces_append _
  | case2 c rest hplain ih =>
    have hlone := eq_nil_of_plain hplain
    rw [pieces_cons hlone, List.flatMap_cons, ← ih, Piece.refilled, pieces_cons]
    · rfl
    · intro hc
      rw [hlone hc]
      rfl
  | case3 => rfl

end Escaping

namespace EndTemplate

/-- What is put in the place of an escape: a reference becomes the text of its group, taken literally. -/
def filling (texts : List (Option (List Char))) (c : Char) : Option (List Char) :=
  if isReference c then some (quote (texts[c.toNat - '0'.toNat]?.join.getD [])) else none

theorem toList_instantiate (template : EndTemplate) (texts : List (Option (List Char))) :
    (template.instantiate texts).toList =
      Escaping.substitute (filling texts) template.source.toList :=
  String.toList_ofList

theorem filling_eq_some {texts : List (Option (List Char))} {c : Char} {text : List Char}
    (h : filling texts c = some text) : Escaping.Escapes (isSpecial · = true) text := by
  rw [filling] at h
  split at h
  · obtain rfl := Option.some.inj h
    exact .quote _
  · cases h

theorem filling_eq_none {texts : List (Option (List Char))} {c : Char}
    (h : filling texts c = none) : isReference c = false := by
  rw [filling] at h
  split at h
  · cases h
  · next hreference => exact Bool.eq_false_iff.mpr hreference

theorem isSome_ofSource?_iff (source : String) :
    (ofSource? source).isSome ↔ Escaping.any isReference source.toList = true := by
  rw [ofSource?]
  split
  · next h => simp [h]
  · next h => simp [h]

/-- No piece of an instance is a reference: those of the template are gone, and quoted texts have none. -/
theorem ofSource?_instantiate (template : EndTemplate) (texts : List (Option (List Char))) :
    ofSource? (template.instantiate texts) = none := by
  rw [← Option.not_isSome_iff_eq_none, isSome_ofSource?_iff, toList_instantiate,
    Escaping.any_eq_true_iff_pieces,
    Escaping.pieces_substitute (fun _ _ h => filling_eq_some h)]
  rintro ⟨c, hmem, hreference⟩
  obtain ⟨piece, _, hpiece⟩ := List.mem_flatMap.mp hmem
  cases piece with
  | char d => simp [Escaping.Piece.refilled] at hpiece
  | escape d =>
    rw [Escaping.Piece.refilled] at hpiece
    cases hfilling : filling texts d with
    | none =>
      rw [hfilling] at hpiece
      obtain rfl := Escaping.Piece.escape.inj (List.mem_singleton.mp hpiece)
      rw [filling_eq_none hfilling] at hreference
      cases hreference
    | some text =>
      rw [hfilling] at hpiece
      rw [isReference_special ((filling_eq_some hfilling).kind_of_mem hpiece)] at hreference
      cases hreference

end EndTemplate

/-- A compiled pattern holds an anchor if its source does. -/
theorem Pattern.hasAnchor_of_compile {source : String} {budget : Nat} {pattern : Pattern}
    (h : compile source budget = .ok pattern) : pattern.hasAnchor = sourceHasAnchor source.toList := by
  rw [compile] at h
  split at h
  · cases h
  · split at h
    · next hanchor =>
      split at h
      · cases h
      · cases h
        exact hanchor.symm
    · next hanchor =>
      cases h
      exact (Bool.eq_false_iff.mpr hanchor).symm

/-- **Escapes are told by counting backslashes.** A source is a template exactly if a digit from 1 to 9
has an odd number of backslashes directly before it, and a compiled pattern holds an anchor exactly if a
`G` has. An instance of a template has the quoted texts in the place of these digits, without the
backslash in front of each, and all other characters as they are. It is read like the template, with the
pieces of the texts between those of the template, so it is no template itself. -/
theorem EndTemplate.escapes_counted (source : String) :
    (∀ template, ofSource? source = some template → template.source = source) ∧
    ((ofSource? source).isSome ↔ ∃ position c, source.toList[position]? = some c ∧
      ('1' ≤ c ∧ c ≤ '9') ∧ Escaping.IsEscaped source.toList position) ∧
    (∀ budget pattern, Pattern.compile source budget = .ok pattern →
      (pattern.hasAnchor ↔ ∃ position, source.toList[position]? = some 'G' ∧
        Escaping.IsEscaped source.toList position)) ∧
    ∀ texts : List (Option (List Char)),
      let filled := (instantiate ⟨source⟩ texts).toList
      filled = (List.range source.toList.length).flatMap
        (Escaping.becomes (filling texts) source.toList) ∧
      Escaping.pieces filled =
        (Escaping.pieces source.toList).flatMap (Escaping.Piece.refilled (filling texts)) ∧
      ofSource? (instantiate ⟨source⟩ texts) = none := by
  refine ⟨?_, ?_, ?_, fun texts => ⟨?_, ?_, ofSource?_instantiate _ texts⟩⟩
  · intro template h
    rw [ofSource?] at h
    split at h
    · cases h
      rfl
    · cases h
  · rw [isSome_ofSource?_iff, Escaping.any_iff]
    simp only [isReference, Bool.and_eq_true, decide_eq_true_eq]
  · intro budget pattern hcompile
    rw [Pattern.hasAnchor_of_compile hcompile, Pattern.sourceHasAnchor, Escaping.any_iff]
    simp only [decide_eq_true_eq]
    constructor
    · rintro ⟨position, _, hc, rfl, hescaped⟩
      exact ⟨position, hc, hescaped⟩
    · rintro ⟨position, hc, hescaped⟩
      exact ⟨position, 'G', hc, rfl, hescaped⟩
  · rw [toList_instantiate, Escaping.substitute_eq]
  · rw [toList_instantiate]
    exact Escaping.pieces_substitute (fun _ _ h => filling_eq_some h) _

theorem Pattern.compile_runs :
    (match Pattern.compile "\\\\\\Ga\\\\1" 1000 with
      | .ok _ => true
      | .error _ => false) = true := by
  decide +kernel

/-- Three backslashes in front of the `G` and two in front of the digit: an anchor and no reference. A
text of a backslash and a digit is put in behind two backslashes, in front of one that stands alone. -/
theorem EndTemplate.escapes_counted_runs :
    (∃ pattern, Pattern.compile "\\\\\\Ga\\\\1" 1000 = .ok pattern ∧ pattern.hasAnchor = true) ∧
    ofSource? "\\\\\\Ga\\\\1" = none ∧
    (ofSource? "\\\\\\1\\").isSome ∧
    instantiate ⟨"\\\\\\1\\"⟩ [none, some ['\\', '1']] = "\\\\\\\\1\\" ∧
    ofSource? "\\\\\\\\1\\" = none := by
  obtain ⟨_, _, hanchor, _⟩ := escapes_counted "\\\\\\Ga\\\\1"
  obtain ⟨_, htemplate, _, hinstance⟩ := escapes_counted "\\\\\\1\\"
  have hcompile := Pattern.compile_runs
  have hfilled : instantiate ⟨"\\\\\\1\\"⟩ [none, some ['\\', '1']] = "\\\\\\\\1\\" := by
    decide +kernel
  refine ⟨?_, by decide +kernel, htemplate.mpr ⟨3, '1', by decide +kernel⟩, hfilled, ?_⟩
  · split at hcompile
    · next pattern hpattern =>
      exact ⟨pattern, hpattern, (hanchor 1000 pattern hpattern).mpr ⟨3, by decide +kernel⟩⟩
    · cases hcompile
  · rw [← hfilled]
    exact (hinstance [none, some ['\\', '1']]).2.2

end ScopeScanner
