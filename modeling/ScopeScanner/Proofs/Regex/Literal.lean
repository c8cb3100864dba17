import ScopeScanner.Proofs.Regex.Row
import ScopeScanner.Proofs.Text.Boundary

/-!
# Texts taken literally

A quoted text is a row of characters: what has a meaning of its own stands behind a backslash, and
everything else stands for itself (`Item.ofChar`). It is compiled to an automaton that steps over
these characters, with nothing around them but the ends of the match, unless it has more bytes than
an automaton may take (`compile_literals`). A search tries one place after the other until the
characters are found (`search_literals`).
-/

namespace ScopeScanner

namespace Escaping

/-- What holds of all special characters can be checked one by one. -/
theorem of_isSpecial {Holds : Char → Prop} (h : ∀ c ∈ ['\\', '.', '+', '*', '?', '(', ')', '|', '[',
    ']', '\x7b', '\x7d', '^', '$', '#'], Holds c) {c : Char} (hc : isSpecial c = true) : Holds c :=
  h c (List.contains_iff_mem.mp hc)

theorem quote_cons_of_special {c : Char} (h : isSpecial c = true) (rest : List Char) :
    quote (c :: rest) = '\\' :: c :: quote rest := by
  rw [quote, if_pos h]

theorem quote_cons_of_plain {c : Char} (h : isSpecial c = false) (rest : List Char) :
    quote (c :: rest) = c :: quote rest := by
  rw [quote, h, if_neg Bool.false_ne_true]

theorem quote_append (first second : List Char) :
    quote (first ++ second) = quote first ++ quote second := by
  induction first with
  | nil => rfl
  | cons c rest ih =>
    rw [List.cons_append]
    cases h : isSpecial c with
    | true => rw [quote_cons_of_special h, quote_cons_of_special h, ih]; rfl
    | false => rw [quote_cons_of_plain h, quote_cons_of_plain h, ih]; rfl

end Escaping

namespace Regex

open Escaping

/-- The plain expression of a character. -/
def Plain.literal (c : Char) : Plain := .set (.single c)

/-- The plain expression of a row of characters. -/
def Plain.literals (chars : List Char) : Plain := .ofItems (chars.map literal)

/-! ## Reading -/

/-- A character without a meaning of its own is no quantifier, and starts no comment. -/
theorem Sets.of_plain {c : Char} (h : isSpecial c = false) (rest : List Char) :
    Sets (c :: rest) := by
  refine .cons (fun hmem => ?_) rest
  simp only [List.mem_cons, List.not_mem_nil, or_false] at hmem
  rcases hmem with rfl | rfl | rfl | rfl | rfl
  all_goals exact absurd h (by decide)

/-- A special character stands for itself behind a backslash. -/
theorem readEscape_special {c : Char} (h : isSpecial c = true) (ignoreCase : Bool) (rest : List Char) :
    readEscape false ignoreCase (c :: rest) = .ok (.char c false, rest) := by
  refine @of_isSpecial (fun c => readEscape false ignoreCase (c :: rest) = .ok (.char c false, rest))
    (fun c hmem => ?_) c h
  simp only [List.mem_cons, List.not_mem_nil, or_false] at hmem
  rcases hmem with
    rfl | rfl | rfl | rfl | rfl | rfl | rfl | rfl | rfl | rfl | rfl | rfl | rfl | rfl | rfl
  all_goals rfl

/-- A character is read as itself, with a backslash in front if it has a meaning of its own. Only without
a backslash it may match up to case. -/
theorem readAtom_quote {progress : Progress} (hsimple : progress.Simple) (fuel depth : Nat) (c : Char)
    (rest : List Char) :
    readAtom (fuel + 1) depth progress (quote [c] ++ rest) =
      .ok (.ofSet (.leaf (progress.flags.ignoreCase && !isSpecial c) (.single c)), rest, progress) := by
  cases h : isSpecial c with
  | true =>
    rw [quote_cons_of_special h]
    show readAtom (fuel + 1) depth progress ('\\' :: c :: rest) = _
    rw [readAtom_escape hsimple, readEscape_special h, Bool.not_true, Bool.and_false]
    rfl
  | false =>
    have hoperators : operators.all isSpecial = true := by decide
    rw [quote_cons_of_plain h]
    show readAtom (fuel + 1) depth progress (c :: rest) = _
    rw [readAtom_plain hsimple, Progress.literal, Bool.not_false, Bool.and_true]
    intro hmem
    rw [List.all_eq_true.mp hoperators c hmem] at h
    cases h

/-- A character taken literally. -/
def Item.ofChar (c : Char) : Item where
  text := quote [c]
  node := .ofSet (.single c)
  plain := .literal c
  nonempty := by
    cases h : isSpecial c with
    | true => rw [quote_cons_of_special h]; exact List.cons_ne_nil _ _
    | false => rw [quote_cons_of_plain h]; exact List.cons_ne_nil _ _
  solid := rfl
  sets := fun rest => by
    cases h : isSpecial c with
    | true => rw [quote_cons_of_special h]; exact .cons (by decide) _
    | false => rw [quote_cons_of_plain h]; exact .of_plain h _
  read := fun fuel depth rest hrest =>
    readPiece_of_atom hrest .lines (readAtom_quote .lines fuel depth c rest)
  easy := rfl
  toPlain := rfl
  flat := fun within _ => by rw [Node.ofSet, Node.depth]; decide

theorem rowText_map_ofChar (chars : List Char) : rowText (chars.map .ofChar) = quote chars := by
  induction chars with
  | nil => rfl
  | cons c rest ih =>
    have hcons : quote (c :: rest) = quote [c] ++ quote rest := quote_append [c] rest
    rw [List.map_cons, hcons, ← ih]
    rfl

theorem rowPlain_map_ofChar (chars : List Char) :
    rowPlain (chars.map .ofChar) = .literals chars := by
  rw [rowPlain, List.map_map]
  rfl

/-! ## Sizes -/

namespace Footprint

theorem hasCode_single (c : Char) (code : Nat) :
    hasCode (.single c) code = decide (code = c.toNat) := by
  have hvalid : c.toNat < 0xD800 ∨ 0xDFFF < c.toNat ∧ c.toNat < 0x110000 := c.valid
  rw [hasCode]
  by_cases hcode : code = c.toNat
  · have hin : (decide (code < 0xD800) ||
        decide (0xE000 ≤ code) && decide (code < 0x110000)) = true := by
      simp only [Bool.or_eq_true, Bool.and_eq_true, decide_eq_true_eq]
      omega
    rw [if_pos hin, hcode, Char.ofNat_toNat]
    rw [CharSet.contains]
    simp
  · rw [decide_eq_false hcode]
    split
    · next hin =>
      refine decide_eq_false fun hsame => hcode ?_
      simp only [Bool.or_eq_true, Bool.and_eq_true, decide_eq_true_eq] at hin
      have hchar : code.isValidChar := by
        rcases hin with hlow | ⟨hhigh, hlt⟩
        · exact Or.inl hlow
        · exact Or.inr ⟨by omega, hlt⟩
      rw [← hsame, Char.ofNat, dif_pos hchar]
      rfl
    · rfl

/-- Behind the character no range is added. -/
theorem rangesFrom_behind (c : Char) (left : Nat) {code : Nat} (h : c.toNat < code) :
    rangesFrom (.single c) left code [(c.toNat, c.toNat)] = [(c.toNat, c.toNat)] := by
  induction left generalizing code with
  | zero => rfl
  | succ left ih =>
    rw [rangesFrom, hasCode_single, decide_eq_false (Nat.ne_of_gt h), if_neg Bool.false_ne_true]
    exact ih (Nat.lt_succ_of_lt h)

theorem rangesFrom_single (c : Char) (left : Nat) {code : Nat} (hfrom : code ≤ c.toNat)
    (hto : c.toNat < code + left) :
    rangesFrom (.single c) left code [] = [(c.toNat, c.toNat)] := by
  induction left generalizing code with
  | zero => omega
  | succ left ih =>
    rw [rangesFrom, hasCode_single]
    by_cases hcode : code = c.toNat
    · rw [decide_eq_true hcode, if_pos rfl, hcode]
      exact rangesFrom_behind c left (Nat.lt_succ_self _)
    · rw [decide_eq_false hcode, if_neg Bool.false_ne_true]
      exact ih (by omega) (by omega)

theorem ranges_single (c : Char) : ranges (.single c) = [(c.toNat, c.toNat)] := by
  have hlt : c.toNat < 0x110000 := by
    have hvalid : c.toNat < 0xD800 ∨ 0xDFFF < c.toNat ∧ c.toNat < 0x110000 := c.valid
    omega
  rw [ranges, rangesFrom_single c _ (Nat.zero_le _) (by omega)]
  rfl

theorem length_bytesOf (c : Char) : (bytesOf c.toNat).length = c.utf8Size := by
  have hbound (n : Nat) (hn : n < UInt32.size) : c.val ≤ UInt32.ofNatLT n hn ↔ c.toNat < n + 1 := by
    rw [UInt32.le_iff_toNat_le, UInt32.toNat_ofNatLT, Nat.lt_succ_iff]
    rfl
  rw [bytesOf, Char.utf8Size]
  simp only [hbound]
  split
  · rfl
  · split
    · rfl
    · split <;> rfl

theorem ofSet_single (c : Char) : ofSet (.single c) = stateSize * c.utf8Size := by
  rw [ofSet, ranges_single]
  dsimp only
  rw [if_pos rfl, length_bytesOf]

/-- A row of characters takes one state for each byte. -/
theorem measure_literals (chars : List Char) :
    measure ofSet (.literals chars) = stateSize * max (Line.byteCount chars) 1 := by
  induction chars with
  | nil => rfl
  | cons c rest ih =>
    have hpos : 0 < c.utf8Size := Char.utf8Size_pos c
    cases rest with
    | nil =>
      have hone : measure ofSet (.literals [c]) = ofSet (.single c) := rfl
      rw [hone, ofSet_single, Line.byteCount_cons, Line.byteCount_nil, Nat.add_zero,
        Nat.max_eq_left hpos]
    | cons d rest =>
      have hmore : measure ofSet (.literals (c :: d :: rest)) =
        ofSet (.single c) + measure ofSet (.literals (d :: rest)) := rfl
      have hpos' : 0 < Line.byteCount (d :: rest) := by
        rw [Line.byteCount_cons]
        exact Nat.add_pos_left (Char.utf8Size_pos d) _
      rw [hmore, ofSet_single, ih, Nat.max_eq_left hpos', Line.byteCount_cons c,
        Nat.max_eq_left (by omega), Nat.mul_add]

end Footprint

/-! ## Searching -/

/-- The step over a character. -/
def Step.literal (c : Char) : Step := .consume (.single c)

theorem Plain.steps_literals (chars : List Char) (start : Nat) :
    (literals chars).steps start = chars.map .literal := by
  induction chars generalizing start with
  | nil => rfl
  | cons c rest ih =>
    cases rest with
    | nil => rfl
    | cons d rest =>
      have hmore : (literals (c :: d :: rest)).steps start =
        .literal c :: (literals (d :: rest)).steps (start + 1) := rfl
      rw [hmore, ih]
      rfl

/-- The automaton that looks for a row of characters. -/
def Automaton.literals (chars : List Char) : Automaton :=
  .ofPlain (.group 0 (.literals chars))

namespace Automaton

theorem steps_literals (chars : List Char) :
    (literals chars).steps.toList = .mark 0 :: (chars.map .literal ++ [.mark 1]) := by
  rw [literals, ofPlain, Plain.steps, Plain.steps_literals]
  rfl

variable {input : Array Char}

theorem pass?_single (c : Char) (pos : Nat) :
    pass? input input.size .ahead (.single c) pos =
      if input.toList[pos]? = some c then some (pos + 1) else none := by
  rw [pass?, Array.getElem?_toList]
  by_cases hend : input.size ≤ pos
  · rw [if_pos hend, Array.getElem?_eq_none hend, if_neg (by simp)]
  · rw [if_neg hend]
    cases input[pos]? with
    | none => rfl
    | some d => simp [CharSet.contains]

/-- A row that starts with a character is there if the character is and the rest follows it. -/
theorem cons_isPrefix_drop {c : Char} {rest chars : List Char} {pos : Nat} :
    c :: rest <+: chars.drop pos ↔ chars[pos]? = some c ∧ rest <+: chars.drop (pos + 1) := by
  rcases Nat.lt_or_ge pos chars.length with hlt | hge
  · rw [List.drop_eq_getElem_cons hlt, List.cons_prefix_cons, List.getElem?_eq_getElem hlt,
      Option.some.injEq, eq_comm]
  · rw [List.drop_eq_nil_of_le hge, List.getElem?_eq_none hge]
    simp

/-- **A walk that has come to some character** gets through if the rest of the characters are there.
By induction on the rest, with one step for each character and one for the end of the match. -/
theorem follow_literals {chars rest : List Char} {fuel : Nat} (hfuel : rest.length + 2 ≤ fuel)
    {before : List Char} (hchars : chars = before ++ rest) (pos : Nat) (marks : List (Nat × Nat))
    (visited : Visited) :
    (literals chars).follow input input.size .ahead fuel
        [{ step := before.length + 1, pos, marks }] visited =
      (if rest <+: input.toList.drop pos then
        some { step := chars.length + 2, pos := pos + rest.length,
               marks := (1, pos + rest.length) :: marks }
      else none, visited) := by
  induction rest generalizing before fuel pos with
  | nil =>
    obtain ⟨fuel, rfl⟩ : ∃ left, fuel = left + 2 := ⟨fuel - 2, by omega⟩
    rw [List.append_nil] at hchars
    subst hchars
    have hmark : (literals chars).steps[chars.length + 1]? = some (.mark 1) := by
      rw [← Array.getElem?_toList, steps_literals, List.getElem?_cons_succ]
      simp
    have hend : (literals chars).steps[chars.length + 1 + 1]? = none := by
      rw [← Array.getElem?_toList, steps_literals, List.getElem?_cons_succ]
      simp
    rw [if_pos (List.nil_prefix)]
    rw [follow]
    simp only [hmark]
    rw [follow]
    simp only [hend]
    rfl
  | cons c rest ih =>
    obtain ⟨fuel, rfl⟩ : ∃ left, fuel = left + 1 := ⟨fuel - 1, by omega⟩
    have hstep : (literals chars).steps[before.length + 1]? = some (.consume (.single c)) := by
      rw [← Array.getElem?_toList, steps_literals, List.getElem?_cons_succ, hchars]
      simp [Step.literal]
    rw [follow]
    simp only [hstep, pass?_single, cons_isPrefix_drop]
    by_cases hc : input.toList[pos]? = some c
    · have hbefore : chars = (before ++ [c]) ++ rest := by
        rw [hchars, List.append_assoc]
        rfl
      have hless : rest.length + 2 ≤ fuel := by
        rw [List.length_cons] at hfuel
        omega
      have hrest := ih hless hbefore (pos + 1)
      rw [List.length_append, List.length_singleton] at hrest
      simp only [hc, if_true, true_and]
      rw [hrest, List.length_cons, Nat.add_right_comm pos 1, Nat.add_assoc]
    · simp only [hc, if_false, false_and]
      cases fuel <;> rfl

/-- The walk that has found a row of characters. -/
def found (chars : List Char) (pos : Nat) : Walk :=
  { step := chars.length + 2, pos := pos + chars.length,
    marks := [(1, pos + chars.length), (0, pos)] }

theorem follow_literals_begin (chars : List Char) (input : Array Char) (pos : Nat)
    (visited : Visited) :
    (literals chars).follow input input.size .ahead ((literals chars).enough input)
        [{ pos }] visited =
      (if chars <+: input.toList.drop pos then some (found chars pos) else none, visited) := by
  have hsize : (literals chars).steps.size = chars.length + 2 := by
    rw [← Array.length_toList, steps_literals]
    simp
  obtain ⟨fuel, hfuel, henough⟩ : ∃ fuel, chars.length + 2 ≤ fuel ∧
      (literals chars).enough input = fuel + 1 := by
    have hle : chars.length + 4 ≤ (literals chars).enough input := by
      rw [enough, hsize]
      calc chars.length + 4 ≤ 2 * (chars.length + 2 + 2) := by omega
        _ ≤ 2 * (chars.length + 2 + 2) * (chars.length + 2 + 2) :=
          Nat.le_mul_of_pos_right _ (by omega)
        _ ≤ 2 * (chars.length + 2 + 2) * (chars.length + 2 + 2) * (input.size + 2) :=
          Nat.le_mul_of_pos_right _ (by omega)
    exact ⟨(literals chars).enough input - 1, by omega, by omega⟩
  have hmark : (literals chars).steps[0]? = some (.mark 0) := by
    rw [← Array.getElem?_toList, steps_literals]
    rfl
  rw [henough, follow]
  simp only [hmark]
  exact follow_literals hfuel (List.nil_append chars).symm pos [(0, pos)] visited

/-- **The search for a row of characters** tries one place after the other. -/
theorem search_literals (chars : List Char) (input : Array Char) (start : Nat) :
    (literals chars).search input start =
      ((List.range' start (input.size + 1 - start)).find? fun pos =>
        chars <+: input.toList.drop pos).map (found chars) := by
  have hfrom (left start : Nat) (visited : Visited) :
      (literals chars).searchFrom input left start visited =
        ((List.range' start left).find? fun pos => chars <+: input.toList.drop pos).map
          (found chars) := by
    induction left generalizing start visited with
    | zero => rfl
    | succ left ih =>
      rw [searchFrom, follow_literals_begin, List.range'_succ, List.find?_cons]
      by_cases hhere : chars <+: input.toList.drop start
      · rw [if_pos hhere, decide_eq_true hhere]
        rfl
      · rw [if_neg hhere, decide_eq_false hhere]
        exact ih (start + 1) visited
  exact hfrom _ start _

end Automaton

/-! ## The whole expression -/

theorem Plain.lastGroup_literals (chars : List Char) : (literals chars).lastGroup = 0 := by
  induction chars with
  | nil => rfl
  | cons c rest ih =>
    cases rest with
    | nil => rfl
    | cons d rest =>
      have hmore : (literals (c :: d :: rest)).lastGroup =
        max (literal c).lastGroup (literals (d :: rest)).lastGroup := rfl
      rw [hmore, ih]
      rfl

/-- The regular expression that looks for a row of characters. -/
def literals (chars : List Char) : Regex :=
  { engine := .automaton (.literals chars), groups := 0 }

theorem takesAtMost_literals {chars : List Char} (hsize : Footprint.stateSize * Line.byteCount chars +
      2 * Footprint.stateSize ≤ Footprint.limit) :
    (Plain.group 0 (.literals chars)).takesAtMost Footprint.limit = true := by
  have hmeasure : Footprint.measure Footprint.ofSet (.group 0 (.literals chars)) =
      Footprint.stateSize * max (Line.byteCount chars) 1 + 2 * Footprint.stateSize := by
    rw [Footprint.measure, Footprint.measure_literals]
  have hle : Footprint.stateSize * max (Line.byteCount chars) 1 + 2 * Footprint.stateSize ≤
      Footprint.limit := by
    rcases Nat.le_total (Line.byteCount chars) 1 with hone | hmore
    · rw [Nat.max_eq_right hone]
      decide
    · rw [Nat.max_eq_left hmore]
      exact hsize
  rw [Plain.takesAtMost, hmeasure, decide_eq_true hle, Bool.or_true]

/-- **A row of characters is compiled to an automaton for them**, however they are written, unless
it takes too much room. -/
theorem compile_literals {row : List Item} {chars : List Char}
    (hrow : rowPlain row = .literals chars) :
    compile (Pattern.multilineMark ++ rowText row) =
      if (Plain.group 0 (.literals chars)).takesAtMost Footprint.limit then .ok (literals chars)
      else .error .tooLarge := by
  rw [compile_row, hrow, Plain.lastGroup_literals]
  rfl

/-- A match spans the characters and has no groups. -/
theorem search_literals (chars : List Char) (input : Array Char) (start budget : Nat) :
    (literals chars).search input start budget =
      .ok (((List.range' start (input.size + 1 - start)).find? fun pos =>
        chars <+: input.toList.drop pos).map fun pos => [some ⟨pos, pos + chars.length⟩]) := by
  rw [search]
  dsimp only [literals]
  rw [Automaton.search_literals, Option.map_map]
  rfl

end Regex

end ScopeScanner
