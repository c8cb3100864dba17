import ScopeScanner.Pattern.Basic

/-!
# Reading what has been written

What the reader makes of a text depends on what follows it only if that could be skipped or be taken
for a quantifier. A text that sets off (`Regex.Sets`) is neither. This is all that an item, a group or
a whole branch has to know of what stands behind it.
-/

namespace ScopeScanner.Regex

/-- A text that is not skipped and does not start with a quantifier. -/
structure Sets (text : List Char) : Prop where
  shown : skipBlanks false text = .ok text
  first : ∀ c ∈ text.head?, c ∉ ['?', '*', '+', '\x7b']

/-- What the reader remembers behind the mark for lines. -/
def Progress.lines : Progress := { flags := { multiline := true } }

/-- Blanks stand for themselves, and nothing has referred to a group. -/
structure Progress.Simple (progress : Progress) : Prop where
  strict : progress.flags.extended = false
  unreferenced : progress.referenced = []
  unnumbered : progress.numericReference = false

theorem Progress.Simple.lines : Progress.lines.Simple := ⟨rfl, rfl, rfl⟩

/-! ## Texts that set off -/

theorem Sets.nil : Sets [] where
  shown := rfl
  first := by
    intro c hc
    cases hc

/-- Only a parenthesis starts something that is skipped. -/
theorem skipBlanks_cons {c : Char} (h : c ≠ '(') (rest : List Char) :
    skipBlanks false (c :: rest) = .ok (c :: rest) := by
  rw [skipBlanks, Skip.run]
  · rfl
  · rintro rest' rfl
    exact absurd rfl h

/-- Few characters are quantifiers. -/
theorem Sets.cons {c : Char} (h : c ∉ ['(', '?', '*', '+', '\x7b']) (rest : List Char) :
    Sets (c :: rest) where
  shown := skipBlanks_cons (fun heq => h (heq ▸ List.mem_cons_self)) rest
  first := by
    rintro d ⟨⟩ hmem
    exact h (List.mem_cons_of_mem _ hmem)

variable {progress : Progress} {rest : List Char}

theorem Sets.skip (hrest : Sets rest) (hsimple : progress.Simple) : progress.skip rest = .ok rest := by
  rw [Progress.skip, hsimple.strict]
  exact hrest.shown

theorem Sets.readQuantifier? (hrest : Sets rest) : readQuantifier? progress rest = none := by
  rw [Regex.readQuantifier?]
  all_goals
    rintro rest' rfl
    exact absurd (hrest.first _ rfl) (by decide)

/-- Nothing is repeated if no quantifier follows. -/
theorem quantify_of_sets (hrest : Sets rest) (hsimple : progress.Simple) (node : Node) :
    quantify progress node rest = .ok (node, rest, progress) := by
  rw [quantify, hrest.skip hsimple]
  dsimp only [bind, Except.bind]
  rw [hrest.readQuantifier?]
  rfl

/-- An atom is a piece of its own if no quantifier follows. -/
theorem readPiece_of_atom {text : List Char} {node : Node} {fuel depth : Nat} (hrest : Sets rest)
    (hsimple : progress.Simple)
    (hread : readAtom fuel depth progress text = .ok (node, rest, progress)) :
    readPiece (fuel + 1) depth progress text = .ok (node, rest, progress) := by
  rw [readPiece, hread]
  exact quantify_of_sets hrest hsimple node

/-! ## Characters -/

/-- The characters that mean something outside brackets. -/
def operators : List Char :=
  ['\\', '.', '^', '$', '(', ')', '[', '|', '?', '*', '+', '\x7b']

/-- A character without a meaning is read as itself. -/
theorem readAtom_plain (hsimple : progress.Simple) {c : Char} (hplain : c ∉ operators)
    (fuel depth : Nat) (rest : List Char) :
    readAtom (fuel + 1) depth progress (c :: rest) = .ok (progress.literal c, rest, progress) := by
  have hskip : progress.skip (c :: rest) = .ok (c :: rest) := by
    rw [Progress.skip, hsimple.strict]
    refine skipBlanks_cons ?_ rest
    rintro rfl
    exact absurd hplain (by decide)
  rw [readAtom, hskip]
  dsimp only [bind, Except.bind]
  split
  all_goals first | rfl | exact absurd hplain (by decide)

/-- An escape is read after its backslash. -/
theorem readAtom_escape (hsimple : progress.Simple) (fuel depth : Nat) (text : List Char) :
    readAtom (fuel + 1) depth progress ('\\' :: text) = (do
      let (escape, rest) ← readEscape false progress.flags.ignoreCase text
      let (node, progress) ← progress.escape escape
      return (node, rest, progress)) := by
  rw [readAtom, (Sets.cons (by decide) text).skip hsimple, hsimple.strict]
  rfl

end ScopeScanner.Regex
