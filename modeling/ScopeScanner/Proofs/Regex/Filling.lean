import ScopeScanner.Proofs.Regex.Form

/-!
# Filling in forms

A form whose holes have been filled in with texts, taken literally, is a regular expression like any
other. It is read back as a tree with the traits of the form, whatever the texts are: a text becomes a
row of characters among the items of its row, and characters take nothing away from what is known of the
other items.

* **`Regex.readBranch_parts`** and **`Regex.readFurther_others`** follow the form down to its atoms. What
  has been read before, and what is left to be read, may be anything that the reader can meet there.
* **`Regex.compile_form`**: a form with sound traits compiles, up to limits.
-/

namespace ScopeScanner.Regex

open Escaping (quote)

variable {ι : Type} (texts : ι → List Char)

/-- What is written into a hole to have its text taken literally. -/
def literally (index : ι) : List Char :=
  quote (texts index)

theorem length_le_quote (text : List Char) : text.length ≤ (quote text).length := by
  have hrow := length_le_rowText (text.map .ofChar)
  rwa [rowText_map_ofChar, List.length_map] at hrow

/-! ## Where parts set off -/

theorem Sets.quote (text : List Char) {rest : List Char} (hrest : Sets rest) :
    Sets (quote text ++ rest) := by
  cases text with
  | nil => exact hrest
  | cons c text =>
    rw [← List.singleton_append, Escaping.quote_append, List.append_assoc]
    exact (Item.ofChar c).sets _

theorem Sets.atom (atom : Atom) (rest : List Char) : Sets (atom.text ++ rest) := by
  cases atom with
  | plain c hplain =>
    have hquantifiers : ['(', '?', '*', '+', '\x7b'].all operators.contains = true := by decide
    exact .cons (fun hmem => hplain (List.contains_iff_mem.mp
      (List.all_eq_true.mp hquantifiers c hmem))) rest
  | _ => exact .cons (by decide) _

theorem Atom.length_text_pos (atom : Atom) : 0 < atom.text.length := by
  cases atom <;> exact Nat.succ_pos _

mutual

theorem Part.sets : (part : Part ι) → {rest : List Char} → Sets rest →
    Sets (part.write (literally texts) ++ rest)
  | .atom atom quantifier, rest, _ => by
    rw [Part.write, List.append_assoc]
    exact .atom atom _
  | .hole index, rest, hrest => by
    rw [Part.write]
    exact .quote (texts index) hrest
  | .flags switches _, rest, _ => by
    rw [Part.write, List.cons_append, List.cons_append, List.append_assoc, List.singleton_append]
    exact .switches switches rest
  | .parens parens first others quantifier, rest, _ => by
    have hclosing : Sets (')' :: (quantifierText quantifier ++ rest)) := .cons (by decide) _
    have hinner := sets_row first (sets_others others hclosing)
    have hwhole := Sets.parens parens hinner
    rw [Part.write]
    simpa only [List.cons_append, List.append_assoc] using hwhole

theorem sets_row : (row : List (Part ι)) → {rest : List Char} → Sets rest →
    Sets (writeRow (literally texts) row ++ rest)
  | [], _, hrest => hrest
  | part :: parts, rest, hrest => by
    rw [writeRow, List.append_assoc]
    exact part.sets (sets_row parts hrest)

theorem sets_others : (rows : List (List (Part ι))) → {rest : List Char} → Sets rest →
    Sets (writeOthers (literally texts) rows ++ rest)
  | [], _, hrest => hrest
  | row :: rows, rest, _ => by
    rw [writeOthers, List.cons_append]
    exact .cons (by decide) _

end

/-! ## Reading rows -/

/-- The text has been read up to `rest`, as a tree with the given traits. -/
structure Reads (traits : Traits) (rest : List Char) (result : Node × List Char × Progress) : Prop where
  rest : result.2.1 = rest
  simple : result.2.2.Simple
  fits : result.1.Fits traits

/-- A text with which a row of parts ends. -/
def EndsRow (rest : List Char) : Prop :=
  ∀ c ∈ rest.head?, c ∈ [')', '|']

/-- A text with which a choice ends. -/
def EndsChoice (rest : List Char) : Prop :=
  ∀ c ∈ rest.head?, c = ')'

section Reading

variable {traits : Traits} {progress : Progress} {items : List Node} {rest : List Char} {fuel : Nat}

theorem EndsRow.sets (h : EndsRow rest) : Sets rest := by
  cases rest with
  | nil => exact .nil
  | cons c rest =>
    refine .cons (fun hmem => ?_) rest
    have hc := h c rfl
    simp only [List.mem_cons, List.not_mem_nil, or_false] at hc
    rcases hc with rfl | rfl
    all_goals exact absurd hmem (by decide)

theorem EndsChoice.endsRow (h : EndsChoice rest) : EndsRow rest := by
  intro c hc
  rw [h c hc]
  exact List.mem_cons_self

theorem endsRow_others (rows : List (List (Part ι))) (h : EndsChoice rest) :
    EndsRow (writeOthers (literally texts) rows ++ rest) := by
  cases rows with
  | nil => exact h.endsRow
  | cons row rows =>
    rintro c ⟨⟩
    decide

/-- A row of parts is over where nothing more can be read. -/
theorem readBranch_end (hsimple : progress.Simple) (hrest : EndsRow rest) (hfuel : 3 ≤ fuel)
    (depth : Nat) :
    readBranch fuel depth progress items rest = .ok (.ofItems items.reverse, rest, progress) := by
  obtain ⟨fuel, rfl⟩ : ∃ left, fuel = left + 3 := ⟨fuel - 3, by omega⟩
  cases rest with
  | nil =>
    rw [readBranch]
    rfl
  | cons c rest =>
    have hatom : readAtom (fuel + 1) depth progress (c :: rest) = .ok (.empty, c :: rest, progress) := by
      rw [readAtom, hrest.sets.skip hsimple]
      have hc := hrest c rfl
      simp only [List.mem_cons, List.not_mem_nil, or_false] at hc
      rcases hc with rfl | rfl
      all_goals rfl
    rw [readBranch, readPiece_of_atom hrest.sets hsimple hatom]
    dsimp only [bind, Except.bind]
    rw [if_pos rfl]
    rfl

/-- One more part of a row is read. -/
theorem readBranch_piece {text : List Char} {depth : Nat} {later : Traits}
    (hpiece : UpToLimits (Reads later rest) (readPiece fuel depth progress text))
    (hshorter : rest.length < text.length) (hitems : Node.FitAll traits items)
    {Wanted : Node × List Char × Progress → Prop}
    (hnext : ∀ progress items, progress.Simple → Node.FitAll (traits.both later) items →
      UpToLimits Wanted (readBranch fuel depth progress items rest)) :
    UpToLimits Wanted (readBranch (fuel + 1) depth progress items text) := by
  have hsome : text.isEmpty = false := by
    cases text with
    | nil => cases hshorter
    | cons c text => rfl
  rw [readBranch, hsome, if_neg Bool.false_ne_true]
  refine hpiece.bind ?_
  rintro ⟨node, after, progress⟩ ⟨hrest, hsimple, hfits⟩
  obtain rfl : after = rest := hrest
  dsimp only
  rw [if_neg (Nat.ne_of_lt hshorter)]
  exact hnext progress _ hsimple (hitems.cons hfits)

/-- **A text taken literally** is read as one item for each character, and the row keeps its traits. By
induction on the text. -/
theorem readBranch_quote (text : List Char) {depth : Nat} (hsimple : progress.Simple) (hrest : Sets rest)
    (hitems : Node.FitAll traits items) (hfuel : text.length + 3 ≤ fuel)
    {Wanted : Node × List Char × Progress → Prop}
    (hnext : ∀ fuel' progress items, fuel ≤ fuel' + text.length → progress.Simple →
      Node.FitAll traits items → UpToLimits Wanted (readBranch fuel' depth progress items rest)) :
    UpToLimits Wanted (readBranch fuel depth progress items (quote text ++ rest)) := by
  induction text generalizing fuel progress items with
  | nil => exact hnext fuel progress items (Nat.le_refl _) hsimple hitems
  | cons c text ih =>
    rw [List.length_cons] at hfuel
    obtain ⟨fuel, rfl⟩ : ∃ left, fuel = left + 3 := ⟨fuel - 3, by omega⟩
    have htext : quote (c :: text) ++ rest = quote [c] ++ (quote text ++ rest) := by
      rw [← List.singleton_append, Escaping.quote_append, List.append_assoc]
    have hsets : Sets (quote text ++ rest) := .quote text hrest
    have hpiece : UpToLimits (Reads .nothing (quote text ++ rest))
        (readPiece (fuel + 2) depth progress (quote [c] ++ (quote text ++ rest))) := by
      rw [readPiece_of_atom hsets hsimple (readAtom_quote hsimple fuel depth c _)]
      exact .ok ⟨rfl, hsimple, .ofSet _⟩
    rw [htext]
    refine readBranch_piece hpiece ?_ hitems ?_
    · have hpos : 0 < (quote [c]).length := List.length_pos_iff.mpr (Item.ofChar c).nonempty
      simp only [List.length_append]
      omega
    · intro progress items hsimple hitems
      rw [Traits.both_nothing] at hitems
      refine ih hsimple hitems (by omega) fun fuel' progress items hleft hsimple hitems => ?_
      exact hnext fuel' progress items (by rw [List.length_cons]; omega) hsimple hitems

/-! ## Parentheses -/

/-- Content is read up to the parenthesis that closes it, and becomes one node. -/
theorem readContent {depth : Nat} {text : List Char} {outer : Traits}
    (hread : UpToLimits (Reads traits (')' :: rest)) (readAlternatives fuel depth progress text))
    {make : Node → Node} (hmake : ∀ body, body.Fits traits → (make body).Fits outer) :
    UpToLimits (Reads outer rest) (do
      let (body, text, progress) ← readAlternatives fuel depth progress text
      return (make body, ← readClosing progress text, progress)) := by
  refine hread.bind ?_
  rintro ⟨body, after, inner⟩ ⟨hafter, hinner, hfits⟩
  obtain rfl : after = ')' :: rest := hafter
  dsimp only
  rw [readClosing_closing hinner]
  exact .ok ⟨rfl, hinner, hmake body hfits⟩

/-- **A parenthesis is read with its content**, unless it nests too deep. The content may be read with
other flags and more groups than what surrounds it. -/
theorem readGroup_parens (parens : Parens) (hsimple : progress.Simple) {content : List Char}
    (hcontent : Sets (content ++ ')' :: rest)) {depth : Nat}
    (hsound : (traits.within parens).sound = true)
    (hread : ∀ progress, progress.Simple → UpToLimits (Reads traits (')' :: rest))
      (readAlternatives fuel depth progress (content ++ ')' :: rest))) :
    UpToLimits (Reads (traits.within parens) rest)
      (readGroup (fuel + 1) depth progress (parens.mark ++ (content ++ ')' :: rest))) := by
  rw [readGroup]
  split
  · exact .nestedTooDeep
  · rw [skip_mark parens hsimple hcontent]
    dsimp only [bind, Except.bind]
    rw [readOpening_mark parens hsimple.strict hcontent]
    cases parens with
    | capture | named name =>
      dsimp only [Parens.opening]
      refine UpToLimits.bind (hread _ ?_) ?_
      · exact ⟨hsimple.strict, hsimple.unreferenced, hsimple.unnumbered⟩
      rintro ⟨body, after, inner⟩ ⟨hafter, hinner, hfits⟩
      obtain rfl : after = ')' :: rest := hafter
      dsimp only
      rw [readClosing_closing hinner]
      exact .ok ⟨rfl, ⟨hinner.strict, hinner.unreferenced, hinner.unnumbered⟩, hfits.group _⟩
    | flagged switches =>
      dsimp only [Parens.opening]
      refine UpToLimits.bind (hread _ ?_) ?_
      · exact ⟨switches.strict_flags hsimple.strict, hsimple.unreferenced, hsimple.unnumbered⟩
      rintro ⟨body, after, inner⟩ ⟨hafter, hinner, hfits⟩
      obtain rfl : after = ')' :: rest := hafter
      exact .ok ⟨rfl, ⟨hsimple.strict, hinner.unreferenced, hinner.unnumbered⟩, hfits⟩
    | atomic => exact readContent (hread _ hsimple) fun _ hfits => hfits.atomic
    | ahead negated => exact readContent (hread _ hsimple) fun _ hfits => hfits.ahead negated
    | behind negated => exact readContent (hread _ hsimple) fun _ hfits => hfits.behind negated hsound

theorem readAtom_parens (parens : Parens) (hsimple : progress.Simple) {content : List Char}
    (hcontent : Sets (content ++ ')' :: rest)) {depth : Nat}
    (hsound : (traits.within parens).sound = true)
    (hread : ∀ progress, progress.Simple → UpToLimits (Reads traits (')' :: rest))
      (readAlternatives fuel (depth + 1) progress (content ++ ')' :: rest))) :
    UpToLimits (Reads (traits.within parens) rest)
      (readAtom (fuel + 2) depth progress ('(' :: (parens.mark ++ (content ++ ')' :: rest)))) := by
  rw [readAtom, (Sets.parens parens hcontent).skip hsimple]
  exact readGroup_parens parens hsimple hcontent hsound hread

/-- Flags are read as nothing, and are kept for what follows. -/
theorem readAtom_switches (switches : Switches) (hsome : switches.text ≠ [])
    (hsimple : progress.Simple) (fuel depth : Nat) :
    UpToLimits (Reads .nothing rest)
      (readAtom (fuel + 2) depth progress ('(' :: '?' :: (switches.text ++ ')' :: rest))) := by
  rw [readAtom_flags switches hsome hsimple]
  split
  · exact .nestedTooDeep
  · exact .ok ⟨rfl, ⟨switches.strict_flags hsimple.strict, hsimple.unreferenced, hsimple.unnumbered⟩,
      .empty⟩

/-! ## Choices -/

/-- A choice is read row by row. The other rows are read by `readFurther`. -/
theorem readAlternatives_choice {first : Traits} {depth : Nat} {text : List Char}
    (rows : List (List (Part ι))) (hrest : EndsChoice rest)
    (hfirst : UpToLimits (Reads first (writeOthers (literally texts) rows ++ rest))
      (readBranch fuel depth progress [] text))
    (hothers : ∀ progress branch, rows ≠ [] → progress.Simple → branch.Fits first →
      UpToLimits (Reads (choiceTraits first rows) rest)
        (readFurther fuel depth progress [branch] (writeOthers (literally texts) rows ++ rest))) :
    UpToLimits (Reads (choiceTraits first rows) rest)
      (readAlternatives (fuel + 1) depth progress text) := by
  rw [readAlternatives]
  refine hfirst.bind ?_
  rintro ⟨branch, after, progress⟩ ⟨hafter, hsimple, hfits⟩
  obtain rfl : after = writeOthers (literally texts) rows ++ rest := hafter
  dsimp only
  rw [(endsRow_others texts rows hrest).sets.skip hsimple]
  dsimp only [bind, Except.bind]
  cases rows with
  | nil =>
    have hnumber : progress.numericReference = false := hsimple.unnumbered
    rw [writeOthers, List.nil_append, choiceTraits, hnumber]
    split
    · exact absurd (hrest '|' rfl) (by decide)
    · exact .ok ⟨rfl, hsimple, hfits⟩
  | cons row rows =>
    exact hothers progress branch (List.cons_ne_nil _ _) hsimple hfits

end Reading

theorem Traits.sound_of_choice {first : Traits} {rows : List (List (Part ι))}
    (h : (choiceTraits first rows).sound = true) :
    first.sound = true ∧ ∀ row ∈ rows, (rowTraits row).sound = true := by
  induction rows generalizing first with
  | nil => exact ⟨h, List.forall_mem_nil _⟩
  | cons row rows ih =>
    rw [choiceTraits] at h
    obtain ⟨heither, hrows⟩ := ih h
    obtain ⟨hfirst, hrow⟩ := Bool.and_eq_true_iff.mp heither
    exact ⟨hfirst, List.forall_mem_cons.mpr ⟨hrow, hrows⟩⟩

/-- What is in parentheses that are sound is sound. -/
theorem Traits.sound_of_within {traits : Traits} {parens : Parens}
    (h : (traits.within parens).sound = true) : traits.sound = true := by
  cases parens with
  | behind negated => exact (Bool.and_eq_true_iff.mp h).1
  | _ => exact h

theorem Traits.sound_of_repeated {traits : Traits} {quantifier : Option Quantifier}
    (h : (traits.repeated quantifier).sound = true) : traits.sound = true := by
  cases quantifier with
  | none => exact h
  | some quantifier => exact (Bool.and_eq_true_iff.mp h).1

/-- What follows an atom or a parenthesis is not taken for a part of it. -/
theorem follows_quantifier (quantifier : Option Quantifier) {rest : List Char} (hrest : Sets rest) :
    Follows (quantifierText quantifier ++ rest) := by
  cases quantifier with
  | none => exact hrest.follows
  | some quantifier => exact quantifier.follows rest

theorem readAtom_atom (atom : Atom) {progress : Progress} (hsimple : progress.Simple) {rest : List Char}
    (hrest : Follows rest) (fuel depth : Nat) :
    UpToLimits (Reads atom.traits rest) (readAtom (fuel + 1) depth progress (atom.text ++ rest)) := by
  obtain ⟨node, hread, hatom, hplain⟩ := atom.exists_read hsimple hrest fuel depth
  rw [hread]
  exact .ok ⟨rfl, hsimple, hatom.fits hplain⟩

/-- An atom or a parenthesis is read with its quantifier. -/
theorem readPiece_quantified {traits : Traits} {progress : Progress} {text rest : List Char}
    {fuel depth : Nat} {quantifier : Option Quantifier} (hrest : Sets rest)
    (hsound : (traits.repeated quantifier).sound = true)
    (hread : UpToLimits (Reads traits (quantifierText quantifier ++ rest))
      (readAtom fuel depth progress text)) :
    UpToLimits (Reads (traits.repeated quantifier) rest) (readPiece (fuel + 1) depth progress text) := by
  rw [readPiece]
  refine hread.bind ?_
  rintro ⟨node, after, progress⟩ ⟨hafter, hsimple, hfits⟩
  obtain rfl : after = quantifierText quantifier ++ rest := hafter
  dsimp only
  cases quantifier with
  | none =>
    rw [quantifierText, List.nil_append, quantify_of_sets hrest hsimple]
    exact .ok ⟨rfl, hsimple, hfits⟩
  | some quantifier =>
    have hfirm := (Bool.and_eq_true_iff.mp hsound).2
    rw [quantifierText, quantifier.quantify_text hsimple hrest (hfits.firm hfirm)]
    exact .ok ⟨rfl, hsimple, hfits.repeated quantifier _⟩

mutual

/-- **A row of parts is read** as items with the traits of the row, whatever the texts are. By induction
on the parts; the items in front of them have been read already. -/
theorem readBranch_parts : (parts : List (Part ι)) → (rowTraits parts).sound = true →
    ∀ {fuel depth : Nat} {progress : Progress} {traits : Traits} {items : List Node} {rest : List Char},
      progress.Simple → Node.FitAll traits items → EndsRow rest →
      8 * (writeRow (literally texts) parts).length + 3 ≤ fuel →
      UpToLimits (Reads (traits.both (rowTraits parts)) rest)
        (readBranch fuel depth progress items (writeRow (literally texts) parts ++ rest))
  | [], _, fuel, depth, progress, traits, items, rest, hsimple, hitems, hrest, hfuel => by
    rw [writeRow, List.nil_append, readBranch_end hsimple hrest (Nat.le_of_add_left_le hfuel) depth,
      rowTraits, Traits.both_nothing]
    exact .ok ⟨rfl, hsimple, hitems.ofItems⟩
  | .atom atom quantifier :: parts, hsound, fuel, depth, progress, traits, items, rest, hsimple, hitems,
      hrest, hfuel => by
    obtain ⟨hatom, hparts⟩ := Bool.and_eq_true_iff.mp hsound
    have hsets := sets_row texts parts hrest.sets
    have hpos := atom.length_text_pos
    rw [writeRow, Part.write, List.length_append, List.length_append] at hfuel
    obtain ⟨fuel, rfl⟩ : ∃ left, fuel = left + 3 := ⟨fuel - 3, by omega⟩
    have hpiece := readPiece_quantified hsets hatom
      (readAtom_atom atom hsimple (follows_quantifier quantifier hsets) fuel depth)
    rw [writeRow, Part.write, rowTraits, ← Traits.both_assoc, List.append_assoc, List.append_assoc]
    refine readBranch_piece hpiece ?_ hitems fun progress items hsimple hitems => ?_
    · simp only [List.length_append]
      omega
    · exact readBranch_parts parts hparts hsimple hitems hrest (by omega)
  | .hole index :: parts, hsound, fuel, depth, progress, traits, items, rest, hsimple, hitems, hrest,
      hfuel => by
    have hlength := length_le_quote (texts index)
    rw [rowTraits, Part.traits, Traits.nothing_both] at hsound
    rw [writeRow, Part.write, List.length_append, literally] at hfuel
    rw [writeRow, Part.write, rowTraits, Part.traits, Traits.nothing_both, List.append_assoc, literally]
    refine readBranch_quote (texts index) hsimple (sets_row texts parts hrest.sets) hitems (by omega) ?_
    intro fuel' progress items hleft hsimple hitems
    exact readBranch_parts parts hsound hsimple hitems hrest (by omega)
  | .flags switches hsome :: parts, hsound, fuel, depth, progress, traits, items, rest, hsimple, hitems,
      hrest, hfuel => by
    have hsets := sets_row texts parts hrest.sets
    rw [rowTraits, Part.traits, Traits.nothing_both] at hsound
    rw [writeRow, Part.write] at hfuel
    simp only [List.length_cons, List.length_append] at hfuel
    obtain ⟨fuel, rfl⟩ : ∃ left, fuel = left + 4 := ⟨fuel - 4, by omega⟩
    have htext : writeRow (literally texts) (.flags switches hsome :: parts) ++ rest =
        '(' :: '?' :: (switches.text ++ ')' :: (writeRow (literally texts) parts ++ rest)) := by
      simp only [writeRow, Part.write, List.cons_append, List.append_assoc, List.nil_append]
    have hsilent : (Traits.nothing.repeated none).sound = true := rfl
    have hpiece := readPiece_quantified hsets hsilent
      (readAtom_switches switches hsome hsimple fuel depth)
    rw [htext, rowTraits, Part.traits, Traits.nothing_both]
    refine readBranch_piece hpiece ?_ hitems fun progress items hsimple hitems => ?_
    · simp only [List.length_cons, List.length_append]
      omega
    · rw [Traits.repeated, Traits.both_nothing] at hitems
      exact readBranch_parts parts hsound hsimple hitems hrest (by omega)
  | .parens parens first others quantifier :: parts, hsound, fuel, depth, progress, traits, items, rest,
      hsimple, hitems, hrest, hfuel => by
    obtain ⟨hpart, hparts⟩ := Bool.and_eq_true_iff.mp hsound
    have hwithin := Traits.sound_of_repeated hpart
    have hchoice := Traits.sound_of_within hwithin
    have hfirst := (Traits.sound_of_choice hchoice).1
    have hsets := sets_row texts parts hrest.sets
    rw [writeRow, Part.write] at hfuel
    simp only [List.length_cons, List.length_append] at hfuel
    -- five calls lead from the row around the parenthesis to the first row in it
    obtain ⟨fuel, rfl⟩ : ∃ left, fuel = left + 5 := ⟨fuel - 5, by omega⟩
    -- what follows the closing parenthesis, and what stands between the two
    let after := quantifierText quantifier ++ (writeRow (literally texts) parts ++ rest)
    let content := writeRow (literally texts) first ++ writeOthers (literally texts) others
    have htext : writeRow (literally texts) (.parens parens first others quantifier :: parts) ++ rest =
        '(' :: (parens.mark ++ (content ++ ')' :: after)) := by
      simp only [writeRow, Part.write, content, after, List.cons_append, List.append_assoc]
    have hends : EndsChoice (')' :: after) := by
      rintro c ⟨⟩
      rfl
    have hcontent : Sets (content ++ ')' :: after) := by
      rw [List.append_assoc]
      exact sets_row texts first (sets_others texts others hends.endsRow.sets)
    have hread (progress : Progress) (hsimple : progress.Simple) :
        UpToLimits (Reads (choiceTraits (rowTraits first) others) (')' :: after))
          (readAlternatives (fuel + 1) (depth + 1) progress (content ++ ')' :: after)) := by
      have hrow : UpToLimits (Reads (Traits.nothing.both (rowTraits first))
          (writeOthers (literally texts) others ++ ')' :: after))
          (readBranch fuel (depth + 1) progress [] (writeRow (literally texts) first ++
            (writeOthers (literally texts) others ++ ')' :: after))) :=
        readBranch_parts first hfirst hsimple .nil (endsRow_others texts others hends) (by omega)
      rw [Traits.nothing_both] at hrow
      rw [List.append_assoc]
      refine readAlternatives_choice texts others hends hrow fun progress branch hsome hsimple hfits => ?_
      exact readFurther_others others hchoice hsimple (.one hfits) (List.cons_ne_nil _ _)
        (fun hnil => absurd hnil hsome) hends (by omega)
    have hpiece := readPiece_quantified hsets hpart
      (readAtom_parens parens hsimple hcontent hwithin hread)
    rw [htext, rowTraits, ← Traits.both_assoc, Part.traits]
    refine readBranch_piece hpiece ?_ hitems fun progress items hsimple hitems => ?_
    · simp only [after, List.length_cons, List.length_append]
      omega
    · exact readBranch_parts parts hparts hsimple hitems hrest (by omega)

/-- **The further rows of a choice are read**. By induction on the rows; the branches in front of them
have been read already. -/
theorem readFurther_others : (rows : List (List (Part ι))) →
    ∀ {fuel depth : Nat} {progress : Progress} {traits : Traits} {branches : List Node}
      {rest : List Char},
      (choiceTraits traits rows).sound = true → progress.Simple → Node.FitEach traits branches →
      branches ≠ [] → (rows = [] → 2 ≤ branches.length ∧ traits.rigid = false) → EndsChoice rest →
      8 * (writeOthers (literally texts) rows).length + 1 ≤ fuel →
      UpToLimits (Reads (choiceTraits traits rows) rest)
        (readFurther fuel depth progress branches (writeOthers (literally texts) rows ++ rest))
  | [], fuel, depth, progress, traits, branches, rest, _, hsimple, hbranches, _, hmany, hrest, hfuel => by
    obtain ⟨fuel, rfl⟩ : ∃ left, fuel = left + 1 := ⟨fuel - 1, by omega⟩
    obtain ⟨hlength, hwide⟩ := hmany rfl
    rw [writeOthers, List.nil_append, choiceTraits, readFurther]
    · exact .ok ⟨rfl, hsimple, hbranches.ofBranches hlength hwide⟩
    · rintro after rfl
      exact absurd (hrest '|' rfl) (by decide)
  | row :: rows, fuel, depth, progress, traits, branches, rest, hsound, hsimple, hbranches, hsome, _,
      hrest, hfuel => by
    have hrow : (rowTraits row).sound = true :=
      (Traits.sound_of_choice hsound).2 row List.mem_cons_self
    have hends := endsRow_others texts rows hrest
    rw [writeOthers, List.length_cons, List.length_append] at hfuel
    obtain ⟨fuel, rfl⟩ : ∃ left, fuel = left + 1 := ⟨fuel - 1, by omega⟩
    rw [writeOthers, List.cons_append, List.append_assoc, readFurther]
    dsimp only
    have hbranch : UpToLimits (Reads (Traits.nothing.both (rowTraits row))
        (writeOthers (literally texts) rows ++ rest)) (readBranch fuel depth progress []
          (writeRow (literally texts) row ++ (writeOthers (literally texts) rows ++ rest))) :=
      readBranch_parts row hrow hsimple .nil hends (by omega)
    rw [Traits.nothing_both] at hbranch
    refine hbranch.bind ?_
    rintro ⟨branch, after, progress⟩ ⟨hafter, hsimple, hfits⟩
    obtain rfl : after = writeOthers (literally texts) rows ++ rest := hafter
    dsimp only
    rw [hends.sets.skip hsimple]
    rw [choiceTraits] at hsound ⊢
    refine readFurther_others rows hsound hsimple (hbranches.cons hfits) (List.cons_ne_nil _ _) ?_ hrest
      (by omega)
    intro _
    have hpos := List.length_pos_iff.mpr hsome
    rw [List.length_cons]
    exact ⟨by omega, rfl⟩

end

/-! ## Whole forms -/

variable {form : Form ι}

/-- **A sound form is read as a sound tree**, unless it nests too deep. -/
theorem readExpression_form (hsound : form.isSound = true) :
    UpToLimits (fun expression => expression.node.Sound expression.referenced)
      (readExpression (Pattern.multilineMark ++ form.write (literally texts))) := by
  have hends : EndsChoice [] := by
    rintro c ⟨⟩
  have hothers := endsRow_others texts form.others hends
  have hlength : (form.write (literally texts)).length = (writeRow (literally texts) form.first).length +
      (writeOthers (literally texts) form.others).length := List.length_append
  have hshorter : (form.write (literally texts)).length <
      (Pattern.multilineMark ++ form.write (literally texts)).length := by
    rw [List.length_append]
    exact Nat.lt_add_of_pos_left (by decide)
  -- the mark is read first, and leaves no item behind
  have hfirst : UpToLimits
      (Reads (rowTraits form.first) (writeOthers (literally texts) form.others ++ []))
      (readBranch (8 * (Pattern.multilineMark ++ form.write (literally texts)).length + 15) 0 {} []
        (Pattern.multilineMark ++ form.write (literally texts))) := by
    have hsets : Sets (form.write (literally texts)) := by
      rw [Form.write, ← List.append_nil (writeOthers (literally texts) form.others)]
      exact sets_row texts form.first hothers.sets
    have hrow : UpToLimits (Reads (Traits.nothing.both (rowTraits form.first))
        (writeOthers (literally texts) form.others ++ []))
        (readBranch (8 * (Pattern.multilineMark ++ form.write (literally texts)).length + 14) 0 .lines []
          (writeRow (literally texts) form.first ++ (writeOthers (literally texts) form.others ++ []))) :=
      readBranch_parts texts form.first (Traits.sound_of_choice hsound).1 .lines .nil hothers (by omega)
    rw [Traits.nothing_both, List.append_nil] at hrow
    rw [readBranch, readPiece_mark _ _ hsets (by decide), List.append_nil]
    dsimp only [bind, Except.bind]
    rw [if_neg (Nat.ne_of_lt hshorter)]
    exact hrow
  have hchoice := readAlternatives_choice texts form.others hends hfirst
    fun progress branch hsome hsimple hfits =>
      readFurther_others texts form.others hsound hsimple (.one hfits) (List.cons_ne_nil _ _)
        (fun hnil => absurd hnil hsome) hends (by omega)
  rw [readExpression]
  refine hchoice.bind ?_
  rintro ⟨node, after, progress⟩ ⟨hafter, hsimple, hfits⟩
  obtain rfl : after = [] := hafter
  have hnone : progress.referenced = [] := hsimple.unreferenced
  dsimp only
  rw [hnone]
  exact .ok hfits.sound

/-- **A sound form compiles** whatever texts are filled in, up to limits. -/
theorem compile_form (hsound : form.isSound = true) :
    UpToLimits (fun _ => True) (compile (Pattern.multilineMark ++ form.write (literally texts))) :=
  compile_upToLimits (readExpression_form texts hsound)

end ScopeScanner.Regex
