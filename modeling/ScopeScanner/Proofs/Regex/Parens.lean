import ScopeScanner.Proofs.Regex.Reading

/-!
# Parentheses as they are written

What stands right behind an opening parenthesis says how its content is to be taken
(`Regex.readOpening_mark`). Flags are switched on and off by their letters, either for the content of a
parenthesis or, in a parenthesis of their own, for what comes after it (`Regex.readAtom_flags`).
-/

namespace ScopeScanner.Regex

/-! ## Flags -/

/-- The letters of the flags that can be switched on or off. Blanks stand for themselves throughout. -/
def flagLetters (on : Bool) : List Char :=
  if on then ['i', 'm', 's', 'U', 'u'] else ['i', 'm', 's', 'U', 'x']

/-- Flags that are switched on, and flags that are switched off after that. -/
structure Switches where
  on : List Char := []
  off : List Char := []
  onAllowed : on.all (flagLetters true).contains = true := by decide
  offAllowed : off.all (flagLetters false).contains = true := by decide

/-- The flags with some of them switched. -/
def Flags.switched (flags : Flags) (on : Bool) (letters : List Char) : Flags :=
  letters.foldl (fun flags letter => (flags.switch? letter on).getD flags) flags

namespace Switches

def text (switches : Switches) : List Char :=
  switches.on ++ if switches.off.isEmpty then [] else '-' :: switches.off

/-- The flags in force behind the switches. -/
def flags (switches : Switches) (before : Flags) : Flags :=
  (before.switched true switches.on).switched false switches.off

end Switches

section Flags

variable {flags : Flags} {on : Bool}

/-- A letter of a flag means nothing else. -/
theorem flagLetters_other {letter : Char} (h : letter ∈ flagLetters on) :
    letter ≠ '(' ∧ letter ≠ ')' ∧ letter ≠ ':' ∧ letter ≠ '-' := by
  have hall : ((flagLetters on).all fun letter =>
      letter != '(' && (letter != ')' && (letter != ':' && letter != '-'))) = true := by
    cases on <;> decide
  simpa using List.all_eq_true.mp hall letter h

theorem Flags.exists_switch? {letter : Char} (h : letter ∈ flagLetters on)
    (hstrict : flags.extended = false) :
    ∃ next, flags.switch? letter on = some next ∧ next.extended = false := by
  cases on with
  | true =>
    simp only [flagLetters, if_true, List.mem_cons, List.not_mem_nil, or_false] at h
    rcases h with rfl | rfl | rfl | rfl | rfl
    all_goals exact ⟨_, rfl, hstrict⟩
  | false =>
    simp only [flagLetters, Bool.false_eq_true, if_false, List.mem_cons, List.not_mem_nil, or_false] at h
    rcases h with rfl | rfl | rfl | rfl | rfl
    all_goals first | exact ⟨_, rfl, hstrict⟩ | exact ⟨_, rfl, rfl⟩

theorem Flags.strict_switched {letters : List Char}
    (h : letters.all (flagLetters on).contains = true) (hstrict : flags.extended = false) :
    (flags.switched on letters).extended = false := by
  induction letters generalizing flags with
  | nil => exact hstrict
  | cons letter letters ih =>
    obtain ⟨hletter, hletters⟩ := Bool.and_eq_true_iff.mp h
    obtain ⟨next, hnext, hstrict⟩ := exists_switch? (List.contains_iff_mem.mp hletter) hstrict
    rw [switched, List.foldl_cons, hnext]
    exact ih hletters hstrict

/-- The letters are read one after the other. -/
theorem readFlags_letters {letters : List Char} (h : letters.all (flagLetters on).contains = true)
    (hstrict : flags.extended = false) (length fuel : Nat) (rest : List Char) :
    readFlags length (fuel + letters.length) flags on (letters ++ rest) =
      readFlags length fuel (flags.switched on letters) on rest := by
  induction letters generalizing flags with
  | nil => rfl
  | cons letter letters ih =>
    obtain ⟨hletter, hletters⟩ := Bool.and_eq_true_iff.mp h
    have hmem : letter ∈ flagLetters on := List.contains_iff_mem.mp hletter
    obtain ⟨next, hnext, hstrict'⟩ := Flags.exists_switch? hmem hstrict
    obtain ⟨hopening, hclosing, hcolon, hminus⟩ := flagLetters_other hmem
    have hswitched : flags.switched on (letter :: letters) = next.switched on letters := by
      rw [Flags.switched, List.foldl_cons, hnext]
      rfl
    rw [List.length_cons, ← Nat.add_assoc, List.cons_append, readFlags, hstrict,
      skipBlanks_cons hopening]
    dsimp only [bind, Except.bind]
    rw [if_neg hclosing, if_neg hcolon, if_neg hminus, hnext, hswitched]
    exact ih hletters hstrict'

/-- More than a minus sign has been read. -/
theorem not_bareMinus {consumed : Nat} (hlong : on = true ∨ consumed ≠ 1) :
    (!on && decide (consumed = 1)) = false := by
  rcases hlong with rfl | hlong
  · rfl
  · rw [decide_eq_false hlong, Bool.and_false]

/-- A colon ends the flags, unless nothing but a minus sign stands in front of it. -/
theorem readFlags_colon {length : Nat} {rest : List Char} (hstrict : flags.extended = false)
    (hlong : on = true ∨ length - (rest.length + 1) ≠ 1) (fuel : Nat) :
    readFlags length (fuel + 1) flags on (':' :: rest) = .ok (.scoped flags, rest) := by
  rw [readFlags, hstrict, skipBlanks_cons (by decide)]
  dsimp only [bind, Except.bind]
  rw [not_bareMinus hlong]
  rfl

/-- A parenthesis ends the flags if there are any. -/
theorem readFlags_closing {length : Nat} {rest : List Char} (hstrict : flags.extended = false)
    (hsome : length - (rest.length + 1) ≠ 0) (hlong : on = true ∨ length - (rest.length + 1) ≠ 1)
    (fuel : Nat) :
    readFlags length (fuel + 1) flags on (')' :: rest) = .ok (.setFlags flags, rest) := by
  rw [readFlags, hstrict, skipBlanks_cons (by decide)]
  dsimp only [bind, Except.bind]
  rw [not_bareMinus hlong, decide_eq_false hsome]
  rfl

namespace Switches

variable (switches : Switches)

theorem strict_flags (hstrict : flags.extended = false) : (switches.flags flags).extended = false :=
  Flags.strict_switched switches.offAllowed (Flags.strict_switched switches.onAllowed hstrict)

/-- Switches are read as they are written. -/
theorem readFlags_text (hstrict : flags.extended = false) (length fuel : Nat) (rest : List Char) :
    readFlags length (fuel + switches.text.length) flags true (switches.text ++ rest) =
      readFlags length fuel (switches.flags flags) switches.off.isEmpty rest := by
  obtain ⟨on, off, hon, hoff⟩ := switches
  cases off with
  | nil =>
    show readFlags length (fuel + (on ++ []).length) flags true (on ++ [] ++ rest) = _
    rw [List.append_nil]
    exact readFlags_letters hon hstrict length fuel rest
  | cons letter letters =>
    have hstrict' := Flags.strict_switched hon hstrict
    show readFlags length (fuel + (on ++ '-' :: letter :: letters).length) flags true
      (on ++ '-' :: letter :: letters ++ rest) = _
    rw [List.length_append, Nat.add_comm on.length, ← Nat.add_assoc, List.append_assoc,
      readFlags_letters hon hstrict, List.length_cons, ← Nat.add_assoc, List.cons_append, readFlags,
      hstrict', skipBlanks_cons (by decide)]
    exact readFlags_letters hoff hstrict' length fuel rest

/-- Switches start with a letter or a minus sign. -/
theorem text_eq_cons (c : Char) (rest : List Char) :
    ∃ d after, switches.text ++ c :: rest = d :: after ∧
      d ∈ [c, 'i', 'm', 's', 'U', 'u', '-'] := by
  obtain ⟨on, off, hon, hoff⟩ := switches
  cases on with
  | nil =>
    cases off with
    | nil => exact ⟨c, rest, rfl, List.mem_cons_self⟩
    | cons letter letters =>
      refine ⟨'-', letter :: letters ++ c :: rest, rfl, List.mem_cons_of_mem _ ?_⟩
      decide
  | cons letter letters =>
    have hletter := List.contains_iff_mem.mp (Bool.and_eq_true_iff.mp hon).1
    exact ⟨letter, _, rfl, List.mem_cons_of_mem _ (List.mem_append_left ['-'] hletter)⟩

/-- What is no flag is another parenthesis. -/
theorem readOpening_text {c : Char} (hc : c ∈ [':', ')']) (rest : List Char) :
    readOpening flags ('?' :: (switches.text ++ c :: rest)) =
      readFlags (switches.text.length + (rest.length + 1))
        (rest.length + 2 + switches.text.length) flags true (switches.text ++ c :: rest) := by
  obtain ⟨d, after, htext, hmem⟩ := switches.text_eq_cons c rest
  have hd : d ∈ [':', ')', 'i', 'm', 's', 'U', 'u', '-'] := by
    rcases List.mem_cons.mp hmem with rfl | hmem
    · exact List.mem_append_left ['i', 'm', 's', 'U', 'u', '-'] hc
    · exact List.mem_append_right [':', ')'] hmem
  have hlength : (d :: after).length = switches.text.length + (rest.length + 1) := by
    rw [← htext, List.length_append, List.length_cons]
  rw [htext, readOpening, hlength, Nat.add_comm (rest.length + 2), Nat.add_assoc]
  all_goals
    intro after heq
    obtain ⟨rfl, _⟩ := List.cons.inj heq
    exact absurd hd (by decide)

/-- A minus sign is followed by a letter. -/
theorem long_text : switches.off.isEmpty = true ∨ switches.text.length ≠ 1 := by
  obtain ⟨on, off, _, _⟩ := switches
  cases off with
  | nil => exact Or.inl rfl
  | cons letter letters =>
    refine Or.inr ?_
    show (on ++ '-' :: letter :: letters).length ≠ 1
    rw [List.length_append, List.length_cons, List.length_cons]
    omega

/-- Flags for the content of a parenthesis. -/
theorem readOpening_colon (hstrict : flags.extended = false) (rest : List Char) :
    readOpening flags ('?' :: (switches.text ++ ':' :: rest)) =
      .ok (.scoped (switches.flags flags), rest) := by
  rw [switches.readOpening_text (by decide), switches.readFlags_text hstrict]
  refine readFlags_colon (switches.strict_flags hstrict) ?_ _
  rw [Nat.add_sub_cancel]
  exact switches.long_text

/-- Flags for what comes after a parenthesis. -/
theorem readOpening_closing (hstrict : flags.extended = false) (hsome : switches.text ≠ [])
    (rest : List Char) :
    readOpening flags ('?' :: (switches.text ++ ')' :: rest)) =
      .ok (.setFlags (switches.flags flags), rest) := by
  rw [switches.readOpening_text (by decide), switches.readFlags_text hstrict]
  refine readFlags_closing (switches.strict_flags hstrict) ?_ ?_ _
  · rw [Nat.add_sub_cancel]
    exact Nat.ne_of_gt (List.length_pos_iff.mpr hsome)
  · rw [Nat.add_sub_cancel]
    exact switches.long_text

end Switches

end Flags

/-! ## Other parentheses -/

/-- The name of a group. -/
structure GroupName where
  chars : List Char
  nonempty : chars ≠ [] := by decide
  named : chars.all isNameChar = true := by decide

/-- How a parenthesis takes its content. -/
inductive Parens where
  | capture
  | named (name : GroupName)
  /-- Not more than a parenthesis, apart from the flags. -/
  | flagged (switches : Switches)
  | atomic
  | ahead (negated : Bool)
  | behind (negated : Bool)

namespace Parens

/-- How a parenthesis is opened, its first character left out. -/
def mark : Parens → List Char
  | capture => []
  | named name => '?' :: '<' :: (name.chars ++ ['>'])
  | flagged switches => '?' :: (switches.text ++ [':'])
  | atomic => ['?', '>']
  | ahead false => ['?', '=']
  | ahead true => ['?', '!']
  | behind false => ['?', '<', '=']
  | behind true => ['?', '<', '!']

/-- What the reader makes of the mark under given flags. -/
def opening (flags : Flags) : Parens → Opening
  | capture => .capture none
  | named name => .capture (some (String.ofList name.chars))
  | flagged switches => .scoped (switches.flags flags)
  | atomic => .atomic
  | ahead negated => .look .ahead negated
  | behind negated => .look .behind negated

end Parens

theorem GroupName.readName (name : GroupName) (rest : List Char) :
    readName '<' '>' ('<' :: (name.chars ++ '>' :: rest)) = .ok (String.ofList name.chars, rest) := by
  have hempty : name.chars.isEmpty = false := List.isEmpty_eq_false_iff.mpr name.nonempty
  have hnamed := List.all_eq_true.mp name.named
  rw [Regex.readName]
  dsimp only
  rw [List.takeWhile_append_of_pos hnamed, List.dropWhile_append_of_pos hnamed,
    List.takeWhile_cons_of_neg (by decide), List.dropWhile_cons_of_neg (by decide), List.append_nil]
  dsimp only
  rw [hempty]
  rfl

section Reading

variable {progress : Progress} {rest : List Char}

/-- A parenthesis is skipped only if it opens a comment. -/
theorem skipBlanks_parenthesis {text : List Char} (h : ∀ rest, text ≠ '?' :: '#' :: rest) :
    skipBlanks false ('(' :: text) = .ok ('(' :: text) := by
  rw [skipBlanks, Skip.run]
  · rfl
  · rintro rest _ rfl
    exact absurd rfl (h rest)

theorem Switches.skipBlanks_text (switches : Switches) {c : Char} (hc : c ∈ [':', ')'])
    (rest : List Char) :
    skipBlanks false ('(' :: '?' :: (switches.text ++ c :: rest)) =
      .ok ('(' :: '?' :: (switches.text ++ c :: rest)) := by
  refine skipBlanks_parenthesis fun after heq => ?_
  obtain ⟨d, _, htext, hmem⟩ := switches.text_eq_cons c rest
  rw [htext] at heq
  obtain ⟨rfl, _⟩ := List.cons.inj (List.cons.inj heq).2
  rcases List.mem_cons.mp hmem with rfl | hmem
  · exact absurd hc (by decide)
  · exact absurd hmem (by decide)

theorem Sets.switches (switches : Switches) (rest : List Char) :
    Sets ('(' :: '?' :: (switches.text ++ ')' :: rest)) where
  shown := switches.skipBlanks_text (by decide) rest
  first := by
    rintro c ⟨⟩
    decide

theorem Sets.parens (parens : Parens) {rest : List Char} (hrest : Sets rest) :
    Sets ('(' :: (parens.mark ++ rest)) where
  shown := by
    cases parens with
    | capture =>
      refine skipBlanks_parenthesis fun after heq => ?_
      rw [Parens.mark, List.nil_append] at heq
      exact absurd (hrest.first '?' (by rw [heq]; rfl)) (by decide)
    | flagged switches =>
      have hskip := switches.skipBlanks_text (show ':' ∈ [':', ')'] by decide) rest
      rw [Parens.mark, List.cons_append, List.append_assoc, List.singleton_append]
      exact hskip
    | named name | atomic =>
      refine skipBlanks_parenthesis fun after heq => ?_
      cases heq
    | ahead negated | behind negated =>
      refine skipBlanks_parenthesis fun after heq => ?_
      cases negated <;> cases heq
  first := by
    rintro c ⟨⟩
    decide

/-- What comes between an opening parenthesis and its content is not skipped. -/
theorem skip_mark (parens : Parens) (hsimple : progress.Simple) (hrest : Sets rest) :
    progress.skip (parens.mark ++ rest) = .ok (parens.mark ++ rest) := by
  rw [Progress.skip, hsimple.strict]
  cases parens with
  | capture => exact hrest.shown
  | named name | flagged switches | atomic => exact skipBlanks_cons (by decide) _
  | ahead negated | behind negated => cases negated <;> exact skipBlanks_cons (by decide) _

theorem readClosing_closing (hsimple : progress.Simple) (rest : List Char) :
    readClosing progress (')' :: rest) = .ok rest := by
  have hskip : progress.skip (')' :: rest) = .ok (')' :: rest) :=
    (Sets.cons (by decide) rest).skip hsimple
  rw [readClosing, hskip]
  rfl

/-- **What an opening parenthesis says is read as it is written.** -/
theorem readOpening_mark (parens : Parens) {flags : Flags} (hstrict : flags.extended = false)
    (hrest : Sets rest) :
    readOpening flags (parens.mark ++ rest) = .ok (parens.opening flags, rest) := by
  cases parens with
  | capture =>
    have hother (after : List Char) : rest ≠ '?' :: after := by
      rintro rfl
      exact absurd (hrest.first _ rfl) (by decide)
    rw [Parens.mark, List.nil_append, readOpening]
    · rfl
    all_goals
      intro after heq
      exact hother _ heq
  | named name =>
    obtain ⟨d, after, hname⟩ := List.exists_cons_of_ne_nil name.nonempty
    have hd : isNameChar d = true := List.all_eq_true.mp name.named d (hname ▸ List.mem_cons_self)
    have hmark : (Parens.named name).mark ++ rest = '?' :: '<' :: (name.chars ++ '>' :: rest) := by
      rw [Parens.mark, List.cons_append, List.cons_append, List.append_assoc, List.singleton_append]
    rw [hmark, readOpening, name.readName]
    · rfl
    all_goals
      intro other heq
      rw [hname] at heq
      obtain ⟨rfl, _⟩ := List.cons.inj heq
      exact absurd hd (by decide)
  | flagged switches =>
    rw [Parens.mark, List.cons_append, List.append_assoc, List.singleton_append]
    exact switches.readOpening_colon hstrict rest
  | atomic => rfl
  | ahead negated | behind negated => cases negated <;> rfl

/-- **Flags on their own** are switched for what comes after them. -/
theorem readAtom_flags (switches : Switches) (hsome : switches.text ≠ []) (hsimple : progress.Simple)
    (fuel : Nat) {depth : Nat} (rest : List Char) :
    readAtom (fuel + 2) depth progress ('(' :: '?' :: (switches.text ++ ')' :: rest)) =
      if maxNesting ≤ depth + 1 then .error .nestedTooDeep
      else .ok (.empty, rest, { progress with flags := switches.flags progress.flags }) := by
  have hskip : progress.skip ('?' :: (switches.text ++ ')' :: rest)) =
      .ok ('?' :: (switches.text ++ ')' :: rest)) := by
    rw [Progress.skip, hsimple.strict]
    exact skipBlanks_cons (by decide) _
  have hgroup : readGroup (fuel + 1) (depth + 1) progress ('?' :: (switches.text ++ ')' :: rest)) =
      if maxNesting ≤ depth + 1 then .error .nestedTooDeep
      else .ok (.empty, rest, { progress with flags := switches.flags progress.flags }) := by
    rw [readGroup]
    split
    · rfl
    · rw [hskip]
      dsimp only [bind, Except.bind]
      rw [switches.readOpening_closing hsimple.strict hsome]
      rfl
  rw [readAtom, Progress.skip, hsimple.strict, switches.skipBlanks_text (by decide)]
  exact hgroup

end Reading

/-! ## The mark for lines -/

/-- The mark for lines in front of a text sets a flag and matches nothing. -/
theorem readPiece_mark (fuel depth : Nat) {text : List Char} (htext : Sets text)
    (hdepth : depth + 1 < maxNesting) :
    readPiece (fuel + 3) depth {} (Pattern.multilineMark ++ text) = .ok (.empty, text, .lines) := by
  have hatom : readAtom (fuel + 2) depth {} (Pattern.multilineMark ++ text) =
      .ok (.empty, text, .lines) := by
    have hflags := @readAtom_flags {} { on := ['m'] } (by decide) ⟨rfl, rfl, rfl⟩ fuel depth text
    rw [if_neg (Nat.not_le_of_lt hdepth)] at hflags
    exact hflags
  rw [readPiece, hatom]
  exact quantify_of_sets htext .lines .empty

end ScopeScanner.Regex
