import ScopeScanner.Proofs.Pattern.Echo
import ScopeScanner.Proofs.Regex.Filling

/-!
# Ends as forms

An end that depends on the begin is a template, and the texts of the begin are put in where it refers to
their groups. What a text comes to depends on where it is put. Here the end is a form (`Regex.Form`), and
the references are its holes: each of them stands where a part of the end could stand.

* **`EndTemplate.instantiate_form`**: the template is turned into the form with the texts of the groups
  written into the holes, taken literally.
* **`EndTemplate.form_compiles`**: if the form is sound, the result compiles, whatever the groups have
  matched, up to the limits of the engine.

A reference inside brackets is no such hole. It may become the bound of a range, and a range whose bounds
are in the wrong order does not compile.
-/

namespace ScopeScanner

/-- A group of the begin that an end can refer to. -/
structure BeginGroup where
  number : Nat
  positive : 1 ≤ number := by decide
  small : number ≤ 9 := by decide

namespace EndTemplate

open Escaping (Escapes)

/-- Groups that are empty or took no part are as good as no groups at all. -/
theorem instantiate_of_empty (ending : EndTemplate) {texts : List (Option (List Char))}
    (h : ∀ group, 1 ≤ group → group ≤ 9 → texts[group]?.join.getD [] = []) :
    ending.instantiate texts = ending.instantiate [] := by
  rw [instantiate, instantiate]
  refine congrArg (fun replace => String.ofList (Escaping.substitute replace _)) (funext fun c => ?_)
  split
  · next hreference =>
    simp only [isReference, Bool.and_eq_true, decide_eq_true_eq] at hreference
    have hfirst : '1'.toNat ≤ c.toNat := hreference.1
    have hlast : c.toNat ≤ '9'.toNat := hreference.2
    rw [h (c.toNat - '0'.toNat) (Nat.le_sub_of_add_le hfirst) (Nat.sub_le_of_le_add hlast)]
    rfl
  · rfl

/-- How a reference is written. -/
def reference (group : BeginGroup) : List Char :=
  ['\\', Nat.digitChar group.number]

/-- The template that is written as a form. -/
def ofForm (form : Regex.Form BeginGroup) : EndTemplate :=
  ⟨String.ofList (form.write reference)⟩

/-- The text of a group of the begin, empty if the group took no part. -/
def groupText (texts : List (Option (List Char))) (group : BeginGroup) : List Char :=
  texts[group.number]?.join.getD []

/-! ## Escapes outside the holes -/

/-- The escaped character is neither an anchor nor a reference. -/
def IsOther (c : Char) : Prop :=
  c ≠ 'G' ∧ isReference c = false

theorem isOther_of_isSpecial {c : Char} (h : Escaping.isSpecial c = true) : IsOther c := by
  refine ⟨?_, isReference_special h⟩
  rintro rfl
  exact absurd h (by decide)

/-- For a list of characters this is checked one by one. -/
theorem isOther_of_mem {letters : List Char}
    (h : (letters.all fun c => c != 'G' && !isReference c) = true) {c : Char} (hc : c ∈ letters) :
    IsOther c := by
  obtain ⟨hanchor, hreference⟩ := Bool.and_eq_true_iff.mp (List.all_eq_true.mp h c hc)
  exact ⟨bne_iff_ne.mp hanchor, (Bool.not_eq_true' _).mp hreference⟩

/-- A text without a backslash has no escapes. -/
theorem escapes_of_not_mem {text : List Char} (h : '\\' ∉ text) : Escapes IsOther text := by
  induction text with
  | nil => exact .nil
  | cons c text ih =>
    rw [List.mem_cons, not_or] at h
    exact .char (Ne.symm h.1) (ih h.2)

/-- Letters and digits aside, what is escaped is neither. -/
theorem isOther_of_not_isAlphanum {c : Char} (h : c.isAlphanum = false) : IsOther c := by
  refine ⟨?_, Bool.eq_false_iff.mpr fun hreference => ?_⟩
  · rintro rfl
    exact absurd h (by decide)
  · obtain ⟨hfirst, hlast⟩ := Bool.and_eq_true_iff.mp hreference
    have hzero : '0' ≤ c := Char.le_trans (by decide) (of_decide_eq_true hfirst)
    have hdigit : c.isDigit = true := Bool.and_eq_true_iff.mpr ⟨decide_eq_true hzero, hlast⟩
    rw [Char.isAlphanum, hdigit, Bool.or_true] at h
    cases h

theorem escapes_property (name : Regex.PropertyName) (negated : Bool) :
    Escapes IsOther ('\\' :: name.text negated) := by
  have hbraces : '\\' ∉ '\x7b' :: (name.chars ++ ['\x7d']) := by
    simp only [List.mem_cons, List.mem_append, List.not_mem_nil, or_false, not_or]
    exact ⟨by decide, name.unescaped, by decide⟩
  refine .escape ?_ (escapes_of_not_mem hbraces)
  unfold IsOther
  cases negated <;> decide

theorem escapes_classChar (char : Regex.ClassChar) : Escapes IsOther char.text := by
  cases char with
  | plain c hplain =>
    refine escapes_of_not_mem fun hmem => hplain ?_
    rw [← List.mem_singleton.mp hmem]
    exact List.mem_cons_self
  | escaped c hescaped => exact .escape (isOther_of_not_isAlphanum hescaped) .nil
  | control letter c hcontrol =>
    refine .escape ?_ .nil
    unfold Regex.controlChar? at hcontrol
    split at hcontrol
    all_goals first | (unfold IsOther; decide) | cases hcontrol

theorem escapes_members (members : List Regex.ClassMember) :
    Escapes IsOther (members.flatMap Regex.ClassMember.text) := by
  induction members with
  | nil => exact .nil
  | cons member members ih =>
    rw [List.flatMap_cons]
    refine Escapes.append ?_ ih
    cases member with
    | char c => exact escapes_classChar c
    | range low high _ =>
      exact (escapes_classChar low).append (.char (by decide) (escapes_classChar high))
    | set letter hset =>
      have hmem := Regex.mem_of_setOf? hset
      exact .escape (isOther_of_mem (by decide) hmem) .nil
    | property name negated => exact escapes_property name negated

theorem escapes_bracketed (negated : Bool) (members : List Regex.ClassMember) :
    Escapes IsOther (Regex.bracketed Regex.ClassMember.text negated members) := by
  have hnegation : Escapes IsOther (if negated then ['^'] else []) := by
    cases negated with
    | true => exact escapes_of_not_mem (by decide)
    | false => exact .nil
  rw [Regex.bracketed]
  exact (hnegation.append (escapes_members members)).append (escapes_of_not_mem (by decide))

theorem escapes_atom (atom : Regex.Atom) : Escapes IsOther atom.text := by
  cases atom with
  | plain c hplain =>
    refine escapes_of_not_mem fun hmem => hplain ?_
    rw [← List.mem_singleton.mp hmem]
    decide
  | escaped c hescaped _ => exact .escape (isOther_of_not_isAlphanum hescaped) .nil
  | set letter hset =>
    exact .escape (isOther_of_mem (by decide) hset) .nil
  | property name negated => exact escapes_property name negated
  | bracket negated members _ => exact .char (by decide) (escapes_bracketed negated members)
  | assertion letter hassertion =>
    refine .escape ?_ .nil
    unfold Regex.assertionOf? at hassertion
    split at hassertion
    all_goals first | (unfold IsOther; decide) | cases hassertion
  | boundary negated =>
    refine .escape ?_ .nil
    unfold IsOther
    cases negated <;> decide
  | keepOut => exact .escape (by unfold IsOther; decide) .nil
  | dot | lineStart | lineEnd => exact escapes_of_not_mem (by decide)

theorem not_mem_toDigits (n : Nat) : '\\' ∉ Nat.toDigits 10 n := by
  intro hmem
  have hdigit : Char.isDigit '\\' = true := Nat.isDigit_of_mem_toDigits (by decide) (by decide) hmem
  cases hdigit

theorem escapes_times (times : Regex.Times) : Escapes IsOther times.text := by
  refine escapes_of_not_mem ?_
  cases times with
  | optional | star | plus => decide
  | exactly _ _ | atLeast _ _ | between _ _ _ _ => simp [Regex.Times.text, not_mem_toDigits]

theorem escapes_quantifier (quantifier : Option Regex.Quantifier) :
    Escapes IsOther (Regex.quantifierText quantifier) := by
  cases quantifier with
  | none => exact .nil
  | some quantifier =>
    obtain ⟨times, preference⟩ := quantifier
    refine (escapes_times times).append (escapes_of_not_mem ?_)
    cases preference <;> simp [Regex.Preference.text]

theorem not_mem_switches (switches : Regex.Switches) : '\\' ∉ switches.text := by
  obtain ⟨on, off, hon, hoff⟩ := switches
  have hletters (on : Bool) : '\\' ∉ Regex.flagLetters on := by
    revert on
    decide
  rw [Regex.Switches.text, List.mem_append, not_or]
  refine ⟨fun hmem => hletters true (List.contains_iff_mem.mp (List.all_eq_true.mp hon _ hmem)), ?_⟩
  split
  · exact List.not_mem_nil
  · refine List.not_mem_cons_of_ne_of_not_mem (by decide) fun hmem => ?_
    exact hletters false (List.contains_iff_mem.mp (List.all_eq_true.mp hoff _ hmem))

theorem escapes_mark (parens : Regex.Parens) : Escapes IsOther parens.mark := by
  refine escapes_of_not_mem ?_
  cases parens with
  | capture | atomic => decide
  | named name =>
    have hname : '\\' ∉ name.chars := fun hmem =>
      absurd (List.all_eq_true.mp name.named _ hmem) (by decide)
    simp [Regex.Parens.mark, hname]
  | flagged switches => simp [Regex.Parens.mark, not_mem_switches]
  | ahead negated | behind negated => cases negated <;> decide

/-! ## Filling in the holes -/

section Filling

variable (texts : List (Option (List Char)))

/-- A template, and what it becomes when the texts of the groups are put in: both hold the same text
without references, or a reference and the text of its group, one behind the other. -/
inductive FilledIn : (template filled : List Char) → Prop where
  | nil : FilledIn [] []
  | kept {text template filled : List Char} (htext : Escapes IsOther text)
      (hrest : FilledIn template filled) : FilledIn (text ++ template) (text ++ filled)
  | reference {group : BeginGroup} {template filled : List Char} (hrest : FilledIn template filled) :
      FilledIn (reference group ++ template) (Regex.literally (groupText texts) group ++ filled)

variable {texts} {template filled : List Char}

/-- It is what the template is turned into. -/
theorem FilledIn.instantiate_eq (h : FilledIn texts template filled) :
    instantiate ⟨String.ofList template⟩ texts = String.ofList filled := by
  rw [instantiate]
  dsimp only
  rw [String.toList_ofList]
  refine congrArg String.ofList ?_
  induction h with
  | nil => rfl
  | kept htext _ ih =>
    rw [htext.substitute_append, ih]
    rintro c ⟨_, hreference⟩
    rw [hreference, if_neg Bool.false_ne_true]
  | @reference group _ _ _ ih =>
    obtain ⟨hreference, hnumber⟩ := isReference_digitChar group.positive group.small
    rw [EndTemplate.reference, List.cons_append, List.singleton_append, Escaping.substitute, hreference,
      if_pos rfl, hnumber, ih]
    rfl

/-- No anchor is in it. -/
theorem FilledIn.unanchored (h : FilledIn texts template filled) : Escapes (· ≠ 'G') filled := by
  induction h with
  | nil => exact .nil
  | kept htext _ ih => exact (htext.mono fun _ hother => hother.1).append ih
  | reference _ ih => exact ((Escapes.quote _).mono fun _ hc => (isOther_of_isSpecial hc).1).append ih

mutual

theorem filledIn_part : (part : Regex.Part BeginGroup) → {template filled : List Char} →
    FilledIn texts template filled → FilledIn texts (part.write reference ++ template)
      (part.write (Regex.literally (groupText texts)) ++ filled)
  | .atom atom quantifier, _, _, hrest => by
    rw [Regex.Part.write, Regex.Part.write]
    exact .kept ((escapes_atom atom).append (escapes_quantifier quantifier)) hrest
  | .hole group, _, _, hrest => by
    rw [Regex.Part.write, Regex.Part.write]
    exact .reference hrest
  | .flags switches _, _, _, hrest => by
    rw [Regex.Part.write, Regex.Part.write]
    refine .kept (escapes_of_not_mem ?_) hrest
    simp [not_mem_switches]
  | .parens parens first others quantifier, _, _, hrest => by
    have hopening : Escapes IsOther ('(' :: parens.mark) := .char (by decide) (escapes_mark parens)
    have hclosing : Escapes IsOther (')' :: Regex.quantifierText quantifier) :=
      .char (by decide) (escapes_quantifier quantifier)
    have hwhole := FilledIn.kept hopening
      (filledIn_row first (filledIn_others others (.kept hclosing hrest)))
    rw [Regex.Part.write, Regex.Part.write]
    simpa only [List.cons_append, List.append_assoc] using hwhole

theorem filledIn_row : (row : List (Regex.Part BeginGroup)) → {template filled : List Char} →
    FilledIn texts template filled → FilledIn texts (Regex.writeRow reference row ++ template)
      (Regex.writeRow (Regex.literally (groupText texts)) row ++ filled)
  | [], _, _, hrest => hrest
  | part :: parts, _, _, hrest => by
    rw [Regex.writeRow, Regex.writeRow, List.append_assoc, List.append_assoc]
    exact filledIn_part part (filledIn_row parts hrest)

theorem filledIn_others : (rows : List (List (Regex.Part BeginGroup))) → {template filled : List Char} →
    FilledIn texts template filled → FilledIn texts (Regex.writeOthers reference rows ++ template)
      (Regex.writeOthers (Regex.literally (groupText texts)) rows ++ filled)
  | [], _, _, hrest => hrest
  | row :: rows, _, _, hrest => by
    have hbar : Escapes IsOther ['|'] := escapes_of_not_mem (by decide)
    have hwhole := FilledIn.kept hbar (filledIn_row row (filledIn_others rows hrest))
    rw [Regex.writeOthers, Regex.writeOthers]
    simpa only [List.cons_append, List.nil_append, List.append_assoc] using hwhole

end

/-- **What a form is filled in with** is put into its holes, and all else is kept. -/
theorem filledIn_form (form : Regex.Form BeginGroup) :
    FilledIn texts (form.write reference) (form.write (Regex.literally (groupText texts))) := by
  have hothers : FilledIn texts (Regex.writeOthers reference form.others ++ [])
      (Regex.writeOthers (Regex.literally (groupText texts)) form.others ++ []) :=
    filledIn_others form.others .nil
  rw [List.append_nil, List.append_nil] at hothers
  exact filledIn_row form.first hothers

end Filling

/-- **What a template that is a form is turned into**: the form with the text of each group in place of
the references to it. -/
theorem instantiate_form (form : Regex.Form BeginGroup) (texts : List (Option (List Char))) :
    instantiate (ofForm form) texts = String.ofList (form.write (Regex.literally (groupText texts))) :=
  (filledIn_form form).instantiate_eq

/-- **A template that is a sound form compiles for all texts of the begin**, up to the limits of the
engine. -/
theorem form_compiles {form : Regex.Form BeginGroup} (hsound : form.isSound = true)
    (texts : List (Option (List Char))) (budget : Nat) :
    (∃ pattern, Pattern.compile (instantiate (ofForm form) texts) budget = .ok pattern) ∨
      Pattern.compileRegex (instantiate (ofForm form) texts).toList = .error .tooLarge ∨
      Pattern.compileRegex (instantiate (ofForm form) texts).toList = .error .nestedTooDeep := by
  have hcompiled := Regex.compile_form (groupText texts) hsound
  rw [instantiate_form, String.toList_ofList,
    Pattern.compile_of_unanchored (filledIn_form form).unanchored, Pattern.compileRegex]
  generalize Regex.compile _ = outcome at hcompiled
  cases hcompiled with
  | ok _ => exact Or.inl ⟨_, rfl⟩
  | tooLarge => exact Or.inr (Or.inl rfl)
  | nestedTooDeep => exact Or.inr (Or.inr rfl)

end EndTemplate

end ScopeScanner
