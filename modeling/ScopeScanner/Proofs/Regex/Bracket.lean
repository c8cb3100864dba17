import ScopeScanner.Proofs.Regex.Reading

/-!
# Bracketed classes as they are written

A class is written as its members, one behind the other, in brackets. The reader takes two passes over
such a text. The first one finds the end of the class and replaces escapes by what they stand for
(`Regex.classText_bracketed`), and the second one finds all members in what is left
(`Regex.exists_readClassText`).
-/

namespace ScopeScanner.Regex

/-- The name of a property, which stands between braces. -/
structure PropertyName where
  chars : List Char
  known : (propertyOf? chars).isSome = true := by decide
  unclosed : '\x7d' ∉ chars := by decide
  unescaped : '\\' ∉ chars := by decide

/-- How a property is written behind a backslash. -/
def PropertyName.text (name : PropertyName) (negated : Bool) : List Char :=
  (if negated then 'P' else 'p') :: '\x7b' :: (name.chars ++ ['\x7d'])

/-- A character of a class, as it is written. -/
inductive ClassChar where
  | plain (c : Char) (hplain : c ∉ ['\\', '^', '-', '[', ']', '&', '~'])
  /-- Behind a backslash. -/
  | escaped (c : Char) (hescaped : c.isAlphanum = false)
  /-- A control character by its letter. -/
  | control (letter c : Char) (hcontrol : controlChar? letter = some c)

namespace ClassChar

def value : ClassChar → Char
  | plain c _ | escaped c _ | control _ c _ => c

def text : ClassChar → List Char
  | plain c _ => [c]
  | escaped c _ => ['\\', c]
  | control letter _ _ => ['\\', letter]

/-- What the first pass leaves of it. -/
def kept : ClassChar → List Char
  | plain c _ => [c]
  | escaped c _ | control _ c _ => quoteInClass c

end ClassChar

/-- A member of a class. -/
inductive ClassMember where
  | char (char : ClassChar)
  | range (low high : ClassChar) (hordered : low.value ≤ high.value)
  /-- The set that a letter stands for. -/
  | set (letter : Char) (hset : (setOf? letter).isSome = true)
  | property (name : PropertyName) (negated : Bool)

namespace ClassMember

/-- How a member is written. -/
def text : ClassMember → List Char
  | char c => c.text
  | range low high _ => low.text ++ '-' :: high.text
  | set letter _ => ['\\', letter]
  | property name negated => '\\' :: name.text negated

/-- What the first pass leaves of a member. -/
def kept : ClassMember → List Char
  | char c => c.kept
  | range low high _ => low.kept ++ '-' :: high.kept
  | set letter _ => ['\\', letter]
  | property name negated => '\\' :: name.text negated

end ClassMember

/-- How a class is written behind its opening bracket, given how each member is written. -/
def bracketed (write : ClassMember → List Char) (negated : Bool) (members : List ClassMember) :
    List Char :=
  (if negated then ['^'] else []) ++ members.flatMap write ++ [']']

/-! ## Characters in a class -/

theorem mem_of_isClassOperator {c : Char} (h : isClassOperator c = true) : c ∈ ['\\', '.', '+', '*', '?',
    '(', ')', '|', '[', ']', '\x7b', '\x7d', '^', '$', '#', '-', '&', '~'] :=
  List.contains_iff_mem.mp h

/-- What holds of all operators can be checked one by one. -/
theorem of_isClassOperator {Holds : Char → Prop} (h : ∀ c ∈ ['\\', '.', '+', '*', '?', '(', ')', '|', '[',
    ']', '\x7b', '\x7d', '^', '$', '#', '-', '&', '~'], Holds c) {c : Char}
    (hc : isClassOperator c = true) : Holds c :=
  h c (mem_of_isClassOperator hc)

/-- A first character that means nothing to the reader of a class: it negates nothing, opens and closes
nothing and starts no operator. -/
def IsPlainInClass (c : Char) : Prop :=
  c ∉ ['^', '-', '[', ']', '&', '~']

/-- The text starts with such a character. -/
def Opens (text : List Char) : Prop :=
  ∃ d rest, text = d :: rest ∧ IsPlainInClass d

namespace Opens

theorem append {text : List Char} (h : Opens text) (rest : List Char) : Opens (text ++ rest) := by
  obtain ⟨d, after, rfl, hplain⟩ := h
  exact ⟨d, after ++ rest, rfl, hplain⟩

theorem backslash (rest : List Char) : Opens ('\\' :: rest) :=
  ⟨'\\', rest, rfl, by unfold IsPlainInClass; decide⟩

theorem quoteInClass (c : Char) : Opens (quoteInClass c) := by
  cases h : isClassOperator c with
  | true =>
    rw [Regex.quoteInClass, if_pos h]
    exact backslash [c]
  | false =>
    refine ⟨c, [], by rw [Regex.quoteInClass, h]; rfl, fun hmem => ?_⟩
    simp only [List.mem_cons, List.not_mem_nil, or_false] at hmem
    rcases hmem with rfl | rfl | rfl | rfl | rfl | rfl
    all_goals exact absurd h (by decide)

/-- Both what is written and what the first pass leaves of it. -/
theorem classChar (char : ClassChar) : Opens char.text ∧ Opens char.kept := by
  cases char with
  | plain c hplain =>
    have hopens : Opens [c] := ⟨c, [], rfl, fun hmem => hplain (List.mem_cons_of_mem _ hmem)⟩
    exact ⟨hopens, hopens⟩
  | escaped c _ => exact ⟨backslash [c], quoteInClass c⟩
  | control letter c _ => exact ⟨backslash [letter], quoteInClass c⟩

theorem classMember (member : ClassMember) : Opens member.text ∧ Opens member.kept := by
  cases member with
  | char c => exact classChar c
  | range low high _ => exact ⟨(classChar low).1.append _, (classChar low).2.append _⟩
  | set letter _ => exact ⟨backslash [letter], backslash [letter]⟩
  | property name negated => exact ⟨backslash _, backslash _⟩

theorem members {write : ClassMember → List Char} (hwrite : ∀ member, Opens (write member))
    {members : List ClassMember} (h : members ≠ []) : Opens (members.flatMap write) := by
  cases members with
  | nil => exact absurd rfl h
  | cons member members =>
    rw [List.flatMap_cons]
    exact (hwrite member).append _

end Opens

/-! ## Escapes -/

/-- The letters of sets. -/
theorem mem_of_setOf? {c : Char} (h : (setOf? c).isSome = true) : c ∈ ['d', 'D', 's', 'S', 'w', 'W'] := by
  unfold setOf? at h
  split at h
  case h_7 => cases h
  all_goals decide

theorem readCharEscape?_of_not_isAlpha {c : Char} (h : c.isAlpha = false) (extended ignoreCase : Bool)
    (rest : List Char) : readCharEscape? extended ignoreCase c rest = none := by
  have hset : setOf? c = none := by
    unfold setOf?
    split
    all_goals first | rfl | exact absurd h (by decide)
  have hhex : hexSet? c = none := by
    unfold hexSet?
    split
    all_goals first | rfl | exact absurd h (by decide)
  have hcontrol : controlChar? c = none := by
    unfold controlChar?
    split
    all_goals first | rfl | exact absurd h (by decide)
  rw [readCharEscape?, hset, hhex, hcontrol]
  all_goals
    rintro rfl
    exact absurd h (by decide)

namespace PropertyName

theorem text_append (name : PropertyName) (negated : Bool) (rest : List Char) :
    name.text negated ++ rest =
      (if negated then 'P' else 'p') :: '\x7b' :: (name.chars ++ '\x7d' :: rest) := by
  rw [text, List.cons_append, List.cons_append, List.append_assoc, List.singleton_append]

/-- **A property is read as a set**, and nothing behind its name. -/
theorem exists_readProperty (name : PropertyName) (negated ignoreCase : Bool) (rest : List Char) :
    ∃ set, readProperty negated ignoreCase ('\x7b' :: (name.chars ++ '\x7d' :: rest)) =
      .ok (set, rest) := by
  have hinner (c : Char) (hc : c ∈ name.chars) : (c != '\x7d') = true :=
    bne_iff_ne.mpr fun heq => name.unclosed (heq ▸ hc)
  obtain ⟨⟨inverse, property⟩, hknown⟩ := Option.isSome_iff_exists.mp name.known
  have hname : (name.chars ++ '\x7d' :: rest).takeWhile (· != '\x7d') = name.chars := by
    rw [List.takeWhile_append_of_pos hinner, List.takeWhile_cons_of_neg (by decide), List.append_nil]
  have hafter : (name.chars ++ '\x7d' :: rest).dropWhile (· != '\x7d') = '\x7d' :: rest := by
    rw [List.dropWhile_append_of_pos hinner, List.dropWhile_cons_of_neg (by decide)]
  rw [readProperty]
  dsimp only
  rw [hafter]
  dsimp only [pure, Except.pure, bind, Except.bind]
  rw [hname, hknown]
  exact ⟨_, rfl⟩

theorem exists_readCharEscape? (name : PropertyName) (negated ignoreCase : Bool) (rest : List Char) :
    ∃ set, readCharEscape? false ignoreCase (if negated then 'P' else 'p')
        ('\x7b' :: (name.chars ++ '\x7d' :: rest)) =
      some (.ok (.set set ('\\' :: name.text negated), rest)) := by
  have htaken : ('\x7b' :: (name.chars ++ '\x7d' :: rest)).take
      (('\x7b' :: (name.chars ++ '\x7d' :: rest)).length - rest.length) =
        '\x7b' :: (name.chars ++ ['\x7d']) := by
    have hwhole : '\x7b' :: (name.chars ++ '\x7d' :: rest) =
        ('\x7b' :: (name.chars ++ ['\x7d'])) ++ rest := by
      rw [List.cons_append, List.append_assoc, List.singleton_append]
    rw [hwhole, List.length_append, Nat.add_sub_cancel, List.take_left]
  obtain ⟨set, hread⟩ := name.exists_readProperty negated ignoreCase rest
  refine ⟨set, ?_⟩
  cases negated with
  | true =>
    show some (readProperty true ignoreCase ('\x7b' :: (name.chars ++ '\x7d' :: rest)) >>=
      fun result => pure (Escape.set result.1 ('\\' :: 'P' :: _), result.2)) = _
    rw [hread]
    dsimp only [bind, Except.bind, pure, Except.pure]
    rw [htaken]
    rfl
  | false =>
    show some (readProperty false ignoreCase ('\x7b' :: (name.chars ++ '\x7d' :: rest)) >>=
      fun result => pure (Escape.set result.1 ('\\' :: 'p' :: _), result.2)) = _
    rw [hread]
    dsimp only [bind, Except.bind, pure, Except.pure]
    rw [htaken]
    rfl

end PropertyName

/-! ## The first pass -/

/-- Behind a backslash the first pass reads `text` on its own, and leaves `kept` of the escape. -/
def EscapesTo (text kept : List Char) : Prop :=
  ∀ ignoreCase rest,
    (∃ c folds, readClassEscape false ignoreCase (text ++ rest) = .ok (.char c folds, rest) ∧
      kept = quoteInClass c) ∨
    ∃ set, readClassEscape false ignoreCase (text ++ rest) = .ok (.set set kept, rest)

namespace EscapesTo

theorem escaped {c : Char} (h : c.isAlphanum = false) : EscapesTo [c] (quoteInClass c) := by
  obtain ⟨halpha, hdigit⟩ := Bool.or_eq_false_iff.mp h
  have hb : c ≠ 'b' := by
    rintro rfl
    exact absurd halpha (by decide)
  refine fun ignoreCase rest => Or.inl ⟨c, false, ?_, rfl⟩
  rw [List.singleton_append, readClassEscape, readCharEscape?_of_not_isAlpha halpha]
  dsimp only
  rw [hdigit, halpha, if_neg Bool.false_ne_true, if_neg hb, Bool.false_and, if_neg Bool.false_ne_true]
  rfl

theorem control {letter c : Char} (h : controlChar? letter = some c) :
    EscapesTo [letter] (quoteInClass c) := by
  refine fun ignoreCase rest => Or.inl ⟨c, false, ?_, rfl⟩
  unfold controlChar? at h
  split at h
  all_goals
    cases h
    try rfl

theorem set {letter : Char} (h : (setOf? letter).isSome = true) : EscapesTo [letter] ['\\', letter] := by
  intro ignoreCase rest
  have hmem := mem_of_setOf? h
  simp only [List.mem_cons, List.not_mem_nil, or_false] at hmem
  rcases hmem with rfl | rfl | rfl | rfl | rfl | rfl
  all_goals exact Or.inr ⟨_, rfl⟩

theorem property (name : PropertyName) (negated : Bool) :
    EscapesTo (name.text negated) ('\\' :: name.text negated) := by
  intro ignoreCase rest
  obtain ⟨set, hread⟩ := name.exists_readCharEscape? negated ignoreCase rest
  refine Or.inr ⟨set, ?_⟩
  rw [name.text_append, readClassEscape, hread]

end EscapesTo

/-- A text without brackets, and what the first pass leaves of it. -/
inductive Passes : (text kept : List Char) → Prop where
  | nil : Passes [] []
  | char {c : Char} {text kept : List Char} (hc : c ∉ ['\\', '[', ']']) (hrest : Passes text kept) :
      Passes (c :: text) (c :: kept)
  | escape {escape shown text kept : List Char} (hescape : EscapesTo escape shown)
      (hrest : Passes text kept) : Passes ('\\' :: (escape ++ text)) (shown ++ kept)

namespace Passes

theorem append {first kept second left : List Char} (h : Passes first kept)
    (hsecond : Passes second left) : Passes (first ++ second) (kept ++ left) := by
  induction h with
  | nil => exact hsecond
  | char hc _ ih => exact .char hc ih
  | escape hescape _ ih =>
    rw [List.cons_append, List.append_assoc, List.append_assoc]
    exact .escape hescape ih

/-- An escape on its own. -/
theorem one {escape shown : List Char} (h : EscapesTo escape shown) : Passes ('\\' :: escape) shown := by
  have hone := Passes.escape h .nil
  rwa [List.append_nil, List.append_nil] at hone

theorem classChar (char : ClassChar) : Passes char.text char.kept := by
  cases char with
  | plain c hplain =>
    refine .char (fun hmem => hplain ?_) .nil
    simp only [List.mem_cons, List.not_mem_nil, or_false] at hmem
    rcases hmem with rfl | rfl | rfl
    all_goals decide
  | escaped c hescaped => exact one (.escaped hescaped)
  | control letter c hcontrol => exact one (.control hcontrol)

theorem members (members : List ClassMember) :
    Passes (members.flatMap ClassMember.text) (members.flatMap ClassMember.kept) := by
  induction members with
  | nil => exact .nil
  | cons member members ih =>
    rw [List.flatMap_cons, List.flatMap_cons]
    refine append ?_ ih
    cases member with
    | char c => exact classChar c
    | range low high _ => exact (classChar low).append (.char (by decide) (classChar high))
    | set letter hset => exact one (.set hset)
    | property name negated => exact one (.property name negated)

end Passes

/-- The first pass goes up to the bracket that closes the class. -/
theorem readClassContent_passes {text kept : List Char} (h : Passes text kept) (ignoreCase : Bool)
    (rest : List Char) {fuel : Nat} (hfuel : text.length + 1 ≤ fuel) :
    readClassContent false ignoreCase fuel 1 (text ++ ']' :: rest) = .ok (kept ++ [']'], rest) := by
  induction h generalizing fuel with
  | nil =>
    obtain ⟨fuel, rfl⟩ : ∃ left, fuel = left + 1 := ⟨fuel - 1, by omega⟩
    rw [List.nil_append, readClassContent]
    · rfl
    · intro heq
      cases heq
  | @char c text kept hc _ ih =>
    rw [List.length_cons] at hfuel
    obtain ⟨fuel, rfl⟩ : ∃ left, fuel = left + 1 := ⟨fuel - 1, by omega⟩
    simp only [List.mem_cons, List.not_mem_nil, or_false, not_or] at hc
    have hclosing : (decide (c = ']') && decide (1 ≤ 1)) = false := by
      rw [decide_eq_false hc.2.2, Bool.false_and]
    rw [List.cons_append, readClassContent, hclosing, if_neg Bool.false_ne_true, if_neg hc.2.1,
      if_neg hc.2.2]
    · dsimp only
      rw [ih (by omega)]
      rfl
    · intro heq
      exact absurd heq hc.1
  | @escape escape shown text kept hescape _ ih =>
    rw [List.length_cons, List.length_append] at hfuel
    obtain ⟨fuel, rfl⟩ : ∃ left, fuel = left + 1 := ⟨fuel - 1, by omega⟩
    rw [List.cons_append, List.append_assoc, List.append_assoc, readClassContent]
    rcases hescape ignoreCase (text ++ ']' :: rest) with ⟨c, folds, hread, rfl⟩ | ⟨set, hread⟩
    all_goals
      rw [hread]
      dsimp only [bind, Except.bind, pure, Except.pure]
      rw [ih (by omega)]

/-- **The first pass keeps the text of a class** and stops behind it. -/
theorem classText_bracketed (ignoreCase negated : Bool) {members : List ClassMember} (h : members ≠ [])
    (rest : List Char) :
    classText false ignoreCase (bracketed ClassMember.text negated members ++ rest) =
      .ok (bracketed ClassMember.kept negated members, rest) := by
  have hpass : readClassContent false ignoreCase
      ((members.flatMap ClassMember.text ++ ']' :: rest).length + 1) 1
      (members.flatMap ClassMember.text ++ ']' :: rest) =
        .ok (members.flatMap ClassMember.kept ++ [']'], rest) :=
    readClassContent_passes (.members members) ignoreCase rest (by
      rw [List.length_append]
      omega)
  obtain ⟨d, content, hcontent, hplain⟩ := Opens.members (fun member => (Opens.classMember member).1) h
  simp only [IsPlainInClass, List.mem_cons, List.not_mem_nil, or_false, not_or] at hplain
  rw [hcontent] at hpass
  -- the first character of the content neither closes the class nor negates it
  have hnext {c : Char} {after : List Char} (hsame : d :: content ++ ']' :: rest = c :: after) :
      c ≠ ']' ∧ c ≠ '^' := by
    obtain rfl : d = c := (List.cons.inj hsame).1
    exact ⟨hplain.2.2.2.1, hplain.1⟩
  cases negated with
  | true =>
    have htext : bracketed ClassMember.text true members ++ rest =
        '^' :: (d :: content ++ ']' :: rest) := by
      rw [bracketed, hcontent, if_pos rfl, List.append_assoc]
      rfl
    rw [htext, classText]
    · dsimp only
      rw [hpass]
      rfl
    · intro after heq
      exact (hnext heq).1 rfl
  | false =>
    have htext : bracketed ClassMember.text false members ++ rest = d :: content ++ ']' :: rest := by
      rw [bracketed, hcontent, if_neg Bool.false_ne_true, List.append_assoc]
      rfl
    rw [htext, classText]
    · rw [hpass]
      rfl
    · intro after heq
      exact (hnext heq).2 rfl
    · intro after heq
      exact (hnext heq).1 rfl

/-! ## The second pass -/

/-- A quoted character is read as this character. -/
theorem readClassItem_quoteInClass (ignoreCase : Bool) (c : Char) (rest : List Char) :
    readClassItem ignoreCase (quoteInClass c ++ rest) = .ok (.char c, rest) := by
  cases h : isClassOperator c with
  | true =>
    rw [quoteInClass, if_pos h]
    refine @of_isClassOperator (fun c => readClassItem ignoreCase (['\\', c] ++ rest) =
      .ok (.char c, rest)) (fun c hmem => ?_) c h
    simp only [List.mem_cons, List.not_mem_nil, or_false] at hmem
    rcases hmem with rfl | rfl | rfl | rfl | rfl | rfl | rfl | rfl | rfl | rfl | rfl | rfl | rfl | rfl |
      rfl | rfl | rfl | rfl
    all_goals rfl
  | false =>
    rw [quoteInClass, h, if_neg Bool.false_ne_true, List.singleton_append, readClassItem]
    · rfl
    · rintro d after rfl
      exact absurd h (by decide)

theorem readClassItem_kept (ignoreCase : Bool) (char : ClassChar) (rest : List Char) :
    readClassItem ignoreCase (char.kept ++ rest) = .ok (.char char.value, rest) := by
  cases char with
  | plain c hplain =>
    show readClassItem ignoreCase (c :: rest) = _
    rw [readClassItem]
    · rfl
    · rintro d after rfl
      exact absurd hplain (by decide)
  | escaped c _ => exact readClassItem_quoteInClass ignoreCase c rest
  | control _ c _ => exact readClassItem_quoteInClass ignoreCase c rest

/-- A single item is a member if no hyphen follows. -/
theorem readClassRange_of_item {ignoreCase : Bool} {text : List Char} {item : ClassItem} {next : Char}
    {rest : List Char} (hread : readClassItem ignoreCase text = .ok (item, next :: rest))
    (hnext : next ≠ '-') :
    readClassRange ignoreCase text = .ok (item.alone ignoreCase, next :: rest) := by
  rw [readClassRange, hread]
  dsimp only [bind, Except.bind]
  split
  · next heq => cases heq
  · next heq => exact absurd (List.cons.inj heq).1 hnext
  · next heq => exact absurd (List.cons.inj heq).1 hnext
  · next heq => exact absurd (List.cons.inj heq).1 hnext
  · rfl

/-- **A member is read as a set** if no hyphen follows. -/
theorem exists_readClassRange (ignoreCase : Bool) (member : ClassMember) {next : Char}
    (hnext : next ≠ '-') (rest : List Char) :
    ∃ set, readClassRange ignoreCase (member.kept ++ next :: rest) = .ok (set, next :: rest) := by
  cases member with
  | char c => exact ⟨_, readClassRange_of_item (readClassItem_kept ignoreCase c _) hnext⟩
  | range low high hordered =>
    obtain ⟨d, after, hkept, hplain⟩ := (Opens.classChar high).2
    simp only [IsPlainInClass, List.mem_cons, List.not_mem_nil, or_false, not_or] at hplain
    refine ⟨.leaf ignoreCase (.range low.value high.value), ?_⟩
    have hhigh := readClassItem_kept ignoreCase high (next :: rest)
    rw [ClassMember.kept, readClassRange, List.append_assoc, readClassItem_kept, List.cons_append]
    dsimp only [bind, Except.bind]
    rw [hkept] at hhigh ⊢
    -- the upper end is no closing bracket and no second hyphen
    split
    · next heq => cases heq
    · next heq =>
      injection heq with _ heq
      exact absurd (List.cons.inj heq).1 hplain.2.2.2.1
    · next heq =>
      injection heq with _ heq
      exact absurd (List.cons.inj heq).1 hplain.2.1
    · next heq =>
      injection heq with _ heq
      subst heq
      rw [hhigh]
      dsimp only
      rw [if_pos hordered]
      rfl
    · next hno => exact absurd rfl (hno _)
  | set letter hset =>
    obtain ⟨set, hset⟩ := Option.isSome_iff_exists.mp hset
    have hread : readClassItem ignoreCase ('\\' :: letter :: next :: rest) =
        .ok (.set set, next :: rest) := by
      rw [readClassItem, hset]
      rfl
    exact ⟨_, readClassRange_of_item hread hnext⟩
  | property name negated =>
    obtain ⟨set, hset⟩ := name.exists_readProperty negated ignoreCase (next :: rest)
    have hread : readClassItem ignoreCase ((ClassMember.property name negated).kept ++ next :: rest) =
        .ok (.set set, next :: rest) := by
      rw [ClassMember.kept, List.cons_append, name.text_append]
      cases negated with
      | true =>
        show (readProperty true ignoreCase _ >>= fun result =>
          pure (ClassItem.set result.1, result.2)) = _
        rw [hset]
        rfl
      | false =>
        show (readProperty false ignoreCase _ >>= fun result =>
          pure (ClassItem.set result.1, result.2)) = _
        rw [hset]
        rfl
    exact ⟨_, readClassRange_of_item hread hnext⟩

/-- A character that starts no member of its own kind is left to `readClassRange`. -/
theorem readClassBody_of_plain {c : Char} (hc : IsPlainInClass c) (ignoreCase : Bool) (fuel : Nat)
    (draft : ClassDraft) (rest : List Char) :
    readClassBody ignoreCase (fuel + 1) draft (c :: rest) = (do
      let (set, rest) ← readClassRange ignoreCase (c :: rest)
      readClassBody ignoreCase fuel (draft.add { set }) rest) := by
  simp only [IsPlainInClass, List.mem_cons, List.not_mem_nil, or_false, not_or] at hc
  rw [readClassBody]
  · intro heq
    cases heq
  all_goals
    intro after heq
    obtain ⟨rfl, _⟩ := List.cons.inj heq
    exact absurd hc (by decide)

/-- **All members are read** up to the bracket that closes the class. By induction on the members. -/
theorem exists_readClassBody (ignoreCase : Bool) (members : List ClassMember) {fuel : Nat}
    (hfuel : members.length + 1 ≤ fuel) (draft : ClassDraft) :
    ∃ part, readClassBody ignoreCase fuel draft (members.flatMap ClassMember.kept ++ [']']) =
      .ok (part, []) := by
  induction members generalizing fuel draft with
  | nil =>
    obtain ⟨fuel, rfl⟩ : ∃ left, fuel = left + 1 := ⟨fuel - 1, by omega⟩
    exact ⟨draft.value, rfl⟩
  | cons member members ih =>
    rw [List.length_cons] at hfuel
    obtain ⟨fuel, rfl⟩ : ∃ left, fuel = left + 1 := ⟨fuel - 1, by omega⟩
    obtain ⟨d, rest, hkept, hplain⟩ := (Opens.classMember member).2
    obtain ⟨next, after, hafter, hnext⟩ : ∃ next after,
        members.flatMap ClassMember.kept ++ [']'] = next :: after ∧ next ≠ '-' := by
      cases members with
      | nil => exact ⟨']', [], rfl, by decide⟩
      | cons second members =>
        obtain ⟨d, rest, hcontent, hplain⟩ :=
          Opens.members (fun member => (Opens.classMember member).2) (List.cons_ne_nil second members)
        refine ⟨d, rest ++ [']'], by rw [hcontent]; rfl, ?_⟩
        rintro rfl
        exact absurd hplain (by unfold IsPlainInClass; decide)
    obtain ⟨set, hset⟩ := exists_readClassRange ignoreCase member hnext after
    obtain ⟨part, hpart⟩ := ih (show members.length + 1 ≤ fuel by omega) (draft.add { set })
    refine ⟨part, ?_⟩
    have hwhole : (member :: members).flatMap ClassMember.kept ++ [']'] =
        d :: (rest ++ next :: after) := by
      rw [List.flatMap_cons, List.append_assoc, hafter, hkept]
      rfl
    rw [hkept] at hset
    rw [hwhole, readClassBody_of_plain hplain, ← List.cons_append, hset]
    dsimp only [bind, Except.bind]
    rw [← hafter, hpart]

theorem length_le_flatMap_kept (members : List ClassMember) :
    members.length ≤ (members.flatMap ClassMember.kept).length := by
  induction members with
  | nil => exact Nat.le_refl 0
  | cons member members ih =>
    obtain ⟨d, rest, hkept, _⟩ := (Opens.classMember member).2
    rw [List.flatMap_cons, hkept, List.length_append, List.length_cons, List.length_cons]
    omega

theorem exists_readClass (ignoreCase negated : Bool) {members : List ClassMember} (h : members ≠ [])
    {fuel : Nat} (hfuel : members.length + 2 ≤ fuel) :
    ∃ part, readClass ignoreCase fuel (bracketed ClassMember.kept negated members) =
      .ok (part, []) := by
  obtain ⟨fuel, rfl⟩ : ∃ left, fuel = left + 1 := ⟨fuel - 1, by omega⟩
  obtain ⟨part, hpart⟩ := exists_readClassBody ignoreCase members
    (show members.length + 1 ≤ fuel by omega) {}
  obtain ⟨d, content, hcontent, hplain⟩ := Opens.members (fun member => (Opens.classMember member).2) h
  simp only [IsPlainInClass, List.mem_cons, List.not_mem_nil, or_false, not_or] at hplain
  have hhyphens : leadingHyphens (d :: content ++ [']']) = ([], d :: content ++ [']']) := by
    rw [List.cons_append, leadingHyphens]
    intro after heq
    exact hplain.2.1 (List.cons.inj heq).1
  rw [hcontent] at hpart
  cases negated with
  | true =>
    have htext : bracketed ClassMember.kept true members = '^' :: (d :: content ++ [']']) := by
      rw [bracketed, hcontent]
      rfl
    rw [htext, readClass]
    dsimp only
    rw [hhyphens]
    split
    · next _ heq =>
      exact absurd (List.cons.inj heq).1 hplain.2.2.2.1
    · dsimp only
      rw [hpart]
      exact ⟨_, rfl⟩
  | false =>
    have htext : bracketed ClassMember.kept false members = d :: content ++ [']'] := by
      rw [bracketed, hcontent]
      rfl
    rw [htext, readClass]
    · rw [hhyphens]
      dsimp only
      split
      · next _ heq =>
        exact absurd (List.cons.inj heq).1 hplain.2.2.2.1
      · dsimp only
        rw [hpart]
        exact ⟨_, rfl⟩
    · intro after heq
      exact hplain.1 (List.cons.inj heq).1

/-- **The text of a class is read as a class**, and nothing in it is left behind the class. -/
theorem exists_readClassText (ignoreCase negated : Bool) {members : List ClassMember} (h : members ≠ []) :
    ∃ parts nesting, readClassText ignoreCase (bracketed ClassMember.kept negated members) =
      .ok (parts, nesting) := by
  have hlength := length_le_flatMap_kept members
  obtain ⟨part, hpart⟩ := exists_readClass ignoreCase negated h
    (show members.length + 2 ≤ 2 * (bracketed ClassMember.kept negated members).length + 2 by
      rw [bracketed, List.length_append, List.length_append]
      omega)
  rw [readClassText, hpart]
  cases ignoreCase with
  | true => exact ⟨_, _, rfl⟩
  | false => exact ⟨_, _, rfl⟩

end ScopeScanner.Regex
