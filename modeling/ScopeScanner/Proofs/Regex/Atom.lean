import ScopeScanner.Proofs.Regex.Bracket
import ScopeScanner.Proofs.Regex.Limits
import ScopeScanner.Proofs.Regex.Literal

/-!
# Atoms and quantifiers as they are written

An atom is a character, an escape that stands for a set, a character or an assertion, an anchor of lines,
the dot, or a class in brackets. It is read as a leaf or an assertion, whatever follows
(`Regex.Atom.exists_read`), and a quantifier behind it repeats it as it says
(`Regex.Quantifier.quantify_text`).
-/

namespace ScopeScanner.Regex

/-! ## Quantifiers -/

/-- How often something is repeated. -/
inductive Times where
  | optional
  | star
  | plus
  | exactly (count : Nat) (hcount : count ≤ Node.maxBound)
  | atLeast (least : Nat) (hleast : least ≤ Node.maxBound)
  | between (least most : Nat) (hordered : least ≤ most) (hmost : most ≤ Node.maxBound)

namespace Times

def least : Times → Nat
  | optional | star => 0
  | plus => 1
  | exactly count _ => count
  | atLeast least _ => least
  | between least _ _ _ => least

def most : Times → Option Nat
  | optional => some 1
  | star | plus | atLeast _ _ => none
  | exactly count _ => some count
  | between _ most _ _ => some most

/-- How the number of repetitions is written. -/
def text : Times → List Char
  | optional => ['?']
  | star => ['*']
  | plus => ['+']
  | exactly count _ => '\x7b' :: (Nat.toDigits 10 count ++ ['\x7d'])
  | atLeast least _ => '\x7b' :: (Nat.toDigits 10 least ++ [',', '\x7d'])
  | between least most _ _ =>
    '\x7b' :: (Nat.toDigits 10 least ++ ',' :: (Nat.toDigits 10 most ++ ['\x7d']))

theorem inOrder (times : Times) : Node.InOrder times.least times.most := by
  cases times with
  | optional =>
    refine ⟨Nat.zero_le _, fun bound hbound => ?_⟩
    cases hbound
    decide
  | star => exact ⟨Nat.zero_le _, fun bound hbound => by cases hbound⟩
  | plus => exact ⟨by decide, fun bound hbound => by cases hbound⟩
  | exactly count hcount =>
    refine ⟨hcount, fun bound hbound => ?_⟩
    cases hbound
    exact ⟨Nat.le_refl _, hcount⟩
  | atLeast least hleast => exact ⟨hleast, fun bound hbound => by cases hbound⟩
  | between least most hordered hmost =>
    refine ⟨Nat.le_trans hordered hmost, fun bound hbound => ?_⟩
    cases hbound
    exact ⟨hordered, hmost⟩

end Times

theorem decimalNumber_toDigits (n : Nat) : decimalNumber (Nat.toDigits 10 n) = n := by
  have hvalue := Nat.ofDigitChars_ten_toDigits (n := n)
  rw [Nat.ofDigitChars_eq_foldl] at hvalue
  rw [decimalNumber]
  simpa only [Nat.mul_comm] using hvalue

/-- A number is read up to the first character that is no digit. -/
theorem readDecimal?_toDigits {n : Nat} (hn : n ≤ Node.maxBound) {c : Char} (hc : c.isDigit = false)
    (rest : List Char) :
    readDecimal? (Nat.toDigits 10 n ++ c :: rest) = some (n, c :: rest) := by
  have hdigits (d : Char) (hd : d ∈ Nat.toDigits 10 n) : d.isDigit = true :=
    Nat.isDigit_of_mem_toDigits (by decide) (by decide) hd
  have hsmall : ¬ maxNumber < n := Nat.not_lt_of_le (Nat.le_trans hn (by decide))
  have hempty : (Nat.toDigits 10 n).isEmpty = false :=
    List.isEmpty_eq_false_iff.mpr Nat.toDigits_ne_nil
  rw [readDecimal?, List.takeWhile_append_of_pos hdigits, List.dropWhile_append_of_pos hdigits,
    List.takeWhile_cons_of_neg (by rw [hc]; exact Bool.false_ne_true),
    List.dropWhile_cons_of_neg (by rw [hc]; exact Bool.false_ne_true), List.append_nil, number?]
  simp only [decimalNumber_toDigits, hempty, hsmall, decide_false, Bool.or_false, Bool.false_eq_true,
    if_false, Option.map_some]

/-- A number starts with a digit, which is neither skipped nor a comma. -/
theorem toDigits_eq_cons (n : Nat) : ∃ d rest, Nat.toDigits 10 n = d :: rest ∧ d ≠ '(' ∧ d ≠ ',' := by
  obtain ⟨d, rest, heq⟩ := List.exists_cons_of_ne_nil (Nat.toDigits_ne_nil (n := n) (b := 10))
  have hdigit : d.isDigit = true :=
    Nat.isDigit_of_mem_toDigits (by decide) (by decide) (heq ▸ List.mem_cons_self)
  refine ⟨d, rest, heq, ?_, ?_⟩
  all_goals
    rintro rfl
    exact absurd hdigit (by decide)

namespace Times

/-- **The number of repetitions is read as it is written.** -/
theorem readQuantifier?_text (times : Times) {progress : Progress} (hsimple : progress.Simple)
    (rest : List Char) :
    readQuantifier? progress (times.text ++ rest) = some (times.least, times.most, rest) := by
  have hclosing : skipBlanks false ('\x7d' :: rest) = .ok ('\x7d' :: rest) :=
    skipBlanks_cons (by decide) rest
  have hcomma (text : List Char) : skipBlanks false (',' :: text) = .ok (',' :: text) :=
    skipBlanks_cons (by decide) text
  cases times with
  | optional | star | plus => rfl
  | exactly count hcount =>
    obtain ⟨d, digits, hdigits, hd, hno⟩ := toDigits_eq_cons count
    have hread := readDecimal?_toDigits hcount (show Char.isDigit '\x7d' = false by decide) rest
    have htext : (exactly count hcount).text ++ rest = '\x7b' :: d :: (digits ++ '\x7d' :: rest) := by
      rw [text, hdigits]
      simp
    rw [hdigits, List.cons_append] at hread
    rw [htext]
    simp [readQuantifier?, hsimple.strict, readBounds?, skipBlanks_cons hd, hread, hclosing, hno,
      Except.toOption, least, most]
  | atLeast least hleast =>
    obtain ⟨d, digits, hdigits, hd, hno⟩ := toDigits_eq_cons least
    have hread := readDecimal?_toDigits hleast (show Char.isDigit ',' = false by decide)
      ('\x7d' :: rest)
    have hnone : readDecimal? ('\x7d' :: rest) = none := rfl
    have htext : (atLeast least hleast).text ++ rest =
        '\x7b' :: d :: (digits ++ ',' :: '\x7d' :: rest) := by
      rw [text, hdigits]
      simp
    rw [hdigits, List.cons_append] at hread
    rw [htext]
    simp [readQuantifier?, hsimple.strict, readBounds?, skipBlanks_cons hd, hread, hclosing, hcomma,
      hnone, hno, Except.toOption, Times.least, most]
  | between least most hordered hmost =>
    obtain ⟨d, digits, hdigits, hd, hno⟩ := toDigits_eq_cons least
    obtain ⟨e, digits', hdigits', he, _⟩ := toDigits_eq_cons most
    have hread := readDecimal?_toDigits (Nat.le_trans hordered hmost)
      (show Char.isDigit ',' = false by decide) (e :: (digits' ++ '\x7d' :: rest))
    have hread' := readDecimal?_toDigits hmost (show Char.isDigit '\x7d' = false by decide) rest
    have hsmall : most ≠ maxNumber := Nat.ne_of_lt (Nat.lt_of_le_of_lt hmost (by decide))
    have htext : (between least most hordered hmost).text ++ rest =
        '\x7b' :: d :: (digits ++ ',' :: e :: (digits' ++ '\x7d' :: rest)) := by
      rw [text, hdigits, hdigits']
      simp
    rw [hdigits, List.cons_append] at hread
    rw [hdigits', List.cons_append] at hread'
    rw [htext]
    simp [readQuantifier?, hsimple.strict, readBounds?, skipBlanks_cons hd, skipBlanks_cons he, hread,
      hread', hclosing, hcomma, hno, hsmall, Except.toOption, Times.least, Times.most]

end Times

/-- Whether more or fewer repetitions are preferred, or none but the preferred number is tried. -/
inductive Preference where
  | more
  | fewer
  | settled

def Preference.text : Preference → List Char
  | more => []
  | fewer => ['?']
  | settled => ['+']

/-- A quantifier behind an atom or a parenthesis. -/
structure Quantifier where
  times : Times
  preference : Preference

namespace Quantifier

def text (quantifier : Quantifier) : List Char :=
  quantifier.times.text ++ quantifier.preference.text

/-- The repetition of a body. -/
def node (quantifier : Quantifier) (swapGreed : Bool) (body : Node) : Node :=
  let repetition (marked : Bool) : Node :=
    .repeated quantifier.times.least quantifier.times.most (marked == swapGreed) body
  match quantifier.preference with
  | .more => repetition false
  | .fewer => repetition true
  | .settled => .atomic (repetition false)

end Quantifier

/-- A text behind which the one before it has ended: it is not skipped, and if it starts with a brace,
that is a quantifier. -/
structure Follows (text : List Char) : Prop where
  shown : skipBlanks false text = .ok text
  bounds : ∀ inner, text = '\x7b' :: inner → (readBounds? false inner).isSome = true

theorem Sets.follows {rest : List Char} (h : Sets rest) : Follows rest where
  shown := h.shown
  bounds := by
    rintro inner rfl
    exact absurd (h.first _ rfl) (by decide)

section Reading

variable {progress : Progress} {rest : List Char}

theorem Follows.skip (h : Follows rest) (hsimple : progress.Simple) : progress.skip rest = .ok rest := by
  rw [Progress.skip, hsimple.strict]
  exact h.shown

namespace Times

theorem follows (times : Times) (rest : List Char) : Follows (times.text ++ rest) := by
  have hread := times.readQuantifier?_text .lines rest
  cases times with
  | optional | star | plus => exact ⟨rfl, fun inner heq => by cases heq⟩
  | exactly _ _ | atLeast _ _ | between _ _ _ _ =>
    refine ⟨skipBlanks_cons (by decide) _, fun inner heq => ?_⟩
    rw [heq] at hread
    exact Option.isSome_of_eq_some hread

end Times

namespace Quantifier

theorem follows (quantifier : Quantifier) (rest : List Char) : Follows (quantifier.text ++ rest) := by
  rw [text, List.append_assoc]
  exact quantifier.times.follows _

/-- **A quantifier repeats the node in front of it.** -/
theorem quantify_text (quantifier : Quantifier) (hsimple : progress.Simple) (hrest : Sets rest)
    {node : Node} (hnode : node.isRepeatable = true) :
    quantify progress node (quantifier.text ++ rest) =
      .ok (quantifier.node progress.flags.swapGreed node, rest, progress) := by
  obtain ⟨times, preference⟩ := quantifier
  have hfollows := times.follows (preference.text ++ rest)
  rw [text, List.append_assoc, quantify, hfollows.skip hsimple]
  dsimp only [bind, Except.bind]
  rw [times.readQuantifier?_text hsimple]
  dsimp only
  rw [hnode]
  -- what follows carries no further mark
  have hmore : ∀ c ∈ rest.head?, c ≠ '?' ∧ c ≠ '+' := by
    intro c hc
    have hother := hrest.first c hc
    simp only [List.mem_cons, List.not_mem_nil, or_false, not_or] at hother
    exact ⟨hother.1, hother.2.2.1⟩
  cases preference with
  | more =>
    rw [show Preference.more.text ++ rest = rest from rfl, hrest.skip hsimple]
    cases rest with
    | nil => rfl
    | cons c rest =>
      obtain ⟨hfewer, hsettled⟩ := hmore c rfl
      simp [hfewer, hsettled, Quantifier.node, pure, Except.pure]
  | fewer =>
    have hskip : progress.skip ('?' :: rest) = .ok ('?' :: rest) :=
      (Times.optional.follows rest).skip hsimple
    rw [show Preference.fewer.text ++ rest = '?' :: rest from rfl, hskip]
    cases rest with
    | nil => rfl
    | cons c rest =>
      obtain ⟨_, hsettled⟩ := hmore c rfl
      simp [hsettled, Quantifier.node, pure, Except.pure]
  | settled =>
    have hskip : progress.skip ('+' :: rest) = .ok ('+' :: rest) :=
      (Times.plus.follows rest).skip hsimple
    rw [show Preference.settled.text ++ rest = '+' :: rest from rfl, hskip]
    rfl

end Quantifier

end Reading

/-! ## Atoms -/

/-- The letters of escapes that stand for a set or a character. -/
def setLetters : List Char :=
  ['d', 'D', 's', 'S', 'w', 'W', 'h', 'H', 'O', 'N', 'a', 'f', 'n', 'r', 't', 'v', 'e']

/-- The smallest parts of an expression. -/
inductive Atom where
  /-- A character that has no meaning of its own. -/
  | plain (c : Char) (hplain : c ∉ operators)
  /-- A character behind a backslash that stands for itself. -/
  | escaped (c : Char) (hescaped : c.isAlphanum = false) (hassertion : assertionOf? c = none)
  | dot
  | set (letter : Char) (hset : letter ∈ setLetters)
  | property (name : PropertyName) (negated : Bool)
  | bracket (negated : Bool) (members : List ClassMember) (hmembers : members ≠ [])
  | lineStart
  | lineEnd
  | assertion (letter : Char) (hassertion : (assertionOf? letter).isSome = true)
  /-- The boundary of a word, or a place that is none. -/
  | boundary (negated : Bool)
  /-- The match begins here. -/
  | keepOut

namespace Atom

def text : Atom → List Char
  | plain c _ => [c]
  | escaped c _ _ => ['\\', c]
  | dot => ['.']
  | set letter _ => ['\\', letter]
  | property name negated => '\\' :: name.text negated
  | bracket negated members _ => '[' :: bracketed ClassMember.text negated members
  | lineStart => ['^']
  | lineEnd => ['$']
  | assertion letter _ => ['\\', letter]
  | boundary negated => ['\\', if negated then 'B' else 'b']
  | keepOut => ['\\', 'K']

/-- Whether an automaton can run the atom. -/
def isPlain : Atom → Bool
  | assertion letter _ => (assertionOf? letter).any Assertion.isPlain
  | boundary _ | keepOut => false
  | _ => true

end Atom

/-- The nodes that atoms are read as. -/
inductive Node.IsAtom : Node → Prop where
  | leaf (parts : List Plain) (depth : Nat) : IsAtom (.leaf parts depth)
  | assertion (a : Assertion) : IsAtom (.assertion a)
  | keepOut : IsAtom .keepOut

section Reading

variable {progress : Progress} {rest : List Char}

/-- What follows a word boundary gives no name to it. -/
theorem readWordBoundary_of_follows (hrest : Follows rest) (negated : Bool) :
    readWordBoundary false negated rest =
      .ok (.assertion (if negated then .notWordBoundary else .wordBoundary), rest) := by
  rw [readWordBoundary, hrest.shown]
  dsimp only [bind, Except.bind]
  split
  · next inner =>
    rw [if_pos (hrest.bounds inner rfl)]
    rfl
  · rfl

theorem readEscape_escaped {c : Char} (hescaped : c.isAlphanum = false)
    (hassertion : assertionOf? c = none) (ignoreCase : Bool) :
    readEscape false ignoreCase (c :: rest) = .ok (.char c false, rest) := by
  obtain ⟨halpha, hdigit⟩ := Bool.or_eq_false_iff.mp hescaped
  rw [readEscape, readCharEscape?_of_not_isAlpha halpha, hassertion]
  · dsimp only
    rw [hdigit, halpha, if_neg Bool.false_ne_true, if_neg Bool.false_ne_true]
    rfl
  -- the other escapes are letters
  all_goals
    rintro rfl
    exact absurd halpha (by decide)

theorem exists_readEscape_property (name : PropertyName) (negated ignoreCase : Bool) :
    ∃ set, readEscape false ignoreCase (name.text negated ++ rest) =
      .ok (.set set ('\\' :: name.text negated), rest) := by
  obtain ⟨set, hread⟩ := name.exists_readCharEscape? negated ignoreCase rest
  refine ⟨set, ?_⟩
  rw [name.text_append, readEscape, hread]
  all_goals cases negated <;> decide

theorem exists_readEscape_set {letter : Char} (h : letter ∈ setLetters) (ignoreCase : Bool) :
    (∃ set text, readEscape false ignoreCase (letter :: rest) = .ok (.set set text, rest)) ∨
      ∃ c, readEscape false ignoreCase (letter :: rest) = .ok (.char c false, rest) := by
  simp only [setLetters, List.mem_cons, List.not_mem_nil, or_false] at h
  rcases h with rfl | rfl | rfl | rfl | rfl | rfl | rfl | rfl | rfl | rfl | rfl | rfl | rfl | rfl | rfl |
    rfl | rfl
  all_goals first | exact Or.inl ⟨_, _, rfl⟩ | exact Or.inr ⟨_, rfl⟩

theorem readEscape_assertion {letter : Char} {a : Assertion} (h : assertionOf? letter = some a)
    (ignoreCase : Bool) :
    readEscape false ignoreCase (letter :: rest) = .ok (.assertion a, rest) := by
  unfold assertionOf? at h
  split at h
  all_goals
    cases h
    try rfl

/-- **An atom is read as a leaf or an assertion**, whatever follows it. -/
theorem Atom.exists_read (atom : Atom) (hsimple : progress.Simple) (hrest : Follows rest)
    (fuel depth : Nat) :
    ∃ node, readAtom (fuel + 1) depth progress (atom.text ++ rest) = .ok (node, rest, progress) ∧
      node.IsAtom ∧ (atom.isPlain = true → node.isHard [] = false) := by
  cases atom with
  | plain c hplain =>
    rw [text, List.singleton_append, readAtom_plain hsimple hplain]
    exact ⟨_, rfl, .leaf _ _, fun _ => by rw [Progress.literal, Node.ofSet, Node.isHard]⟩
  | escaped c hescaped hassertion =>
    rw [text, List.cons_append, List.singleton_append, readAtom_escape hsimple,
      readEscape_escaped hescaped hassertion]
    exact ⟨_, rfl, .leaf _ _, fun _ => by rw [Node.ofSet, Node.isHard]⟩
  | dot =>
    have hskip : progress.skip ('.' :: rest) = .ok ('.' :: rest) :=
      (Sets.cons (by decide) rest).skip hsimple
    rw [text, List.singleton_append, readAtom, hskip]
    exact ⟨_, rfl, .leaf _ _, fun _ => by rw [Node.ofSet, Node.isHard]⟩
  | set letter hset =>
    rw [text, List.cons_append, List.singleton_append, readAtom_escape hsimple]
    rcases exists_readEscape_set hset progress.flags.ignoreCase with ⟨set, shown, hread⟩ | ⟨c, hread⟩
    all_goals
      rw [hread]
      exact ⟨_, rfl, .leaf _ _, fun _ => by rw [Node.ofSet, Node.isHard]⟩
  | property name negated =>
    obtain ⟨set, hread⟩ := exists_readEscape_property name negated progress.flags.ignoreCase
    rw [text, List.cons_append, readAtom_escape hsimple, hread]
    exact ⟨_, rfl, .leaf _ _, fun _ => by rw [Node.ofSet, Node.isHard]⟩
  | bracket negated members hmembers =>
    have hskip (text : List Char) : progress.skip ('[' :: text) = .ok ('[' :: text) :=
      (Sets.cons (by decide) text).skip hsimple
    obtain ⟨parts, nesting, hread⟩ :=
      exists_readClassText progress.flags.ignoreCase negated hmembers
    rw [text, List.cons_append, readAtom, hskip]
    dsimp only [bind, Except.bind]
    rw [hsimple.strict, classText_bracketed _ _ hmembers]
    dsimp only
    rw [hread]
    exact ⟨_, rfl, .leaf _ _, fun _ => by rw [Node.isHard]⟩
  | lineStart =>
    have hskip : progress.skip ('^' :: rest) = .ok ('^' :: rest) :=
      (Sets.cons (by decide) rest).skip hsimple
    rw [text, List.singleton_append, readAtom, hskip]
    refine ⟨_, rfl, .assertion _, fun _ => ?_⟩
    cases progress.flags.multiline <;> rfl
  | lineEnd =>
    have hskip : progress.skip ('$' :: rest) = .ok ('$' :: rest) :=
      (Sets.cons (by decide) rest).skip hsimple
    rw [text, List.singleton_append, readAtom, hskip]
    refine ⟨_, rfl, .assertion _, fun _ => ?_⟩
    cases progress.flags.multiline <;> rfl
  | assertion letter hassertion =>
    obtain ⟨a, ha⟩ := Option.isSome_iff_exists.mp hassertion
    rw [text, List.cons_append, List.singleton_append, readAtom_escape hsimple, readEscape_assertion ha]
    refine ⟨_, rfl, .assertion _, fun hplain => ?_⟩
    rw [isPlain, ha] at hplain
    rw [Node.isHard, show a.isPlain = true from hplain]
    rfl
  | boundary negated =>
    have hread : readEscape false progress.flags.ignoreCase
        ((if negated then 'B' else 'b') :: rest) =
          .ok (.assertion (if negated then .notWordBoundary else .wordBoundary), rest) := by
      have hboundary := readWordBoundary_of_follows hrest negated
      cases negated with
      | true => exact hboundary
      | false => exact hboundary
    rw [text, List.cons_append, List.singleton_append, readAtom_escape hsimple, hread]
    refine ⟨_, rfl, .assertion _, fun hplain => ?_⟩
    cases hplain
  | keepOut =>
    rw [text, List.cons_append, List.singleton_append, readAtom_escape hsimple]
    refine ⟨_, rfl, .keepOut, fun hplain => ?_⟩
    cases hplain

end Reading

end ScopeScanner.Regex
