import ScopeScanner.Proofs.Document.Distinct
import ScopeScanner.Proofs.Grammar.Acceptance

/-!
# Accepted documents are read

The reader of grammars and the checks of grammar documents describe the shape of a document on their
own. They agree: a document that is accepted and holds each key once is read, and the texts of what
is read are the accepted texts of the document.

A rule is read by its fields, and those by the rules below them, so the argument is by the size of
the document; the lemmas about the parts take the rules below as readable (`Schema.ReadableBelow`):

* **`Schema.readable_of_checkRule`**: an accepted rule is read.
* **`Grammar.ofDocument_of_violations`**: an accepted grammar is read, with a rule under each key of
  its repository.
-/

namespace ScopeScanner

open Json (Tree treesOfDocuments treesOfEntries)

/-- A known key that has not been met yet is noted. -/
theorem noteKey_new {known seen : List String} {key : String} {value : Document}
    (hknown : key ∈ known) (hnew : key ∉ seen) :
    noteKey known seen key (.ofDocument value) = .ok (key :: seen) := by
  have hnote : (if !known.contains key then (return seen : Except Json.Fault (List String))
      else if seen.contains key then throw .mismatch else return key :: seen) =
        .ok (key :: seen) := by
    rw [if_neg (by simpa using hknown), if_neg (by simpa using hnew)]
    rfl
  cases value
  all_goals exact hnote

section Entries

variable {State Result : Type} {known : List String}
  (read : List (String × Tree) → List String → State → Except Json.Fault Result)
  (field : String → Tree → State → Except Json.Fault State)
  (finish : List String → State → Result) (Holds : List String → State → Prop)

/-- Reading the entries of a record, one field after the other, succeeds if each field can be read.
`Holds` is what is known once some keys have been met. -/
theorem entries_read (hnil : ∀ seen state, read [] seen state = .ok (finish seen state))
    (hcons : ∀ key tree rest seen state, read ((key, tree) :: rest) seen state = (do
      let seen ← noteKey known seen key tree
      let state ← field key tree state
      read rest seen state))
    (entries : List (String × Document)) (hkeys : (entries.map (·.1)).Nodup)
    (hknown : ∀ entry ∈ entries, entry.1 ∈ known)
    (hfield : ∀ entry ∈ entries, ∀ seen state, Holds seen state →
      ∃ state', field entry.1 (.ofDocument entry.2) state = .ok state' ∧
        Holds (entry.1 :: seen) state')
    (seen : List String) (hnew : ∀ entry ∈ entries, entry.1 ∉ seen) (state : State)
    (hstate : Holds seen state) :
    ∃ state', read (treesOfEntries entries) seen state =
        .ok (finish ((entries.map (·.1)).reverse ++ seen) state') ∧
      Holds ((entries.map (·.1)).reverse ++ seen) state' := by
  induction entries generalizing seen state with
  | nil => exact ⟨state, hnil seen state, hstate⟩
  | cons entry rest ih =>
    obtain ⟨key, value⟩ := entry
    rw [List.map_cons, List.nodup_cons] at hkeys
    obtain ⟨next, hread, hnext⟩ := hfield (key, value) List.mem_cons_self seen state hstate
    -- no later key is this one, because the document holds each key once
    have hlater : ∀ entry ∈ rest, entry.1 ∉ key :: seen := by
      intro entry hentry hmem
      rcases List.mem_cons.mp hmem with rfl | hmem
      · exact hkeys.1 (List.mem_map.mpr ⟨entry, hentry, rfl⟩)
      · exact hnew entry (List.mem_cons_of_mem _ hentry) hmem
    obtain ⟨last, hlast, hholds⟩ := ih hkeys.2
      (fun entry hentry => hknown entry (List.mem_cons_of_mem _ hentry))
      (fun entry hentry => hfield entry (List.mem_cons_of_mem _ hentry))
      (key :: seen) hlater next hnext
    rw [List.map_cons, List.reverse_cons, List.append_assoc, List.singleton_append]
    refine ⟨last, ?_, hholds⟩
    rw [treesOfEntries, hcons,
      noteKey_new (hknown _ List.mem_cons_self) (hnew _ List.mem_cons_self)]
    dsimp only [bind, Except.bind]
    rw [hread]
    exact hlast

end Entries

theorem sizeOf_item_lt {items : List Document} {item : Document} (h : item ∈ items) :
    sizeOf item < sizeOf (Document.array items) := by
  have hlt := List.sizeOf_lt_of_mem h
  simp only [Document.array.sizeOf_spec]
  omega

theorem sizeOf_value_lt {entries : List (String × Document)} {entry : String × Document}
    (h : entry ∈ entries) : sizeOf entry.2 < sizeOf (Document.object entries) := by
  have hlt := List.sizeOf_lt_of_mem h
  obtain ⟨key, value⟩ := entry
  simp only [Document.object.sizeOf_spec, Prod.mk.sizeOf_spec] at hlt ⊢
  omega

/-- A map of captures keeps satisfying a condition when a capture is added. -/
theorem AllCaptures.insert {Holds : TextKind → String → Prop}
    {captures : List (String × CaptureSpec RuleSpec)} {capture : CaptureSpec RuleSpec} (key : String)
    (hcaptures : AllCaptures Holds captures) (hcapture : AllRules Holds capture.patterns) :
    AllCaptures Holds (insertEntry captures key capture) := by
  induction captures with
  | nil => exact ⟨hcapture, trivial⟩
  | cons first rest ih =>
    rw [insertEntry]
    split
    · exact ⟨hcapture, hcaptures.2⟩
    · exact ⟨hcaptures.1, ih hcaptures.2⟩

namespace Schema

/-- A document that is read as a rule with accepted texts. -/
def Readable (context : Context) (document : Document) : Prop :=
  ∃ rule, readRule none (.ofDocument document) = .ok rule ∧ rule.All (Accepted context)

/-- All accepted rules below a size are read. -/
def ReadableBelow (context : Context) (size : Nat) : Prop :=
  ∀ (document : Document) (path : String), sizeOf document < size →
    document.distinctKeys = true → checkRule context path document = [] →
      Readable context document

section Parts

variable {context : Context} {path key : String} {value : Document} {size : Nat}

/-- A list of rules is read. -/
theorem rules_read {items : List Document} (hbelow : ReadableBelow context size)
    (hsize : sizeOf (Document.array items) ≤ size)
    (hkeys : (Document.array items).distinctKeys = true)
    (hitems : ∀ item ∈ items, ∃ below, checkRule context below item = []) :
    ∃ rules, readRulesIn none (treesOfDocuments items) = .ok rules ∧
      AllRules (Accepted context) rules := by
  rw [Document.distinctKeys_array] at hkeys
  -- sizes and checks are needed once, for each item; the list itself is plain
  have hreadable : ∀ item ∈ items, Readable context item := by
    intro item hitem
    obtain ⟨below, hcheck⟩ := hitems item hitem
    have hlt := sizeOf_item_lt hitem
    exact hbelow item below (by omega) (hkeys item hitem) hcheck
  clear hsize hkeys hitems
  induction items with
  | nil => exact ⟨[], rfl, trivial⟩
  | cons item rest ih =>
    obtain ⟨rule, hrule, hall⟩ := hreadable item List.mem_cons_self
    obtain ⟨rules, hrules, halls⟩ :=
      ih fun item hitem => hreadable item (List.mem_cons_of_mem _ hitem)
    refine ⟨rule :: rules, ?_, hall, halls⟩
    rw [treesOfDocuments, readRulesIn, hrule]
    dsimp only [bind, Except.bind]
    rw [hrules]
    rfl

/-! ## Captures -/

theorem captureField_read (hbelow : ReadableBelow context size) (hsize : sizeOf value ≤ size)
    (hkeys : value.distinctKeys = true) (hfield : AcceptedCaptureField context path key value)
    (capture : CaptureSpec RuleSpec) (hcapture : AllRules (Accepted context) capture.patterns) :
    ∃ capture', readCaptureField none key (.ofDocument value) capture = .ok capture' ∧
      AllRules (Accepted context) capture'.patterns := by
  have hknown := hfield.known
  simp only [captureKeys, List.mem_cons, List.not_mem_nil, or_false] at hknown
  rcases hknown with rfl | rfl
  · obtain ⟨text, rfl⟩ := hfield.name rfl
    exact ⟨{ capture with name := some text }, rfl, hcapture⟩
  · obtain ⟨items, rfl, hchecked⟩ := hfield.patterns rfl
    obtain ⟨rules, hrules, hall⟩ := rules_read hbelow hsize hkeys (checkRules_eq_nil hchecked)
    refine ⟨{ capture with patterns := rules }, ?_, hall⟩
    rw [readCaptureField.eq_def, Tree.ofDocument]
    -- a document has no fault at its end, and no limit on its levels
    show (readRulesIn none (treesOfDocuments items) >>= fun rules =>
      return { capture with patterns := rules }) = _
    rw [hrules]
    rfl

/-- The fields of a capture are read. -/
theorem capture_read {fields : List (String × Document)} (hbelow : ReadableBelow context size)
    (hsize : sizeOf (Document.object fields) ≤ size)
    (hkeys : (Document.object fields).distinctKeys = true)
    (hfields : ∀ field ∈ fields, AcceptedCaptureField context path field.1 field.2) :
    ∃ capture, readCapture none (.ofDocument (.object fields)) = .ok capture ∧
      AllRules (Accepted context) capture.patterns := by
  rw [Document.distinctKeys_object] at hkeys
  obtain ⟨capture, hread, hall⟩ := entries_read (readCaptureEntries none) (readCaptureField none)
    (fun _ capture => capture) (fun _ capture => AllRules (Accepted context) capture.patterns)
    (fun _ _ => rfl) (fun _ _ _ _ _ => by rw [readCaptureEntries]) fields hkeys.1
    (fun field hfield => (hfields field hfield).known)
    (fun field hfield _ capture => captureField_read hbelow
      (by have := sizeOf_value_lt hfield; omega) (hkeys.2 field hfield) (hfields field hfield) capture)
    [] (fun _ _ => List.not_mem_nil) {} trivial
  refine ⟨capture, ?_, hall⟩
  rw [Tree.ofDocument, readCapture]
  show (readCaptureEntries none (treesOfEntries fields) [] {} >>= fun capture =>
    .ok capture) = _
  rw [hread]
  rfl

/-- A map of captures is read. -/
theorem captures_read {entries : List (String × Document)} (hbelow : ReadableBelow context size)
    (hsize : sizeOf (Document.object entries) ≤ size)
    (hkeys : (Document.object entries).distinctKeys = true)
    (hentries : checkCaptures context path entries = []) :
    ∃ captures, readCapturesIn none (treesOfEntries entries) [] = .ok captures ∧
      AllCaptures (Accepted context) captures := by
  have hreadable : ∀ entry ∈ entries, ∃ capture,
      readCapture none (.ofDocument entry.2) = .ok capture ∧
        AllRules (Accepted context) capture.patterns := by
    intro entry hentry
    obtain ⟨below, fields, hobject, hfields⟩ := checkCaptures_eq_nil hentries entry hentry
    have hlt := sizeOf_value_lt hentry
    have hdistinct := (Document.distinctKeys_object.mp hkeys).2 entry hentry
    rw [hobject] at hlt hdistinct ⊢
    exact capture_read hbelow (by omega) hdistinct
      (hfields (Document.distinctKeys_object.mp hdistinct).1)
  clear hsize hkeys hentries
  -- the captures that have been read already satisfy the condition, too
  suffices hdone : ∀ done, AllCaptures (Accepted context) done → ∃ captures,
      readCapturesIn none (treesOfEntries entries) done = .ok captures ∧
        AllCaptures (Accepted context) captures from hdone [] trivial
  induction entries with
  | nil => exact fun done hdone => ⟨done, rfl, hdone⟩
  | cons entry rest ih =>
    intro done hdone
    obtain ⟨key, value⟩ := entry
    obtain ⟨capture, hread, hall⟩ := hreadable (key, value) List.mem_cons_self
    obtain ⟨captures, hcaptures, halls⟩ :=
      ih (fun entry hentry => hreadable entry (List.mem_cons_of_mem _ hentry))
        (insertEntry done key capture) (hdone.insert key hall)
    refine ⟨captures, ?_, halls⟩
    rw [treesOfEntries, readCapturesIn, hread]
    exact hcaptures

/-! ## Rules -/

/-- A rule without fields has no texts. -/
theorem all_empty {Holds : TextKind → String → Prop} : RuleSpec.All Holds {} :=
  ⟨fun _ h => (Option.not_mem_none _ h).elim, fun _ h => (Option.not_mem_none _ h).elim,
    fun _ h => (Option.not_mem_none _ h).elim, fun _ h => (Option.not_mem_none _ h).elim,
    trivial, trivial, trivial, trivial⟩

/-- A text of a rule is read. -/
theorem ruleText_read (htext : key ∈ ruleTextKeys) (hfield : AcceptedField context path key value)
    (rule : RuleSpec) (hrule : rule.All (Accepted context)) :
    ∃ rule', readRuleField none key (.ofDocument value) rule = .ok rule' ∧
      rule'.All (Accepted context) := by
  obtain ⟨text, rfl, hinclude, hregex, hend⟩ := hfield.text htext
  obtain ⟨_, _, _, _, _, _, _, _, _, _, _, _⟩ := rule
  obtain ⟨hreference, hpattern, hopening, hclosing, hparts⟩ := hrule
  simp only [ruleTextKeys, List.mem_cons, List.not_mem_nil, or_false] at htext
  rcases htext with rfl | rfl | rfl | rfl | rfl | rfl | rfl
  · refine ⟨_, rfl, ?_, hpattern, hopening, hclosing, hparts⟩
    rintro _ ⟨⟩
    exact hinclude rfl
  · refine ⟨_, rfl, hreference, ?_, hopening, hclosing, hparts⟩
    rintro _ ⟨⟩
    exact hregex (Or.inl rfl)
  · refine ⟨_, rfl, hreference, hpattern, ?_, hclosing, hparts⟩
    rintro _ ⟨⟩
    exact hregex (Or.inr rfl)
  · refine ⟨_, rfl, hreference, hpattern, hopening, ?_, hparts⟩
    rintro _ ⟨⟩
    exact hend rfl
  all_goals exact ⟨_, rfl, hreference, hpattern, hopening, hclosing, hparts⟩

/-- A map of captures of a rule is read. -/
theorem ruleCaptures_read (hbelow : ReadableBelow context size) (hsize : sizeOf value ≤ size)
    (hkeys : value.distinctKeys = true) (hcaptures : key ∈ ruleCaptureKeys)
    (hfield : AcceptedField context path key value) (rule : RuleSpec)
    (hrule : rule.All (Accepted context)) :
    ∃ rule', readRuleField none key (.ofDocument value) rule = .ok rule' ∧
      rule'.All (Accepted context) := by
  obtain ⟨entries, rfl, hchecked⟩ := hfield.captures hcaptures
  obtain ⟨captures, hread, hall⟩ := captures_read hbelow hsize hkeys hchecked
  have hset : readRuleField none key (.ofDocument (.object entries)) rule =
      .ok (rule.setCaptures key captures) := by
    rw [Tree.ofDocument]
    simp only [ruleCaptureKeys, List.mem_cons, List.not_mem_nil, or_false] at hcaptures
    rcases hcaptures with rfl | rfl | rfl
    all_goals
      show (readCapturesIn none (treesOfEntries entries) [] >>= fun captures =>
        return rule.setCaptures _ captures) = _
      rw [hread]
      rfl
  refine ⟨rule.setCaptures key captures, hset, ?_⟩
  obtain ⟨_, _, _, _, _, _, _, _, _, _, _, _⟩ := rule
  obtain ⟨hreference, hpattern, hopening, hclosing, hown, hfirst, hlast, hrules⟩ := hrule
  simp only [ruleCaptureKeys, List.mem_cons, List.not_mem_nil, or_false] at hcaptures
  rcases hcaptures with rfl | rfl | rfl
  · exact ⟨hreference, hpattern, hopening, hclosing, hall, hfirst, hlast, hrules⟩
  · exact ⟨hreference, hpattern, hopening, hclosing, hown, hall, hlast, hrules⟩
  · exact ⟨hreference, hpattern, hopening, hclosing, hown, hfirst, hall, hrules⟩

/-- A field of a rule is read. -/
theorem ruleField_read (hbelow : ReadableBelow context size) (hsize : sizeOf value ≤ size)
    (hkeys : value.distinctKeys = true) (hfield : AcceptedField context path key value)
    (rule : RuleSpec) (hrule : rule.All (Accepted context)) :
    ∃ rule', readRuleField none key (.ofDocument value) rule = .ok rule' ∧
      rule'.All (Accepted context) := by
  -- a known key belongs to one of four kinds, each with a reader of its own
  have hcases : key ∈ ruleTextKeys ∨ key ∈ ruleCaptureKeys ∨ key = "patterns" ∨
      key = "applyEndPatternLast" := by
    have hknown := hfield.known
    simp only [ruleKeys, ruleTextKeys, ruleCaptureKeys, List.mem_cons, List.not_mem_nil,
      or_false] at hknown ⊢
    rcases hknown with rfl | rfl | rfl | rfl | rfl | rfl | rfl | rfl | rfl | rfl | rfl | rfl
    all_goals simp
  rcases hcases with htext | hcaptures | rfl | rfl
  · exact ruleText_read htext hfield rule hrule
  · exact ruleCaptures_read hbelow hsize hkeys hcaptures hfield rule hrule
  · obtain ⟨items, rfl, hchecked⟩ := hfield.patterns rfl
    obtain ⟨rules, hread, hall⟩ := rules_read hbelow hsize hkeys (checkRules_eq_nil hchecked)
    refine ⟨{ rule with patterns := rules }, ?_, ?_⟩
    · rw [Tree.ofDocument]
      show (readRulesIn none (treesOfDocuments items) >>= fun rules =>
        return { rule with patterns := rules }) = _
      rw [hread]
      rfl
    · obtain ⟨_, _, _, _, _, _, _, _, _, _, _, _⟩ := rule
      obtain ⟨hreference, hpattern, hopening, hclosing, hown, hfirst, hlast, _⟩ := hrule
      exact ⟨hreference, hpattern, hopening, hclosing, hown, hfirst, hlast, hall⟩
  · obtain ⟨flag, rfl⟩ := hfield.flag rfl
    obtain ⟨_, _, _, _, _, _, _, _, _, _, _, _⟩ := rule
    exact ⟨_, rfl, hrule⟩

/-- An accepted rule is read if those below it are. -/
theorem rule_read {document : Document} (hbelow : ReadableBelow context (sizeOf document))
    (hkeys : document.distinctKeys = true) (h : checkRule context path document = []) :
    Readable context document := by
  cases document with
  | object entries =>
    rw [Document.distinctKeys_object] at hkeys
    have hfields := acceptedField_of_checkRule hkeys.1 h
    obtain ⟨rule, hread, hall⟩ := entries_read (readRuleEntries none) (readRuleField none)
      (fun _ rule => rule) (fun _ rule => rule.All (Accepted context)) (fun _ _ => rfl)
      (fun _ _ _ _ _ => by rw [readRuleEntries]) entries hkeys.1
      (fun field hfield => (hfields field.1 field.2 hfield).known)
      (fun field hfield _ rule => ruleField_read hbelow (Nat.le_of_lt (sizeOf_value_lt hfield))
        (hkeys.2 field hfield) (hfields field.1 field.2 hfield) rule)
      [] (fun _ _ => List.not_mem_nil) {} all_empty
    refine ⟨rule, ?_, hall⟩
    rw [Tree.ofDocument, readRule]
    show (readRuleEntries none (treesOfEntries entries) [] {} >>= fun rule => .ok rule) = _
    rw [hread]
    rfl
  | _ => cases h

end Parts

/-- **An accepted rule is read.** -/
theorem readable_of_checkRule {context : Context} (document : Document) (path : String)
    (hkeys : document.distinctKeys = true) (h : checkRule context path document = []) :
    Readable context document :=
  rule_read (fun below path _ hkeys h => readable_of_checkRule below path hkeys h) hkeys h
termination_by sizeOf document

/-! ## Grammars -/

/-- The entries of a repository that are left are read, each under its key. -/
theorem repositoryEntries_read {context : Context} {entries : List (String × Document)}
    (hkeys : (Document.object entries).distinctKeys = true)
    (hentries : ∀ entry ∈ entries, ∃ below, checkRule context below entry.2 = [])
    (done : List (String × RuleSpec)) (hnew : ∀ entry ∈ entries, entry.1 ∉ done.map (·.1))
    (hdone : ∀ entry ∈ done, entry.2.All (Accepted context)) :
    ∃ rules, readRepositoryIn none (treesOfEntries entries) done = .ok rules ∧
      rules.map (·.1) = done.map (·.1) ++ entries.map (·.1) ∧
      ∀ entry ∈ rules, entry.2.All (Accepted context) := by
  rw [Document.distinctKeys_object] at hkeys
  obtain ⟨hnodup, hvalues⟩ := hkeys
  induction entries generalizing done with
  | nil => exact ⟨done, rfl, by simp, hdone⟩
  | cons entry rest ih =>
    obtain ⟨key, value⟩ := entry
    rw [List.map_cons, List.nodup_cons] at hnodup
    obtain ⟨below, hcheck⟩ := hentries (key, value) List.mem_cons_self
    obtain ⟨rule, hread, hall⟩ :=
      readable_of_checkRule value below (hvalues _ List.mem_cons_self) hcheck
    obtain ⟨rules, hrules, hnames, halls⟩ := ih
      (fun entry hentry => hentries entry (List.mem_cons_of_mem _ hentry))
      (insertEntry done key rule) (insertEntry_new rule hnodup.1 hnew)
      (by
        intro entry hentry
        rcases mem_insertEntry hentry with rfl | hentry
        · exact hall
        · exact hdone entry hentry)
      hnodup.2 (fun entry hentry => hvalues entry (List.mem_cons_of_mem _ hentry))
    refine ⟨rules, ?_, ?_, halls⟩
    · rw [treesOfEntries, readRepositoryIn, hread]
      exact hrules
    · rw [hnames, insertEntry_of_not_mem _ (hnew (key, value) List.mem_cons_self), List.map_append,
        List.append_assoc]
      rfl

theorem texts_read {items : List Document} (hitems : ∀ item ∈ items, ∃ text, item = .string text) :
    ∃ texts, (treesOfDocuments items).mapM Tree.text = .ok texts := by
  induction items with
  | nil => exact ⟨[], rfl⟩
  | cons item rest ih =>
    obtain ⟨text, rfl⟩ := hitems item List.mem_cons_self
    obtain ⟨texts, htexts⟩ := ih fun item hitem => hitems item (List.mem_cons_of_mem _ hitem)
    refine ⟨text :: texts, ?_⟩
    rw [treesOfDocuments, List.mapM_cons, htexts]
    rfl

/-- What is known of a grammar once some keys have been met. -/
structure ReadUpTo (context : Context) (seen : List String) (grammar : Grammar) : Prop where
  all : grammar.All (Accepted context)
  names : grammar.repository.map (·.1) = if "repository" ∈ seen then context.rules else []

/-- A field of a grammar that is not the repository leaves the repository alone. -/
theorem ReadUpTo.next {context : Context} {seen : List String} {grammar grammar' : Grammar}
    {key : String} (h : ReadUpTo context seen grammar) (hkey : "repository" ≠ key)
    (hsame : grammar'.repository = grammar.repository)
    (hpatterns : AllRules (Accepted context) grammar'.patterns)
    (hline : ∀ text ∈ grammar'.firstLineMatch, Accepted context .regex text) :
    ReadUpTo context (key :: seen) grammar' where
  all := ⟨hpatterns, by rw [hsame]; exact h.all.repository, hline⟩
  names := by
    rw [hsame, h.names]
    simp [hkey]

/-- A field of a grammar is read. -/
theorem grammarField_read {context : Context} {key : String} {value : Document}
    (hkeys : value.distinctKeys = true) (hfield : AcceptedGrammarField context key value)
    (seen : List String) (grammar : Grammar) (h : ReadUpTo context seen grammar) :
    ∃ grammar', readGrammarField none key (.ofDocument value) grammar = .ok grammar' ∧
      ReadUpTo context (key :: seen) grammar' := by
  have hknown := hfield.known
  simp only [grammarKeys, List.mem_cons, List.not_mem_nil, or_false] at hknown
  rcases hknown with rfl | rfl | rfl | rfl | rfl | rfl | rfl | rfl | rfl | rfl
  · obtain ⟨items, rfl, hitems⟩ := hfield.fileTypes rfl
    obtain ⟨texts, htexts⟩ := texts_read hitems
    refine ⟨{ grammar with fileTypes := texts }, ?_,
      h.next (by simp) rfl h.all.patterns h.all.firstLine⟩
    rw [Tree.ofDocument]
    show ((treesOfDocuments items).mapM Tree.text >>= fun texts => pure texts) >>= (fun texts =>
      return { grammar with fileTypes := texts }) = _
    rw [htexts]
    rfl
  · obtain ⟨text, rfl, hregex⟩ := hfield.text (by simp [grammarTextKeys])
    refine ⟨_, rfl, h.next (by simp) rfl h.all.patterns ?_⟩
    rintro _ ⟨⟩
    exact hregex rfl
  · obtain ⟨text, rfl, _⟩ := hfield.text (by simp [grammarTextKeys])
    exact ⟨_, rfl, h.next (by simp) rfl h.all.patterns h.all.firstLine⟩
  · obtain ⟨text, rfl, _⟩ := hfield.text (by simp [grammarTextKeys])
    exact ⟨_, rfl, h.next (by simp) rfl h.all.patterns h.all.firstLine⟩
  · obtain ⟨text, rfl, _⟩ := hfield.text (by simp [grammarTextKeys])
    exact ⟨_, rfl, h.next (by simp) rfl h.all.patterns h.all.firstLine⟩
  · obtain ⟨entries, rfl, hrules, hentries⟩ := hfield.repository rfl
    obtain ⟨rules, hread, hnames, hall⟩ := repositoryEntries_read hkeys hentries []
      (fun _ _ => List.not_mem_nil) (fun _ hentry => by cases hentry)
    refine ⟨{ grammar with repository := rules }, ?_,
      ⟨h.all.patterns, hall, h.all.firstLine⟩, by simp [hnames, hrules]⟩
    rw [Tree.ofDocument]
    show (readRepositoryIn none (treesOfEntries entries) [] >>= fun rules => pure rules) >>=
      (fun rules => return { grammar with repository := rules }) = _
    rw [hread]
    rfl
  · obtain ⟨text, rfl, _⟩ := hfield.text (by simp [grammarTextKeys])
    exact ⟨_, rfl, h.next (by simp) rfl h.all.patterns h.all.firstLine⟩
  · obtain ⟨items, rfl, hitems⟩ := hfield.patterns rfl
    obtain ⟨rules, hread, hall⟩ := rules_read
      (fun below path _ hkeys h => readable_of_checkRule below path hkeys h) (Nat.le_refl _) hkeys
      hitems
    refine ⟨{ grammar with patterns := rules }, ?_, h.next (by simp) rfl hall h.all.firstLine⟩
    rw [Tree.ofDocument]
    show (readRulesIn none (treesOfDocuments items) >>= fun rules => pure rules) >>= (fun rules =>
      return { grammar with patterns := rules }) = _
    rw [hread]
    rfl
  · obtain ⟨text, rfl, _⟩ := hfield.text (by simp [grammarTextKeys])
    exact ⟨_, rfl, h.next (by simp) rfl h.all.patterns h.all.firstLine⟩
  · obtain ⟨text, rfl⟩ := hfield.scopeName rfl
    exact ⟨_, rfl, h.next (by simp) rfl h.all.patterns h.all.firstLine⟩

end Schema

namespace Grammar

open Schema

/-- The repository of a document that has no such key is empty. -/
theorem contextOf_rules_of_not_mem {entries : List (String × Document)} {budget : Nat}
    (h : "repository" ∉ entries.map (·.1)) : (contextOf entries budget).rules = [] := by
  have hnone : entries.lookup "repository" = none := by
    rw [List.lookup_eq_none_iff]
    intro entry hentry
    rw [bne_iff_ne]
    intro heq
    exact h (List.mem_map.mpr ⟨entry, hentry, heq.symm⟩)
  rw [contextOf, repositoryEntries, hnone]
  rfl

/-- **An accepted grammar is read**, with a rule under each key of its repository. -/
theorem ofDocument_of_violations {document : Document} {budget : Nat}
    (hkeys : document.distinctKeys = true) (h : violations document budget = []) :
    ∃ entries grammar, document = .object entries ∧ ofDocument document = .ok grammar ∧
      grammar.repository.map (·.1) = (repositoryEntries entries).map (·.1) ∧
      grammar.All (Accepted (grammar.context budget)) := by
  obtain ⟨entries, rfl, hscope, hfields⟩ := acceptedField_of_violations h
  obtain ⟨hnodup, hvalues⟩ := Document.distinctKeys_object.mp hkeys
  have haccepted := hfields hnodup
  obtain ⟨grammar, hread, hall, hnames⟩ := entries_read (readGrammarEntries none)
    (readGrammarField none) (fun seen grammar => (grammar, seen))
    (ReadUpTo (contextOf entries budget)) (fun _ _ => rfl)
    (fun _ _ _ _ _ => by rw [readGrammarEntries]) entries hnodup
    (fun field hfield => (haccepted field hfield).known)
    (fun field hfield => grammarField_read (hvalues field hfield) (haccepted field hfield))
    [] (fun _ _ => List.not_mem_nil) (.ofScope "")
    ⟨⟨trivial, fun _ hentry => (List.not_mem_nil hentry).elim,
      fun _ ht => (Option.not_mem_none _ ht).elim⟩, rfl⟩
  have hrules : grammar.repository.map (·.1) = (contextOf entries budget).rules := by
    rw [hnames]
    split
    · rfl
    · next hmissing =>
      rw [contextOf_rules_of_not_mem]
      intro hmem
      exact hmissing (List.mem_append_left _ (List.mem_reverse.mpr hmem))
  refine ⟨entries, grammar, rfl, ?_, hrules, ?_⟩
  -- the scope name is among the keys that were met
  · have hseen : "scopeName" ∈ (entries.map (·.1)).reverse ++ [] := by
      obtain ⟨entry, hentry, heq⟩ := List.lookup_isSome_iff.mp hscope
      rw [List.append_nil, List.mem_reverse]
      exact List.mem_map.mpr ⟨entry, hentry, (eq_of_beq heq).symm⟩
    rw [ofDocument, Tree.ofDocument, readGrammar]
    show (readGrammarEntries none (treesOfEntries entries) [] (.ofScope "") >>= fun read =>
      Json.closeWith none read.1 >>= fun grammar =>
        if read.2.contains "scopeName" then return grammar else throw .mismatch) = _
    rw [hread]
    exact if_pos (List.contains_iff_mem.mpr hseen)
  · have hcontext : grammar.context budget = contextOf entries budget := by
      rw [context, hrules]
      rfl
    rw [hcontext]
    exact hall

end Grammar

end ScopeScanner
