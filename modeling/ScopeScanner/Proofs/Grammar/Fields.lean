import ScopeScanner.Proofs.Grammar.Reading

/-!
# Records are read field by field

The reader of a record goes along the entries of an object in whatever order they stand, and sets one
field after the other. When each entry is read as the field of one and the same record, and the fields
without an entry say nothing, that record is what is read:

* **`RuleSpec.read_of_fields`**, **`CaptureSpec.read_of_fields`**, **`Grammar.read_of_fields`**.

The record that has been put together once some keys have been met is the whole one with the fields
under these keys only (`RuleSpec.only`), so that the order of the keys plays no part.
-/

namespace ScopeScanner

open Json (Tree Levels treesOfDocuments treesOfEntries)
open Schema (ruleTextKeys ruleCaptureKeys grammarTextKeys)

/-- Reading the entries of a record adds one field after the other, if each entry adds its own. -/
theorem entries_read_only {State Result : Type} {known : List String}
    (read : List (String × Tree) → List String → State → Except Json.Fault Result)
    (field : String → Tree → State → Except Json.Fault State)
    (finish : List String → State → Result) (only : List String → State)
    (hnil : ∀ seen state, read [] seen state = .ok (finish seen state))
    (hcons : ∀ key tree rest seen state, read ((key, tree) :: rest) seen state = (do
      let seen ← noteKey known seen key tree
      let state ← field key tree state
      read rest seen state))
    {entries : List (String × Document)} (hkeys : (entries.map (·.1)).Nodup)
    (hknown : ∀ entry ∈ entries, entry.1 ∈ known)
    (hfield : ∀ entry ∈ entries, ∀ seen,
      field entry.1 (.ofDocument entry.2) (only seen) = .ok (only (entry.1 :: seen))) :
    read (treesOfEntries entries) [] (only []) =
      .ok (finish (entries.map (·.1)).reverse (only (entries.map (·.1)).reverse)) := by
  obtain ⟨state, hread, hstate⟩ := entries_read read field finish (fun seen state => state = only seen)
    hnil hcons entries hkeys hknown
    (fun entry hentry seen _ hstate => ⟨_, hstate ▸ hfield entry hentry seen, rfl⟩)
    [] (fun _ _ => List.not_mem_nil) (only []) rfl
  rw [List.append_nil] at hread hstate
  rw [hread, hstate]

/-! ## Captures -/

namespace CaptureSpec

/-- A capture with the fields under the given keys only. -/
def only (capture : CaptureSpec RuleSpec) (keys : List String) : CaptureSpec RuleSpec where
  name := if "name" ∈ keys then capture.name else none
  patterns := if "patterns" ∈ keys then capture.patterns else []

/-- An entry of an object that is read as a field of a capture. -/
inductive Field (levels : Levels) (capture : CaptureSpec RuleSpec) : String → Document → Prop
  | name {text : String} (htext : capture.name = some text) : Field levels capture "name" (.string text)
  | patterns {items : List Document} {below : Levels} (henter : levels.enter = .ok below)
      (hread : readRulesIn below (treesOfDocuments items) = .ok capture.patterns) :
      Field levels capture "patterns" (.array items)

variable {levels below : Levels} {capture : CaptureSpec RuleSpec}

theorem Field.known {key : String} {value : Document} (h : Field levels capture key value) :
    key ∈ captureKeys := by
  cases h with
  | name | patterns => simp [captureKeys]

/-- Reading a field adds it to the others. -/
theorem Field.read {key : String} {value : Document} (h : Field levels capture key value)
    (seen : List String) : readCaptureField levels key (.ofDocument value) (capture.only seen) =
      .ok (capture.only (key :: seen)) := by
  cases h with
  | @name text htext =>
    show Except.ok { capture.only seen with name := some text } = _
    simp [only, htext]
  | @patterns items below henter hread =>
    rw [readCaptureField.eq_def, Tree.ofDocument]
    show (levels.enter >>= fun below => readRulesIn below (treesOfDocuments items) >>= fun rules =>
      Except.ok { capture.only seen with patterns := rules }) = _
    rw [bind_of_ok henter, bind_of_ok hread]
    simp [only]

/-- Fields that say nothing may be left out. -/
theorem only_eq {keys : List String} (hname : "name" ∉ keys → capture.name = none)
    (hpatterns : "patterns" ∉ keys → capture.patterns = []) : capture.only keys = capture := by
  obtain ⟨name, patterns⟩ := capture
  simp only [only, mk.injEq, ite_eq_left_iff]
  exact ⟨fun h => (hname h).symm, fun h => (hpatterns h).symm⟩

/-- **A capture is read from its fields**, in any order. -/
theorem read_of_fields {entries : List (String × Document)} (henter : levels.enter = .ok below)
    (hkeys : (entries.map (·.1)).Nodup)
    (hfields : ∀ entry ∈ entries, Field below capture entry.1 entry.2)
    (hname : "name" ∉ entries.map (·.1) → capture.name = none)
    (hpatterns : "patterns" ∉ entries.map (·.1) → capture.patterns = []) :
    readCapture levels (.ofDocument (.object entries)) = .ok capture := by
  have hread := entries_read_only (readCaptureEntries below) (readCaptureField below)
    (fun _ capture => capture) capture.only (fun _ _ => rfl)
    (fun _ _ _ _ _ => by rw [readCaptureEntries]) hkeys
    (fun entry hentry => (hfields entry hentry).known)
    (fun entry hentry => (hfields entry hentry).read)
  have hwhole : capture.only (entries.map (·.1)).reverse = capture :=
    only_eq (by rwa [List.mem_reverse]) (by rwa [List.mem_reverse])
  rw [Tree.ofDocument, readCapture, henter]
  show (readCaptureEntries below (treesOfEntries entries) [] {} >>= fun capture => .ok capture) = _
  rw [show ({} : CaptureSpec RuleSpec) = capture.only [] by simp [only], hread, hwhole]
  rfl

end CaptureSpec

/-! ## Rules -/

namespace RuleSpec

/-- The text under a key of a rule. -/
def textOf (rule : RuleSpec) (key : String) : Option String :=
  match key with
  | "include" => rule.reference
  | "match" => rule.pattern
  | "begin" => rule.opening
  | "end" => rule.closing
  | "name" => rule.name
  | "contentName" => rule.contentName
  | "comment" => rule.comment
  | _ => none

/-- The map of captures under a key of a rule. -/
def capturesOf (rule : RuleSpec) (key : String) : List (String × CaptureSpec RuleSpec) :=
  match key with
  | "captures" => rule.captures
  | "beginCaptures" => rule.openingCaptures
  | "endCaptures" => rule.closingCaptures
  | _ => []

/-- A rule with the fields under the given keys only. -/
def only (rule : RuleSpec) (keys : List String) : RuleSpec where
  reference := if "include" ∈ keys then rule.reference else none
  pattern := if "match" ∈ keys then rule.pattern else none
  opening := if "begin" ∈ keys then rule.opening else none
  closing := if "end" ∈ keys then rule.closing else none
  name := if "name" ∈ keys then rule.name else none
  contentName := if "contentName" ∈ keys then rule.contentName else none
  captures := if "captures" ∈ keys then rule.captures else []
  openingCaptures := if "beginCaptures" ∈ keys then rule.openingCaptures else []
  closingCaptures := if "endCaptures" ∈ keys then rule.closingCaptures else []
  patterns := if "patterns" ∈ keys then rule.patterns else []
  closingLast := if "applyEndPatternLast" ∈ keys then rule.closingLast else false
  comment := if "comment" ∈ keys then rule.comment else none

/-- An entry of an object that is read as a field of a rule. -/
inductive Field (levels : Levels) (rule : RuleSpec) : String → Document → Prop
  | text {key text : String} (hkey : key ∈ ruleTextKeys) (htext : rule.textOf key = some text) :
      Field levels rule key (.string text)
  | captures {key : String} {entries : List (String × Document)} {below : Levels}
      (hkey : key ∈ ruleCaptureKeys) (henter : levels.enter = .ok below)
      (hread : readCapturesIn below (treesOfEntries entries) [] = .ok (rule.capturesOf key)) :
      Field levels rule key (.object entries)
  | patterns {items : List Document} {below : Levels} (henter : levels.enter = .ok below)
      (hread : readRulesIn below (treesOfDocuments items) = .ok rule.patterns) :
      Field levels rule "patterns" (.array items)
  | flag : Field levels rule "applyEndPatternLast" (.bool rule.closingLast)

variable {levels below : Levels} {rule : RuleSpec}

theorem Field.known {key : String} {value : Document} (h : Field levels rule key value) :
    key ∈ ruleKeys := by
  cases h with
  | text hkey => exact Schema.mem_ruleKeys_of_text _ hkey
  | captures hkey => exact Schema.mem_ruleKeys_of_captures _ hkey
  | patterns | flag => simp [ruleKeys]

/-- Reading a field adds it to the others. -/
theorem Field.read {key : String} {value : Document} (h : Field levels rule key value)
    (seen : List String) : readRuleField levels key (.ofDocument value) (rule.only seen) =
      .ok (rule.only (key :: seen)) := by
  cases h with
  | @text key text hkey htext =>
    simp only [ruleTextKeys, List.mem_cons, List.not_mem_nil, or_false] at hkey
    rcases hkey with rfl | rfl | rfl | rfl | rfl | rfl | rfl
    · show Except.ok { rule.only seen with reference := some text } = _
      simp [only, ← show rule.reference = some text from htext]
    · show Except.ok { rule.only seen with pattern := some text } = _
      simp [only, ← show rule.pattern = some text from htext]
    · show Except.ok { rule.only seen with opening := some text } = _
      simp [only, ← show rule.opening = some text from htext]
    · show Except.ok { rule.only seen with closing := some text } = _
      simp [only, ← show rule.closing = some text from htext]
    · show Except.ok { rule.only seen with name := some text } = _
      simp [only, ← show rule.name = some text from htext]
    · show Except.ok { rule.only seen with contentName := some text } = _
      simp [only, ← show rule.contentName = some text from htext]
    · show Except.ok { rule.only seen with comment := some text } = _
      simp [only, ← show rule.comment = some text from htext]
  | @captures key entries below hkey henter hread =>
    have hset : readRuleField levels key (.ofDocument (.object entries)) (rule.only seen) =
        .ok ((rule.only seen).setCaptures key (rule.capturesOf key)) := by
      rw [Tree.ofDocument]
      simp only [ruleCaptureKeys, List.mem_cons, List.not_mem_nil, or_false] at hkey
      rcases hkey with rfl | rfl | rfl
      all_goals
        show (levels.enter >>= fun below => readCapturesIn below (treesOfEntries entries) [] >>=
          fun captures => return (rule.only seen).setCaptures _ captures) = _
        rw [bind_of_ok henter, bind_of_ok hread]
        rfl
    rw [hset]
    simp only [ruleCaptureKeys, List.mem_cons, List.not_mem_nil, or_false] at hkey
    rcases hkey with rfl | rfl | rfl
    all_goals simp [only, setCaptures, capturesOf]
  | @patterns items below henter hread =>
    rw [readRuleField.eq_def, Tree.ofDocument]
    show (levels.enter >>= fun below => readRulesIn below (treesOfDocuments items) >>= fun rules =>
      Except.ok { rule.only seen with patterns := rules }) = _
    rw [bind_of_ok henter, bind_of_ok hread]
    simp [only]
  | flag =>
    show Except.ok { rule.only seen with closingLast := rule.closingLast } = _
    simp [only]

/-- Fields that say nothing may be left out. -/
theorem only_eq {keys : List String}
    (htexts : ∀ key ∈ ruleTextKeys, key ∉ keys → rule.textOf key = none)
    (hcaptures : ∀ key ∈ ruleCaptureKeys, key ∉ keys → rule.capturesOf key = [])
    (hpatterns : "patterns" ∉ keys → rule.patterns = [])
    (hflag : "applyEndPatternLast" ∉ keys → rule.closingLast = false) : rule.only keys = rule := by
  simp only [ruleTextKeys, ruleCaptureKeys, List.forall_mem_cons, List.not_mem_nil, false_imp_iff,
    implies_true, and_true] at htexts hcaptures
  obtain ⟨hinclude, hmatch, hbegin, hend, hname, hcontent, hcomment⟩ := htexts
  obtain ⟨hown, hopening, hclosing⟩ := hcaptures
  obtain ⟨_, _, _, _, _, _, _, _, _, _, _, _⟩ := rule
  simp only [only, mk.injEq, ite_eq_left_iff]
  exact ⟨fun h => (hinclude h).symm, fun h => (hmatch h).symm, fun h => (hbegin h).symm,
    fun h => (hend h).symm, fun h => (hname h).symm, fun h => (hcontent h).symm,
    fun h => (hown h).symm, fun h => (hopening h).symm, fun h => (hclosing h).symm,
    fun h => (hpatterns h).symm, fun h => (hflag h).symm, fun h => (hcomment h).symm⟩

/-- **A rule is read from its fields**, in any order. -/
theorem read_of_fields {entries : List (String × Document)} (henter : levels.enter = .ok below)
    (hkeys : (entries.map (·.1)).Nodup)
    (hfields : ∀ entry ∈ entries, Field below rule entry.1 entry.2)
    (hwhole : rule.only (entries.map (·.1)) = rule) :
    readRule levels (.ofDocument (.object entries)) = .ok rule := by
  have hread := entries_read_only (readRuleEntries below) (readRuleField below)
    (fun _ rule => rule) rule.only (fun _ _ => rfl)
    (fun _ _ _ _ _ => by rw [readRuleEntries]) hkeys
    (fun entry hentry => (hfields entry hentry).known)
    (fun entry hentry => (hfields entry hentry).read)
  have hreversed : rule.only (entries.map (·.1)).reverse = rule := by
    simpa only [only, List.mem_reverse] using hwhole
  rw [Tree.ofDocument, readRule, henter]
  show (readRuleEntries below (treesOfEntries entries) [] {} >>= fun rule => .ok rule) = _
  rw [show ({} : RuleSpec) = rule.only [] by simp [only], hread, hreversed]
  rfl

end RuleSpec

/-! ## Grammars -/

namespace Grammar

/-- The text under a key of a grammar, but for the scope name. -/
def textOf (grammar : Grammar) (key : String) : Option String :=
  match key with
  | "firstLineMatch" => grammar.firstLineMatch
  | "foldingStartMarker" => grammar.foldingStartMarker
  | "foldingStopMarker" => grammar.foldingStopMarker
  | "keyEquivalent" => grammar.keyEquivalent
  | "uuid" => grammar.uuid
  | "name" => grammar.name
  | _ => none

/-- A grammar with the fields under the given keys only. -/
def only (grammar : Grammar) (keys : List String) : Grammar where
  fileTypes := if "fileTypes" ∈ keys then grammar.fileTypes else []
  firstLineMatch := if "firstLineMatch" ∈ keys then grammar.firstLineMatch else none
  foldingStartMarker := if "foldingStartMarker" ∈ keys then grammar.foldingStartMarker else none
  foldingStopMarker := if "foldingStopMarker" ∈ keys then grammar.foldingStopMarker else none
  keyEquivalent := if "keyEquivalent" ∈ keys then grammar.keyEquivalent else none
  repository := if "repository" ∈ keys then grammar.repository else []
  uuid := if "uuid" ∈ keys then grammar.uuid else none
  patterns := if "patterns" ∈ keys then grammar.patterns else []
  name := if "name" ∈ keys then grammar.name else none
  scopeName := if "scopeName" ∈ keys then grammar.scopeName else ""

/-- An entry of an object that is read as a field of a grammar. -/
inductive Field (levels : Levels) (grammar : Grammar) : String → Document → Prop
  | text {key text : String} (hkey : key ∈ grammarTextKeys) (htext : grammar.textOf key = some text) :
      Field levels grammar key (.string text)
  | scopeName : Field levels grammar "scopeName" (.string grammar.scopeName)
  | fileTypes {below : Levels} (henter : levels.enter = .ok below) :
      Field levels grammar "fileTypes" (.array (grammar.fileTypes.map .string))
  | repository {entries : List (String × Document)} {below : Levels}
      (henter : levels.enter = .ok below)
      (hread : readRepositoryIn below (treesOfEntries entries) [] = .ok grammar.repository) :
      Field levels grammar "repository" (.object entries)
  | patterns {items : List Document} {below : Levels} (henter : levels.enter = .ok below)
      (hread : readRulesIn below (treesOfDocuments items) = .ok grammar.patterns) :
      Field levels grammar "patterns" (.array items)

variable {levels below : Levels} {grammar : Grammar}

theorem Field.known {key : String} {value : Document} (h : Field levels grammar key value) :
    key ∈ grammarKeys := by
  cases h with
  | text hkey => exact Schema.mem_grammarKeys_of_text _ hkey
  | scopeName | fileTypes | repository | patterns => simp [grammarKeys]

theorem mapM_text (texts : List String) :
    (treesOfDocuments (texts.map Document.string)).mapM Tree.text = .ok texts := by
  induction texts with
  | nil => rfl
  | cons text rest ih =>
    rw [List.map_cons, treesOfDocuments, List.mapM_cons, ih]
    rfl

/-- Reading a field adds it to the others. -/
theorem Field.read {key : String} {value : Document} (h : Field levels grammar key value)
    (seen : List String) : readGrammarField levels key (.ofDocument value) (grammar.only seen) =
      .ok (grammar.only (key :: seen)) := by
  cases h with
  | @text key text hkey htext =>
    simp only [grammarTextKeys, List.mem_cons, List.not_mem_nil, or_false] at hkey
    rcases hkey with rfl | rfl | rfl | rfl | rfl | rfl
    · show Except.ok { grammar.only seen with firstLineMatch := some text } = _
      simp [only, ← show grammar.firstLineMatch = some text from htext]
    · show Except.ok { grammar.only seen with foldingStartMarker := some text } = _
      simp [only, ← show grammar.foldingStartMarker = some text from htext]
    · show Except.ok { grammar.only seen with foldingStopMarker := some text } = _
      simp [only, ← show grammar.foldingStopMarker = some text from htext]
    · show Except.ok { grammar.only seen with keyEquivalent := some text } = _
      simp [only, ← show grammar.keyEquivalent = some text from htext]
    · show Except.ok { grammar.only seen with uuid := some text } = _
      simp [only, ← show grammar.uuid = some text from htext]
    · show Except.ok { grammar.only seen with name := some text } = _
      simp [only, ← show grammar.name = some text from htext]
  | scopeName =>
    show Except.ok { grammar.only seen with scopeName := grammar.scopeName } = _
    simp [only]
  | fileTypes henter =>
    have htexts : Tree.texts levels (.ofDocument (.array (grammar.fileTypes.map .string))) =
        .ok grammar.fileTypes := by
      rw [Tree.ofDocument, Tree.texts, bind_of_ok henter, bind_of_ok (mapM_text _)]
      rfl
    rw [readGrammarField.eq_def]
    show (Tree.texts levels (.ofDocument (.array (grammar.fileTypes.map .string))) >>= fun texts =>
      Except.ok { grammar.only seen with fileTypes := texts }) = _
    rw [bind_of_ok htexts]
    simp [only]
  | @repository entries below henter hread =>
    have hentries : readRepository levels (.ofDocument (.object entries)) =
        .ok grammar.repository := by
      rw [Tree.ofDocument, readRepository, bind_of_ok henter, bind_of_ok hread]
      rfl
    rw [readGrammarField.eq_def]
    show (readRepository levels (.ofDocument (.object entries)) >>= fun rules =>
      Except.ok { grammar.only seen with repository := rules }) = _
    rw [bind_of_ok hentries]
    simp [only]
  | @patterns items below henter hread =>
    have hitems : readRules levels (.ofDocument (.array items)) = .ok grammar.patterns := by
      rw [Tree.ofDocument, readRules, bind_of_ok henter, bind_of_ok hread]
      rfl
    rw [readGrammarField.eq_def]
    show (readRules levels (.ofDocument (.array items)) >>= fun rules =>
      Except.ok { grammar.only seen with patterns := rules }) = _
    rw [bind_of_ok hitems]
    simp [only]

/-- Fields that say nothing may be left out. -/
theorem only_eq {keys : List String}
    (htexts : ∀ key ∈ grammarTextKeys, key ∉ keys → grammar.textOf key = none)
    (htypes : "fileTypes" ∉ keys → grammar.fileTypes = [])
    (hrepository : "repository" ∉ keys → grammar.repository = [])
    (hpatterns : "patterns" ∉ keys → grammar.patterns = []) (hscope : "scopeName" ∈ keys) :
    grammar.only keys = grammar := by
  simp only [grammarTextKeys, List.forall_mem_cons, List.not_mem_nil, false_imp_iff,
    implies_true, and_true] at htexts
  obtain ⟨hline, hstart, hstop, hequivalent, huuid, hname⟩ := htexts
  obtain ⟨_, _, _, _, _, _, _, _, _, _⟩ := grammar
  simp only [only, mk.injEq, ite_eq_left_iff]
  exact ⟨fun h => (htypes h).symm, fun h => (hline h).symm, fun h => (hstart h).symm,
    fun h => (hstop h).symm, fun h => (hequivalent h).symm, fun h => (hrepository h).symm,
    fun h => (huuid h).symm, fun h => (hpatterns h).symm, fun h => (hname h).symm,
    fun h => absurd hscope h⟩

/-- **A grammar is read from its fields**, in any order. -/
theorem read_of_fields {entries : List (String × Document)} (henter : levels.enter = .ok below)
    (hkeys : (entries.map (·.1)).Nodup)
    (hfields : ∀ entry ∈ entries, Field below grammar entry.1 entry.2)
    (hwhole : grammar.only (entries.map (·.1)) = grammar)
    (hscope : "scopeName" ∈ entries.map (·.1)) :
    readGrammar levels (.ofDocument (.object entries)) = .ok grammar := by
  have hread := entries_read_only (readGrammarEntries below) (readGrammarField below)
    (fun seen grammar => (grammar, seen)) grammar.only (fun _ _ => rfl)
    (fun _ _ _ _ _ => by rw [readGrammarEntries]) hkeys
    (fun entry hentry => (hfields entry hentry).known)
    (fun entry hentry => (hfields entry hentry).read)
  have hreversed : grammar.only (entries.map (·.1)).reverse = grammar := by
    simpa only [only, List.mem_reverse] using hwhole
  rw [Tree.ofDocument, readGrammar, henter]
  show (readGrammarEntries below (treesOfEntries entries) [] (.ofScope "") >>= fun result =>
    if result.2.contains "scopeName" then Except.ok result.1 else Except.error Json.Fault.mismatch) = _
  rw [show Grammar.ofScope "" = grammar.only [] by simp [only, ofScope], hread, hreversed]
  have hmet : (entries.map (·.1)).reverse.contains "scopeName" = true := by
    rw [List.contains_iff_mem, List.mem_reverse]
    exact hscope
  show (if (entries.map (·.1)).reverse.contains "scopeName" = true then Except.ok grammar
    else Except.error Json.Fault.mismatch) = _
  rw [if_pos hmet]

end Grammar

end ScopeScanner
