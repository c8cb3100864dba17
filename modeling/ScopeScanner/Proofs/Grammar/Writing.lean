import ScopeScanner.Proofs.Grammar.Fields
import ScopeScanner.Proofs.Json.Spelling

/-!
# What a grammar is written as

Each record is written as an object with an entry for each field that says something, and each key is
written once. For a rule, for a capture and for a grammar it is said once which entries these are
(`RuleSpec.Written` and so on); proofs about written documents go by these entries.

* **`RuleSpec.toDocument_entries`**, **`CaptureSpec.toDocument_entries`**,
  **`Grammar.toDocument_entries`**: exactly these entries are written.
* **`Grammar.toDocument_numberless`**: no grammar is written with a number.
-/

namespace ScopeScanner

open Schema (ruleTextKeys ruleCaptureKeys grammarTextKeys)

/-! ## Single fields -/

theorem mem_textField_iff {key : String} {value : Option String} {entry : String × Document} :
    entry ∈ textField key value ↔ ∃ text, value = some text ∧ entry = (key, .string text) := by
  cases value <;> simp [textField]

theorem mem_arrayField_iff {key : String} {items : List Document} {entry : String × Document} :
    entry ∈ arrayField key items ↔ items ≠ [] ∧ entry = (key, .array items) := by
  cases items <;> simp [arrayField]

theorem mem_objectField_iff {key : String} {entries : List (String × Document)}
    {entry : String × Document} :
    entry ∈ objectField key entries ↔ entries ≠ [] ∧ entry = (key, .object entries) := by
  cases entries <;> simp [objectField]

theorem mem_flagField_iff {key : String} {value : Bool} {entry : String × Document} :
    entry ∈ flagField key value ↔ value = true ∧ entry = (key, .bool true) := by
  cases value <;> simp [flagField]

theorem ruleDocuments_eq_map (rules : List RuleSpec) :
    ruleDocuments rules = rules.map RuleSpec.toDocument := by
  induction rules with
  | nil => rfl
  | cons rule rest ih => rw [ruleDocuments, ih, List.map_cons]

theorem ruleDocuments_eq_nil {rules : List RuleSpec} : ruleDocuments rules = [] ↔ rules = [] := by
  rw [ruleDocuments_eq_map, List.map_eq_nil_iff]

/-! ## Captures -/

namespace CaptureSpec

/-- The document that a capture is written as. -/
def toDocument (capture : CaptureSpec RuleSpec) : Document :=
  .object (textField "name" capture.name ++ arrayField "patterns" (ruleDocuments capture.patterns))

/-- An entry that a capture is written with. -/
inductive Written (capture : CaptureSpec RuleSpec) : String → Document → Prop
  | name {text : String} (htext : capture.name = some text) : Written capture "name" (.string text)
  | patterns (hrules : capture.patterns ≠ []) :
      Written capture "patterns" (.array (ruleDocuments capture.patterns))

/-- **The entries that a capture is written with.** -/
theorem toDocument_entries (capture : CaptureSpec RuleSpec) : ∃ entries,
    capture.toDocument = .object entries ∧ (entries.map (·.1)).Nodup ∧
      ∀ key value, (key, value) ∈ entries ↔ Written capture key value := by
  refine ⟨_, rfl, ?_, ?_⟩
  · rw [List.map_append]
    exact ((textField_keys "name" capture.name).append
      (arrayField_keys "patterns" (ruleDocuments capture.patterns))).nodup (by simp)
  · intro key value
    rw [List.mem_append, mem_textField_iff, mem_arrayField_iff, ne_eq, ruleDocuments_eq_nil]
    constructor
    · rintro (⟨text, htext, ⟨⟩⟩ | ⟨hrules, ⟨⟩⟩)
      · exact .name htext
      · exact .patterns hrules
    · intro h
      cases h with
      | @name text htext => exact Or.inl ⟨text, htext, rfl⟩
      | patterns hrules => exact Or.inr ⟨hrules, rfl⟩

end CaptureSpec

theorem captureDocuments_eq_map (captures : List (String × CaptureSpec RuleSpec)) :
    captureDocuments captures = captures.map fun entry => (entry.1, entry.2.toDocument) := by
  induction captures with
  | nil => rfl
  | cons entry rest ih => rw [captureDocuments, ih]; rfl

theorem captureDocuments_eq_nil {captures : List (String × CaptureSpec RuleSpec)} :
    captureDocuments captures = [] ↔ captures = [] := by
  rw [captureDocuments_eq_map, List.map_eq_nil_iff]

/-! ## Rules -/

namespace RuleSpec

/-- An entry that a rule is written with. -/
inductive Written (rule : RuleSpec) : String → Document → Prop
  | text {key text : String} (hkey : key ∈ ruleTextKeys) (htext : rule.textOf key = some text) :
      Written rule key (.string text)
  | captures {key : String} (hkey : key ∈ ruleCaptureKeys) (hcaptures : rule.capturesOf key ≠ []) :
      Written rule key (.object (captureDocuments (rule.capturesOf key)))
  | patterns (hrules : rule.patterns ≠ []) :
      Written rule "patterns" (.array (ruleDocuments rule.patterns))
  | flag (hset : rule.closingLast = true) : Written rule "applyEndPatternLast" (.bool true)

/-- **The entries that a rule is written with.** -/
theorem toDocument_entries (rule : RuleSpec) : ∃ entries,
    rule.toDocument = .object entries ∧ (entries.map (·.1)).Nodup ∧
      ∀ key value, (key, value) ∈ entries ↔ Written rule key value := by
  obtain ⟨reference, pattern, opening, closing, name, contentName, captures, openingCaptures,
    closingCaptures, patterns, closingLast, comment⟩ := rule
  rw [toDocument]
  refine ⟨_, rfl, Schema.ruleFields_nodup _ _ _ _ _ _ _ _ _ _ _ _, ?_⟩
  intro key value
  simp only [List.mem_append, or_assoc, mem_textField_iff, mem_arrayField_iff, mem_objectField_iff,
    mem_flagField_iff, ne_eq, ruleDocuments_eq_nil, captureDocuments_eq_nil]
  constructor
  · rintro (⟨text, htext, ⟨⟩⟩ | ⟨text, htext, ⟨⟩⟩ | ⟨text, htext, ⟨⟩⟩ | ⟨text, htext, ⟨⟩⟩ |
      ⟨text, htext, ⟨⟩⟩ | ⟨text, htext, ⟨⟩⟩ | ⟨hcaptures, ⟨⟩⟩ | ⟨hcaptures, ⟨⟩⟩ | ⟨hcaptures, ⟨⟩⟩ |
      ⟨hrules, ⟨⟩⟩ | ⟨hset, ⟨⟩⟩ | ⟨text, htext, ⟨⟩⟩)
    · exact .text (by simp [ruleTextKeys]) htext
    · exact .text (by simp [ruleTextKeys]) htext
    · exact .text (by simp [ruleTextKeys]) htext
    · exact .text (by simp [ruleTextKeys]) htext
    · exact .text (by simp [ruleTextKeys]) htext
    · exact .text (by simp [ruleTextKeys]) htext
    · exact .captures (show "captures" ∈ ruleCaptureKeys by simp [ruleCaptureKeys]) hcaptures
    · exact .captures (show "beginCaptures" ∈ ruleCaptureKeys by simp [ruleCaptureKeys]) hcaptures
    · exact .captures (show "endCaptures" ∈ ruleCaptureKeys by simp [ruleCaptureKeys]) hcaptures
    · exact .patterns hrules
    · exact .flag hset
    · exact .text (by simp [ruleTextKeys]) htext
  · intro h
    cases h with
    | @text key text hkey htext =>
      simp only [ruleTextKeys, List.mem_cons, List.not_mem_nil, or_false] at hkey
      rcases hkey with rfl | rfl | rfl | rfl | rfl | rfl | rfl
      all_goals simp [textOf] at htext; simp [htext]
    | @captures key hkey hcaptures =>
      simp only [ruleCaptureKeys, List.mem_cons, List.not_mem_nil, or_false] at hkey
      rcases hkey with rfl | rfl | rfl
      all_goals simp [capturesOf] at hcaptures; simp [capturesOf, hcaptures]
    | patterns hrules => simp [show ¬ patterns = [] from hrules]
    | flag hset => simp [show closingLast = true from hset]

theorem Written.known {rule : RuleSpec} {key : String} {value : Document}
    (h : Written rule key value) : key ∈ ruleKeys := by
  cases h with
  | text hkey => exact Schema.mem_ruleKeys_of_text _ hkey
  | captures hkey => exact Schema.mem_ruleKeys_of_captures _ hkey
  | patterns | flag => simp [ruleKeys]

theorem captureKey_ne : ∀ key ∈ ruleCaptureKeys,
    key ∉ ruleTextKeys ∧ key ≠ "patterns" ∧ key ≠ "applyEndPatternLast" := by
  decide

theorem Written.text_iff {rule : RuleSpec} {key : String} {value : Document}
    (hkey : key ∈ ruleTextKeys) :
    Written rule key value ↔ ∃ text, rule.textOf key = some text ∧ value = .string text := by
  constructor
  · intro h
    cases h with
    | @text key text _ htext => exact ⟨text, htext, rfl⟩
    | captures hcapture => exact absurd hkey (captureKey_ne _ hcapture).1
    | patterns | flag => exact absurd hkey (by decide)
  · rintro ⟨text, htext, rfl⟩
    exact .text hkey htext

theorem Written.of_captures {rule : RuleSpec} {key : String} {value : Document}
    (h : Written rule key value) (hkey : key ∈ ruleCaptureKeys) :
    rule.capturesOf key ≠ [] ∧ value = .object (captureDocuments (rule.capturesOf key)) := by
  cases h with
  | text htext => exact absurd htext (captureKey_ne _ hkey).1
  | captures _ hcaptures => exact ⟨hcaptures, rfl⟩
  | patterns => exact absurd rfl (captureKey_ne _ hkey).2.1
  | flag => exact absurd rfl (captureKey_ne _ hkey).2.2

theorem Written.of_patterns {rule : RuleSpec} {value : Document}
    (h : Written rule "patterns" value) :
    rule.patterns ≠ [] ∧ value = .array (ruleDocuments rule.patterns) := by
  generalize hkey : "patterns" = key at h
  cases h with
  | text htext => simp [ruleTextKeys, ← hkey] at htext
  | captures hcapture => exact absurd hkey.symm (captureKey_ne _ hcapture).2.1
  | patterns hrules => exact ⟨hrules, rfl⟩
  | flag => simp at hkey

theorem Written.of_flag {rule : RuleSpec} {value : Document}
    (h : Written rule "applyEndPatternLast" value) :
    rule.closingLast = true ∧ value = .bool true := by
  generalize hkey : "applyEndPatternLast" = key at h
  cases h with
  | text htext => simp [ruleTextKeys, ← hkey] at htext
  | captures hcapture => exact absurd hkey.symm (captureKey_ne _ hcapture).2.2
  | patterns => simp at hkey
  | flag hset => exact ⟨hset, rfl⟩

end RuleSpec

/-! ## Grammars -/

namespace Grammar

/-- The document that a repository is written as. -/
def repositoryDocument (rules : List (String × RuleSpec)) : Document :=
  .object (rules.map fun entry => (entry.1, entry.2.toDocument))

/-- An entry that a grammar is written with. -/
inductive Written (grammar : Grammar) : String → Document → Prop
  | text {key text : String} (hkey : key ∈ grammarTextKeys) (htext : grammar.textOf key = some text) :
      Written grammar key (.string text)
  | scopeName : Written grammar "scopeName" (.string grammar.scopeName)
  | fileTypes (htypes : grammar.fileTypes ≠ []) :
      Written grammar "fileTypes" (.array (grammar.fileTypes.map .string))
  | repository : Written grammar "repository" (repositoryDocument grammar.repository)
  | patterns : Written grammar "patterns" (.array (ruleDocuments grammar.patterns))

/-- **The entries that a grammar is written with.** -/
theorem toDocument_entries (grammar : Grammar) : ∃ entries,
    grammar.toDocument = .object entries ∧ (entries.map (·.1)).Nodup ∧
      ∀ key value, (key, value) ∈ entries ↔ Written grammar key value := by
  obtain ⟨entries, hentries, hkeys, _⟩ := grammar.toDocument_fields
  refine ⟨entries, hentries, hkeys, ?_⟩
  obtain rfl := Document.object.inj hentries
  intro key value
  simp only [List.mem_append, or_assoc, mem_textField_iff, mem_arrayField_iff, ne_eq,
    List.mem_singleton, List.map_eq_nil_iff]
  constructor
  · rintro (⟨htypes, ⟨⟩⟩ | ⟨text, htext, ⟨⟩⟩ | ⟨text, htext, ⟨⟩⟩ | ⟨text, htext, ⟨⟩⟩ |
      ⟨text, htext, ⟨⟩⟩ | hentry | ⟨text, htext, ⟨⟩⟩ | hentry | ⟨text, htext, ⟨⟩⟩ | hentry)
    · exact .fileTypes htypes
    · exact .text (by simp [grammarTextKeys]) htext
    · exact .text (by simp [grammarTextKeys]) htext
    · exact .text (by simp [grammarTextKeys]) htext
    · exact .text (by simp [grammarTextKeys]) htext
    · cases hentry
      exact .repository
    · exact .text (by simp [grammarTextKeys]) htext
    · cases hentry
      exact .patterns
    · exact .text (by simp [grammarTextKeys]) htext
    · cases hentry
      exact .scopeName
  · intro h
    cases h with
    | @text key text hkey htext =>
      simp only [grammarTextKeys, List.mem_cons, List.not_mem_nil, or_false] at hkey
      rcases hkey with rfl | rfl | rfl | rfl | rfl | rfl
      all_goals simp [textOf] at htext; simp [htext]
    | fileTypes htypes => simp [htypes]
    | scopeName | repository | patterns => simp [repositoryDocument]

theorem Written.known {grammar : Grammar} {key : String} {value : Document}
    (h : Written grammar key value) : key ∈ grammarKeys := by
  cases h with
  | text hkey => exact Schema.mem_grammarKeys_of_text _ hkey
  | scopeName | fileTypes | repository | patterns => simp [grammarKeys]

theorem Written.text_iff {grammar : Grammar} {key : String} {value : Document}
    (hkey : key ∈ grammarTextKeys) :
    Written grammar key value ↔ ∃ text, grammar.textOf key = some text ∧ value = .string text := by
  constructor
  · intro h
    cases h with
    | @text key text _ htext => exact ⟨text, htext, rfl⟩
    | scopeName | fileTypes | repository | patterns => exact absurd hkey (by decide)
  · rintro ⟨text, htext, rfl⟩
    exact .text hkey htext

theorem Written.of_fileTypes {grammar : Grammar} {value : Document}
    (h : Written grammar "fileTypes" value) :
    value = .array (grammar.fileTypes.map .string) := by
  generalize hkey : "fileTypes" = key at h
  cases h with
  | text htext => simp [grammarTextKeys, ← hkey] at htext
  | fileTypes => rfl
  | scopeName | repository | patterns => simp at hkey

end Grammar

/-! ## No numbers -/

theorem numberlessItems_iff {items : List Document} :
    numberlessItems items = true ↔ ∀ item ∈ items, item.numberless = true := by
  induction items with
  | nil => simp [numberlessItems]
  | cons item rest ih => simp [numberlessItems, ih]

theorem numberlessEntries_iff {entries : List (String × Document)} :
    numberlessEntries entries = true ↔ ∀ entry ∈ entries, entry.2.numberless = true := by
  induction entries with
  | nil => simp [numberlessEntries]
  | cons entry rest ih => simp [numberlessEntries, ih]

theorem RuleSpec.numberless_of_parts {rule : RuleSpec}
    (hcaptures : ∀ key ∈ ruleCaptureKeys,
      numberlessEntries (captureDocuments (rule.capturesOf key)) = true)
    (hrules : numberlessItems (ruleDocuments rule.patterns) = true) :
    rule.toDocument.numberless = true := by
  obtain ⟨entries, hentries, _, hwritten⟩ := rule.toDocument_entries
  rw [hentries, Document.numberless, numberlessEntries_iff]
  rintro ⟨key, value⟩ hentry
  cases (hwritten key value).mp hentry with
  | text | flag => rfl
  | captures hkey => exact hcaptures key hkey
  | patterns => exact hrules

theorem CaptureSpec.numberless_of_parts {capture : CaptureSpec RuleSpec}
    (hrules : numberlessItems (ruleDocuments capture.patterns) = true) :
    capture.toDocument.numberless = true := by
  obtain ⟨entries, hentries, _, hwritten⟩ := capture.toDocument_entries
  rw [hentries, Document.numberless, numberlessEntries_iff]
  rintro ⟨key, value⟩ hentry
  cases (hwritten key value).mp hentry with
  | name => rfl
  | patterns => exact hrules

mutual

theorem RuleSpec.toDocument_numberless : ∀ rule : RuleSpec, rule.toDocument.numberless = true
  | ⟨_, _, _, _, _, _, captures, openingCaptures, closingCaptures, patterns, _, _⟩ => by
    refine RuleSpec.numberless_of_parts ?_ (ruleDocuments_numberless patterns)
    intro key hkey
    simp only [ruleCaptureKeys, List.mem_cons, List.not_mem_nil, or_false] at hkey
    rcases hkey with rfl | rfl | rfl
    · exact captureDocuments_numberless captures
    · exact captureDocuments_numberless openingCaptures
    · exact captureDocuments_numberless closingCaptures

theorem ruleDocuments_numberless : ∀ rules : List RuleSpec,
    numberlessItems (ruleDocuments rules) = true
  | [] => rfl
  | rule :: rest => by
    rw [ruleDocuments, numberlessItems, Bool.and_eq_true]
    exact ⟨rule.toDocument_numberless, ruleDocuments_numberless rest⟩

theorem captureDocuments_numberless : ∀ captures : List (String × CaptureSpec RuleSpec),
    numberlessEntries (captureDocuments captures) = true
  | [] => rfl
  | (_, ⟨name, patterns⟩) :: rest => by
    have hcapture := @CaptureSpec.numberless_of_parts ⟨name, patterns⟩
      (ruleDocuments_numberless patterns)
    rw [captureDocuments, numberlessEntries, Bool.and_eq_true]
    exact ⟨hcapture, captureDocuments_numberless rest⟩

end

/-- **A grammar is written without numbers.** -/
theorem Grammar.toDocument_numberless (grammar : Grammar) :
    grammar.toDocument.numberless = true := by
  obtain ⟨entries, hentries, _, hwritten⟩ := grammar.toDocument_entries
  rw [hentries, Document.numberless, numberlessEntries_iff]
  rintro ⟨key, value⟩ hentry
  cases (hwritten key value).mp hentry with
  | text | scopeName => rfl
  | fileTypes =>
    rw [Document.numberless, numberlessItems_iff]
    intro item hitem
    obtain ⟨text, _, rfl⟩ := List.mem_map.mp hitem
    rfl
  | repository =>
    rw [Grammar.repositoryDocument, Document.numberless, numberlessEntries_iff]
    intro entry hentry
    obtain ⟨named, _, rfl⟩ := List.mem_map.mp hentry
    exact named.2.toDocument_numberless
  | patterns => exact ruleDocuments_numberless grammar.patterns

end ScopeScanner
