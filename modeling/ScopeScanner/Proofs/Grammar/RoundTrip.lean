import ScopeScanner.Proofs.Grammar.Writing

/-!
# Grammars that are written and read back

A grammar is written as a document, and that as a JSON text. Both steps are undone by the reader, as
long as the text is not nested more deeply than texts may be and each map holds each key once:

* **`Grammar.ofDocument_toDocument`**: a grammar is read back from its document, however deep.
* **`Grammar.ofJson_toJson`**: a grammar is read back from its compact and from its indented text.

What the levels leave to a document and what its objects hold goes down to its parts together
(`Json.Levels.Takes`), so the argument is one induction on the rules.
-/

namespace ScopeScanner

open Json (Tree Levels treesOfDocuments treesOfEntries)
open Schema (ruleTextKeys ruleCaptureKeys grammarTextKeys)

/-! ## Levels of a document -/

mutual

/-- How deeply the arrays and objects of a document are nested. -/
def Document.nesting : Document → Nat
  | .array items => nestingItems items + 1
  | .object entries => nestingEntries entries + 1
  | _ => 0

/-- How deeply the arrays and objects of a list of documents are nested. -/
def nestingItems : List Document → Nat
  | [] => 0
  | item :: rest => max item.nesting (nestingItems rest)

/-- How deeply the arrays and objects in the values of an object are nested. -/
def nestingEntries : List (String × Document) → Nat
  | [] => 0
  | (_, value) :: rest => max value.nesting (nestingEntries rest)

end

theorem nesting_le_of_item {items : List Document} {item : Document} (h : item ∈ items) :
    item.nesting ≤ nestingItems items := by
  induction items with
  | nil => cases h
  | cons first rest ih =>
    rw [nestingItems]
    rcases List.mem_cons.mp h with rfl | h
    · exact Nat.le_max_left _ _
    · exact Nat.le_trans (ih h) (Nat.le_max_right _ _)

theorem nesting_le_of_value {entries : List (String × Document)} {entry : String × Document}
    (h : entry ∈ entries) : entry.2.nesting ≤ nestingEntries entries := by
  induction entries with
  | nil => cases h
  | cons first rest ih =>
    obtain ⟨key, value⟩ := first
    rw [nestingEntries]
    rcases List.mem_cons.mp h with rfl | h
    · exact Nat.le_max_left _ _
    · exact Nat.le_trans (ih h) (Nat.le_max_right _ _)

namespace Json.Levels

/-- Whether a document can be read within some levels, and holds each key once. -/
structure Takes (levels : Levels) (document : Document) : Prop where
  levels : ∀ left ∈ levels, document.nesting < left
  keys : document.distinctKeys = true

variable {levels : Levels}

theorem enter_of_lt {nesting : Nat} (h : ∀ left ∈ levels, nesting + 1 < left) :
    ∃ below, levels.enter = .ok below ∧ ∀ left ∈ below, nesting < left := by
  cases levels with
  | none => exact ⟨none, rfl, by simp⟩
  | some left =>
    have hlt := h left rfl
    obtain ⟨fewer, rfl⟩ := Nat.exists_eq_add_of_le hlt
    refine ⟨some (nesting + fewer + 1), ?_, ?_⟩
    · rw [show nesting + 1 + 1 + fewer = nesting + fewer + 2 by omega]
      rfl
    · rintro _ ⟨⟩
      omega

theorem Takes.array {items : List Document} (h : levels.Takes (.array items)) :
    ∃ below, levels.enter = .ok below ∧ ∀ item ∈ items, below.Takes item := by
  obtain ⟨below, henter, hbelow⟩ := enter_of_lt h.levels
  refine ⟨below, henter, fun item hitem => ⟨fun left hleft => ?_, ?_⟩⟩
  · exact Nat.lt_of_le_of_lt (nesting_le_of_item hitem) (hbelow left hleft)
  · exact Document.distinctKeys_array.mp h.keys item hitem

theorem Takes.object {entries : List (String × Document)} (h : levels.Takes (.object entries)) :
    ∃ below, levels.enter = .ok below ∧ (entries.map (·.1)).Nodup ∧
      ∀ entry ∈ entries, below.Takes entry.2 := by
  obtain ⟨below, henter, hbelow⟩ := enter_of_lt h.levels
  obtain ⟨hkeys, hvalues⟩ := Document.distinctKeys_object.mp h.keys
  refine ⟨below, henter, hkeys, fun entry hentry => ⟨fun left hleft => ?_, hvalues entry hentry⟩⟩
  exact Nat.lt_of_le_of_lt (nesting_le_of_value hentry) (hbelow left hleft)

end Json.Levels

/-! ## Documents -/

namespace Json

mutual

/-- The tree of a document is the document again. -/
theorem toDocument_ofDocument : ∀ (document : Document) (levels : Levels),
    document.numberless = true → levels.Takes document →
      (Tree.ofDocument document).toDocument levels = .ok document
  | .null => fun _ _ _ => rfl
  | .bool _ => fun _ _ _ => rfl
  | .string _ => fun _ _ _ => rfl
  | .number _ => by
    rintro levels ⟨⟩
  | .array items => by
    intro levels hnumbers hlevels
    obtain ⟨below, henter, hitems⟩ := hlevels.array
    rw [Tree.ofDocument, Tree.toDocument, henter]
    show (itemsToDocuments below (treesOfDocuments items) >>= fun items =>
      Except.ok (Document.array items)) = _
    rw [itemsToDocuments_treesOfDocuments items below hnumbers hitems]
    rfl
  | .object entries => by
    intro levels hnumbers hlevels
    obtain ⟨below, henter, hkeys, hvalues⟩ := hlevels.object
    rw [Tree.ofDocument, Tree.toDocument, henter]
    show (entriesToDocuments below (treesOfEntries entries) [] >>= fun entries =>
      Except.ok (Document.object entries)) = _
    rw [entriesToDocuments_treesOfEntries entries below [] hkeys hnumbers hvalues]
    rfl

theorem itemsToDocuments_treesOfDocuments : ∀ (items : List Document) (levels : Levels),
    numberlessItems items = true → (∀ item ∈ items, levels.Takes item) →
      itemsToDocuments levels (treesOfDocuments items) = .ok items
  | [] => fun _ _ _ => rfl
  | item :: rest => by
    intro levels hnumbers hlevels
    rw [numberlessItems, Bool.and_eq_true] at hnumbers
    have hrest := itemsToDocuments_treesOfDocuments rest levels hnumbers.2 fun other hother =>
      hlevels other (List.mem_cons_of_mem _ hother)
    rw [treesOfDocuments, itemsToDocuments,
      toDocument_ofDocument item levels hnumbers.1 (hlevels item List.mem_cons_self)]
    show (itemsToDocuments levels (treesOfDocuments rest) >>= fun rest =>
      Except.ok (item :: rest)) = _
    rw [hrest]
    rfl

theorem entriesToDocuments_treesOfEntries : ∀ (entries : List (String × Document))
    (levels : Levels) (done : List (String × Document)), ((done ++ entries).map (·.1)).Nodup →
      numberlessEntries entries = true → (∀ entry ∈ entries, levels.Takes entry.2) →
        entriesToDocuments levels (treesOfEntries entries) done = .ok (done ++ entries)
  | [] => fun _ done _ _ _ => by rw [List.append_nil]; rfl
  | (key, value) :: rest => by
    intro levels done hkeys hnumbers hlevels
    rw [numberlessEntries, Bool.and_eq_true] at hnumbers
    have hvalue := toDocument_ofDocument value levels hnumbers.1 (hlevels _ List.mem_cons_self)
    have hrest := entriesToDocuments_treesOfEntries rest levels (done ++ [(key, value)])
      (by rwa [List.append_assoc]) hnumbers.2 fun entry hentry =>
        hlevels entry (List.mem_cons_of_mem _ hentry)
    rw [treesOfEntries, entriesToDocuments, bind_of_ok hvalue, insertEntry_eq_append hkeys, hrest,
      List.append_assoc]
    rfl

end

/-- **A document without numbers is read back from its texts**, with blanks behind them or without. -/
theorem read_print {document : Document} {blanks : String} (hnumbers : document.numberless = true)
    (hlevels : textLevels.Takes document) (hblanks : skipBlanks blanks.toList = []) :
    read (print document ++ blanks) = .ok document ∧
      read (printIndented document ++ blanks) = .ok document := by
  have hdocument := toDocument_ofDocument document textLevels hnumbers hlevels
  constructor
  · rw [read, readTree_print hnumbers hblanks]
    dsimp only
    rw [hdocument]
    rfl
  · rw [read, readTree_printIndented hnumbers hblanks]
    dsimp only
    rw [hdocument]
    rfl

end Json

/-! ## Records -/

/-- The rules of a list are read back from their documents. -/
def RulesReadBack (rules : List RuleSpec) : Prop :=
  ∀ levels : Levels, (∀ rule ∈ rules, levels.Takes rule.toDocument) →
    readRulesIn levels (treesOfDocuments (ruleDocuments rules)) = .ok rules

/-- The captures of a map are read back from their documents, behind those that have been read
already. -/
def CapturesReadBack (captures : List (String × CaptureSpec RuleSpec)) : Prop :=
  ∀ (levels : Levels) (done : List (String × CaptureSpec RuleSpec)),
    ((done ++ captures).map (·.1)).Nodup → (∀ entry ∈ captures, levels.Takes entry.2.toDocument) →
      readCapturesIn levels (treesOfEntries (captureDocuments captures)) done = .ok (done ++ captures)

namespace CaptureSpec

/-- A capture is read back if its rules are. -/
theorem read_toDocument {capture : CaptureSpec RuleSpec} {levels : Levels}
    (hrules : RulesReadBack capture.patterns) (hlevels : levels.Takes capture.toDocument) :
    readCapture levels (.ofDocument capture.toDocument) = .ok capture := by
  obtain ⟨entries, hentries, _, hwritten⟩ := capture.toDocument_entries
  rw [hentries] at hlevels ⊢
  obtain ⟨below, henter, hkeys, hvalues⟩ := hlevels.object
  refine read_of_fields henter hkeys ?_ ?_ ?_
  · rintro ⟨key, value⟩ hentry
    cases (hwritten key value).mp hentry with
    | name htext => exact .name htext
    | patterns =>
      obtain ⟨last, hlast, hitems⟩ := (hvalues _ hentry).array
      rw [ruleDocuments_eq_map, List.forall_mem_map] at hitems
      exact .patterns hlast (hrules last hitems)
  · intro hname
    cases htext : capture.name with
    | none => rfl
    | some text => exact absurd (List.mem_map_of_mem ((hwritten _ _).mpr (.name htext))) hname
  · intro hpatterns
    refine Classical.byContradiction fun hne => hpatterns ?_
    exact List.mem_map_of_mem ((hwritten _ _).mpr (.patterns hne))

end CaptureSpec

namespace RuleSpec

/-- A rule that is written with some entries has no other fields. -/
theorem only_of_written {rule : RuleSpec} {entries : List (String × Document)}
    (hwritten : ∀ key value, (key, value) ∈ entries ↔ Written rule key value) :
    rule.only (entries.map (·.1)) = rule := by
  have hkey {key : String} {value : Document} (h : Written rule key value) :
      key ∈ entries.map (·.1) := List.mem_map_of_mem ((hwritten key value).mpr h)
  refine only_eq ?_ ?_ ?_ ?_
  · intro key htext hnone
    cases hfound : rule.textOf key with
    | none => rfl
    | some text => exact absurd (hkey (.text htext hfound)) hnone
  · intro key hcaptures hnone
    exact Classical.byContradiction fun hne => hnone (hkey (.captures hcaptures hne))
  · intro hnone
    exact Classical.byContradiction fun hne => hnone (hkey (.patterns hne))
  · intro hnone
    rw [← Bool.not_eq_true]
    exact fun hset => hnone (hkey (.flag hset))

/-- A rule is read back if its captures and the rules below it are. -/
theorem read_toDocument_of_parts {rule : RuleSpec} {levels : Levels}
    (hcaptures : ∀ key ∈ ruleCaptureKeys, CapturesReadBack (rule.capturesOf key))
    (hrules : RulesReadBack rule.patterns) (hlevels : levels.Takes rule.toDocument) :
    readRule levels (.ofDocument rule.toDocument) = .ok rule := by
  obtain ⟨entries, hentries, _, hwritten⟩ := rule.toDocument_entries
  rw [hentries] at hlevels ⊢
  obtain ⟨below, henter, hkeys, hvalues⟩ := hlevels.object
  refine read_of_fields henter hkeys ?_ (only_of_written hwritten)
  rintro ⟨key, value⟩ hentry
  cases (hwritten key value).mp hentry with
  | text hkey htext => exact .text hkey htext
  | captures hkey =>
    obtain ⟨last, hlast, hnodup, hcaptured⟩ := (hvalues _ hentry).object
    rw [captureDocuments_eq_map, List.forall_mem_map] at hcaptured
    rw [captureDocuments_eq_map, List.map_map] at hnodup
    exact .captures hkey hlast (hcaptures key hkey last [] hnodup hcaptured)
  | patterns =>
    obtain ⟨last, hlast, hitems⟩ := (hvalues _ hentry).array
    rw [ruleDocuments_eq_map, List.forall_mem_map] at hitems
    exact .patterns hlast (hrules last hitems)
  | flag hset => exact hset ▸ .flag

end RuleSpec

mutual

/-- **A rule is read back from its document.** -/
theorem RuleSpec.read_toDocument : ∀ (rule : RuleSpec) (levels : Levels),
    levels.Takes rule.toDocument → readRule levels (.ofDocument rule.toDocument) = .ok rule
  | ⟨_, _, _, _, _, _, captures, openingCaptures, closingCaptures, patterns, _, _⟩ => by
    intro levels hlevels
    refine RuleSpec.read_toDocument_of_parts ?_ (rules_read_back patterns) hlevels
    intro key hkey
    simp only [ruleCaptureKeys, List.mem_cons, List.not_mem_nil, or_false] at hkey
    rcases hkey with rfl | rfl | rfl
    · exact captures_read_back captures
    · exact captures_read_back openingCaptures
    · exact captures_read_back closingCaptures

theorem rules_read_back : ∀ rules : List RuleSpec, RulesReadBack rules
  | [] => fun _ _ => rfl
  | rule :: rest => by
    intro levels hlevels
    have hrule := rule.read_toDocument levels (hlevels rule List.mem_cons_self)
    have hrest := rules_read_back rest levels fun other hother =>
      hlevels other (List.mem_cons_of_mem _ hother)
    rw [ruleDocuments, treesOfDocuments, readRulesIn, bind_of_ok hrule, bind_of_ok hrest]
    rfl

theorem captures_read_back : ∀ captures : List (String × CaptureSpec RuleSpec),
    CapturesReadBack captures
  | [] => fun _ done _ _ => by rw [List.append_nil]; rfl
  | (key, ⟨name, patterns⟩) :: rest => by
    intro levels done hkeys hlevels
    have hcapture := @CaptureSpec.read_toDocument ⟨name, patterns⟩ levels
      (rules_read_back patterns) (hlevels _ List.mem_cons_self)
    have hrest := captures_read_back rest levels (done ++ [(key, ⟨name, patterns⟩)])
      (by rwa [List.append_assoc]) fun entry hentry => hlevels entry (List.mem_cons_of_mem _ hentry)
    rw [captureDocuments, treesOfEntries, readCapturesIn]
    -- the key is not among those before it, so the capture goes behind them
    refine (bind_of_ok hcapture _).trans ?_
    rw [insertEntry_eq_append hkeys, hrest, List.append_assoc]
    rfl

end

/-! ## Grammars -/

theorem repository_read_back (rules : List (String × RuleSpec)) {levels : Levels}
    (hlevels : ∀ entry ∈ rules, levels.Takes entry.2.toDocument) (done : List (String × RuleSpec))
    (hkeys : ((done ++ rules).map (·.1)).Nodup) :
    readRepositoryIn levels
        (treesOfEntries (rules.map fun entry => (entry.1, entry.2.toDocument))) done =
      .ok (done ++ rules) := by
  induction rules generalizing done with
  | nil => rw [List.append_nil]; rfl
  | cons entry rest ih =>
    obtain ⟨key, rule⟩ := entry
    have hrule := rule.read_toDocument levels (hlevels _ List.mem_cons_self)
    have hrest := ih (fun entry hentry => hlevels entry (List.mem_cons_of_mem _ hentry))
      (done ++ [(key, rule)]) (by rwa [List.append_assoc])
    rw [List.map_cons, treesOfEntries, readRepositoryIn, bind_of_ok hrule,
      insertEntry_eq_append hkeys, hrest, List.append_assoc]
    rfl

namespace Grammar

/-- A grammar that is written with some entries has no other fields. -/
theorem only_of_written {grammar : Grammar} {entries : List (String × Document)}
    (hwritten : ∀ key value, (key, value) ∈ entries ↔ Written grammar key value) :
    grammar.only (entries.map (·.1)) = grammar := by
  have hkey {key : String} {value : Document} (h : Written grammar key value) :
      key ∈ entries.map (·.1) := List.mem_map_of_mem ((hwritten key value).mpr h)
  refine only_eq ?_ ?_ ?_ ?_ (hkey .scopeName)
  · intro key htext hnone
    cases hfound : grammar.textOf key with
    | none => rfl
    | some text => exact absurd (hkey (.text htext hfound)) hnone
  · intro hnone
    exact Classical.byContradiction fun hne => hnone (hkey (.fileTypes hne))
  · exact fun hnone => absurd (hkey .repository) hnone
  · exact fun hnone => absurd (hkey .patterns) hnone

/-- **A grammar is read back from its document.** -/
theorem read_toDocument {grammar : Grammar} {levels : Levels}
    (hlevels : levels.Takes grammar.toDocument) :
    readGrammar levels (.ofDocument grammar.toDocument) = .ok grammar := by
  obtain ⟨entries, hentries, _, hwritten⟩ := grammar.toDocument_entries
  rw [hentries] at hlevels ⊢
  obtain ⟨below, henter, hkeys, hvalues⟩ := hlevels.object
  have hscope := (hwritten _ _).mpr .scopeName
  refine read_of_fields henter hkeys ?_ (only_of_written hwritten) (List.mem_map_of_mem hscope)
  rintro ⟨key, value⟩ hentry
  cases (hwritten key value).mp hentry with
  | text hkey htext => exact .text hkey htext
  | scopeName => exact .scopeName
  | fileTypes =>
    obtain ⟨last, hlast, _⟩ := (hvalues _ hentry).array
    exact .fileTypes hlast
  | repository =>
    obtain ⟨last, hlast, hnodup, hrules⟩ := (hvalues _ hentry).object
    rw [List.forall_mem_map] at hrules
    rw [List.map_map] at hnodup
    exact .repository hlast (repository_read_back grammar.repository hrules [] hnodup)
  | patterns =>
    obtain ⟨last, hlast, hitems⟩ := (hvalues _ hentry).array
    rw [ruleDocuments_eq_map, List.forall_mem_map] at hitems
    exact .patterns hlast (rules_read_back grammar.patterns last hitems)

/-- A grammar with each key once is read back from its document, however deeply it is nested. -/
theorem ofDocument_toDocument {grammar : Grammar} (h : grammar.toDocument.distinctKeys = true) :
    ofDocument grammar.toDocument = .ok grammar :=
  read_toDocument ⟨fun _ hleft => (Option.not_mem_none _ hleft).elim, h⟩

/-- **A grammar is read back from its texts**, from the compact one and from the indented one, with all
entries and items in their order. Maps are lists of entries here, and each key has to come once. -/
theorem ofJson_toJson {grammar : Grammar} (hkeys : grammar.toDocument.distinctKeys = true)
    (hnesting : grammar.toDocument.nesting ≤ 127) :
    ofJson grammar.toJson = .ok grammar ∧ ofJson grammar.toIndentedJson = .ok grammar := by
  have hread : readGrammar Json.textLevels (.ofDocument grammar.toDocument) = .ok grammar :=
    read_toDocument ⟨by rintro _ ⟨⟩; omega, hkeys⟩
  have hfinish : Json.Reading.finish { tree := .ofDocument grammar.toDocument, trailing := false }
      (readGrammar Json.textLevels (.ofDocument grammar.toDocument)) = .ok grammar := by
    rw [hread]
    rfl
  have hblanks : Json.skipBlanks "".toList = [] := rfl
  have hprint := Json.readTree_print grammar.toDocument_numberless hblanks
  have hindented := Json.readTree_printIndented grammar.toDocument_numberless hblanks
  rw [String.append_empty] at hprint hindented
  constructor
  · rw [ofJson, toJson, hprint]
    exact hfinish
  · rw [ofJson, toIndentedJson, hindented]
    exact hfinish

/-- A region with captures of its begin and a rule inside it. Some of its texts have to be escaped. -/
def escapeGrammar : Grammar :=
  let control := (RuleSpec.simple "[\x00-\x1f\t\n]").withComment "\u0001 and \"quotes\""
  ((Grammar.ofScope "source.escapes").withPattern (.link "#text")).withRule "text"
    (((RuleSpec.region "(<)\\\\" ">").withOpeningCapture 1 "open").withPattern control)

theorem ofJson_toJson_escapes : escapeGrammar.toDocument.distinctKeys = true ∧
    escapeGrammar.toDocument.nesting = 5 ∧ ofJson escapeGrammar.toJson = .ok escapeGrammar ∧
      ofJson escapeGrammar.toIndentedJson = .ok escapeGrammar := by
  have hkeys : escapeGrammar.toDocument.distinctKeys = true := by decide +kernel
  have hnesting : escapeGrammar.toDocument.nesting = 5 := by decide +kernel
  exact ⟨hkeys, hnesting, ofJson_toJson hkeys (by rw [hnesting]; decide)⟩

end Grammar

end ScopeScanner
