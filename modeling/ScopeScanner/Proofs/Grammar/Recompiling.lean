import ScopeScanner.CommandLine.Run
import ScopeScanner.Proofs.Grammar.Loading
import ScopeScanner.Proofs.Grammar.Rewriting
import ScopeScanner.Proofs.Grammar.RoundTrip

/-!
# Grammars that are validated and compiled twice

A grammar that was read from an accepted document is validated again when it is compiled, as the document
that it would be written as. That one always has a repository, and lacks whatever says nothing:

* **`Grammar.violations_toDocument`**: the second validation finds nothing.
* **`Repository.recompiled`**: both ways to compile give the same repository, no command that has loaded
  a grammar refuses it afterwards, and what is written is read as the same grammar.
-/

namespace ScopeScanner

open Json (Tree treesOfDocuments treesOfEntries)

namespace Schema

/-- The rules of a repository are read and accepted again, each under its name. -/
theorem repository_rewritten {context : Context} {entries : List (String × Document)}
    (hkeys : (Document.object entries).distinctKeys = true)
    (hentries : checkRepository context entries = []) :
    ∃ rules, readRepositoryIn none (treesOfEntries entries) [] = .ok rules ∧
      rules.map (·.1) = entries.map (·.1) ∧ ∀ entry ∈ rules,
        checkRule context (Pointer.key "/repository" entry.1) entry.2.toDocument = [] ∧
        entry.2.toDocument.distinctKeys = true := by
  obtain ⟨hnodup, hvalues⟩ := Document.distinctKeys_object.mp hkeys
  have hchecked : ∀ entry ∈ entries,
      checkRule context (Pointer.key "/repository" entry.1) entry.2 = [] :=
    List.flatMap_eq_nil_iff.mp hentries
  suffices hdone : ∀ done : List (String × RuleSpec),
      (∀ entry ∈ entries, entry.1 ∉ done.map (·.1)) → ∃ rules,
        readRepositoryIn none (treesOfEntries entries) done = .ok (done ++ rules) ∧
        rules.map (·.1) = entries.map (·.1) ∧ ∀ entry ∈ rules,
          checkRule context (Pointer.key "/repository" entry.1) entry.2.toDocument = [] ∧
          entry.2.toDocument.distinctKeys = true from hdone [] (by simp)
  clear hkeys hentries
  induction entries with
  | nil => exact fun done _ => ⟨[], by rw [List.append_nil]; rfl, rfl, by simp⟩
  | cons entry rest ih =>
    intro done hnew
    obtain ⟨key, value⟩ := entry
    rw [List.map_cons, List.nodup_cons] at hnodup
    have hvalue := hchecked (key, value) List.mem_cons_self
    obtain ⟨rule, hrule⟩ :=
      rewritten_of_checkRule value _ (hvalues (key, value) List.mem_cons_self) hvalue
    obtain ⟨rules, hread, hnames, hall⟩ := ih hnodup.2
      (fun entry hentry => hvalues entry (List.mem_cons_of_mem _ hentry))
      (fun entry hentry => hchecked entry (List.mem_cons_of_mem _ hentry))
      (insertEntry done key rule) (insertEntry_new rule hnodup.1 hnew)
    refine ⟨(key, rule) :: rules, ?_, by rw [List.map_cons, List.map_cons, hnames],
      List.forall_mem_cons.mpr ⟨⟨hrule.accepted, hrule.keys⟩, hall⟩⟩
    rw [treesOfEntries, readRepositoryIn, bind_of_ok hrule.read, hread,
      insertEntry_of_not_mem _ (hnew (key, value) List.mem_cons_self), List.append_assoc]
    rfl

/-- What the fields of a grammar are read from, and what is accepted of them again. -/
structure GrammarFieldsOf (context : Context) (entries : List (String × Document))
    (grammar : Grammar) : Prop where
  texts : ∀ key ∈ grammarTextKeys, grammar.textOf key = (entries.lookup key).bind Document.string?
  scopeName : entries.lookup "scopeName" = some (.string grammar.scopeName)
  fileTypes : ∀ value, entries.lookup "fileTypes" = some value →
    value = .array (grammar.fileTypes.map .string)
  noTypes : entries.lookup "fileTypes" = none → grammar.fileTypes = []
  repository : ∀ value, entries.lookup "repository" = some value → ∃ named, value = .object named ∧
    readRepositoryIn none (treesOfEntries named) [] = .ok grammar.repository
  names : grammar.repository.map (·.1) = (repositoryEntries entries).map (·.1)
  rules : ∀ entry ∈ grammar.repository,
    checkRule context (Pointer.key "/repository" entry.1) entry.2.toDocument = [] ∧
      entry.2.toDocument.distinctKeys = true
  patterns : ∀ value, entries.lookup "patterns" = some value → ∃ items, value = .array items ∧
    readRulesIn none (treesOfDocuments items) = .ok grammar.patterns
  accepted : checkRules context "/patterns" 0 (ruleDocuments grammar.patterns) = []
  keys : (Document.array (ruleDocuments grammar.patterns)).distinctKeys = true

/-- The parts of an accepted grammar document, with what the checks found to be right about them. -/
structure CleanGrammar (context : Context) (entries : List (String × Document)) : Prop where
  known : ∀ entry ∈ entries, entry.1 ∈ grammarKeys
  scopeName : checkScopeName (entries.lookup "scopeName") = []
  texts : ∀ key ∈ ["name", "uuid", "keyEquivalent", "foldingStartMarker", "foldingStopMarker"],
    checkText (Pointer.key "" key) (entries.lookup key) = []
  firstLine : checkText "/firstLineMatch" (entries.lookup "firstLineMatch")
    (checkRegex context "/firstLineMatch") = []
  fileTypes : checkFileTypes (entries.lookup "fileTypes") = []
  patterns : ∃ items, entries.lookup "patterns" = some (.array items) ∧
    checkRules context "/patterns" 0 items = []
  repository : ∀ value, entries.lookup "repository" = some value → ∃ named, value = .object named
  rules : checkRepository context (repositoryEntries entries) = []

theorem violations_object_eq_nil {entries : List (String × Document)} {budget : Nat} :
    violations (.object entries) budget = [] ↔ CleanGrammar (contextOf entries budget) entries := by
  simp only [violations, List.append_eq_nil_iff, and_assoc]
  constructor
  · rintro ⟨hknown, hrepository, hscope, htexts, hline, htypes, hpatterns, hrules⟩
    refine ⟨checkKeys_eq_nil hknown, hscope, List.flatMap_eq_nil_iff.mp htexts, hline, htypes, ?_, ?_,
      hrules⟩
    · cases hfound : entries.lookup "patterns" with
      | none =>
        rw [hfound] at hpatterns
        cases hpatterns
      | some patterns =>
        rw [hfound] at hpatterns
        cases patterns with
        | array items => exact ⟨items, rfl, hpatterns⟩
        | _ => cases hpatterns
    · intro value hfound
      rw [hfound] at hrepository
      cases value with
      | object named => exact ⟨named, rfl⟩
      | _ => cases hrepository
  · intro h
    obtain ⟨items, hfound, hitems⟩ := h.patterns
    refine ⟨?_, ?_, h.scopeName, List.flatMap_eq_nil_iff.mpr h.texts, h.firstLine, h.fileTypes, ?_,
      h.rules⟩
    · refine List.flatMap_eq_nil_iff.mpr fun entry hentry => ?_
      rw [problemIf, if_neg (by simpa using h.known entry hentry)]
    · cases hrepository : entries.lookup "repository" with
      | none => rfl
      | some value =>
        obtain ⟨named, rfl⟩ := h.repository value hrepository
        rfl
    · rw [hfound]
      exact hitems

section Grammar

variable {context : Context} {budget : Nat} {entries : List (String × Document)} {grammar : Grammar}

theorem otherTextKeys_subset :
    ∀ key ∈ ["name", "uuid", "keyEquivalent", "foldingStartMarker", "foldingStopMarker"],
      key ∈ grammarTextKeys := by
  decide

/-- A known key of a grammar is that of a text or one of four others. -/
theorem grammarKey_cases {key : String} (hkey : key ∈ grammarKeys) : key ∈ grammarTextKeys ∨
    key = "scopeName" ∨ key = "fileTypes" ∨ key = "repository" ∨ key = "patterns" := by
  simp only [grammarKeys, List.mem_cons, List.not_mem_nil, or_false] at hkey
  rcases hkey with rfl | rfl | rfl | rfl | rfl | rfl | rfl | rfl | rfl | rfl
  all_goals simp [grammarTextKeys]

theorem CleanGrammar.text (h : CleanGrammar context entries) {key : String}
    (hkey : key ∈ grammarTextKeys) {value : Document} (hvalue : entries.lookup key = some value) :
    ∃ text, value = .string text := by
  by_cases hfirst : key = "firstLineMatch"
  · subst hfirst
    have hline := h.firstLine
    rw [hvalue] at hline
    obtain ⟨text, htext, _⟩ := checkText_eq_nil hline
    exact ⟨text, htext⟩
  · have hcheck := h.texts key (by
      simp only [grammarTextKeys, List.mem_cons, List.not_mem_nil, or_false, hfirst,
        false_or] at hkey ⊢
      rcases hkey with rfl | rfl | rfl | rfl | rfl <;> simp)
    rw [hvalue] at hcheck
    obtain ⟨text, htext, _⟩ := checkText_eq_nil hcheck
    exact ⟨text, htext⟩

theorem exists_fileTypes (h : checkFileTypes (entries.lookup "fileTypes") = []) :
    ∃ types : List String, (∀ value, entries.lookup "fileTypes" = some value →
      value = .array (types.map .string)) ∧ (entries.lookup "fileTypes" = none → types = []) := by
  cases hfound : entries.lookup "fileTypes" with
  | none => exact ⟨[], nofun, fun _ => rfl⟩
  | some value =>
    rw [hfound] at h
    obtain ⟨items, rfl, htexts⟩ := checkFileTypes_eq_nil h
    refine ⟨items.filterMap Document.string?, ?_, nofun⟩
    rintro _ ⟨⟩
    congr 1
    clear h hfound
    induction items with
    | nil => rfl
    | cons item rest ih =>
      obtain ⟨text, rfl⟩ := htexts item List.mem_cons_self
      rw [List.filterMap_cons_some (show Document.string? (.string text) = some text from rfl),
        List.map_cons, ← ih fun other hother => htexts other (List.mem_cons_of_mem _ hother)]

theorem checkFileTypes_texts (types : List String) :
    checkFileTypes (some (.array (types.map .string))) = [] := by
  refine List.flatMap_eq_nil_iff.mpr ?_
  rintro ⟨item, index⟩ hitem
  obtain ⟨text, _, rfl⟩ := List.mem_map.mp (List.fst_mem_of_mem_zipIdx hitem)
  rfl

theorem exists_grammarFieldsOf (hkeys : (Document.object entries).distinctKeys = true)
    (h : CleanGrammar context entries) : ∃ grammar, GrammarFieldsOf context entries grammar := by
  obtain ⟨hnodup, hvalues⟩ := Document.distinctKeys_object.mp hkeys
  obtain ⟨types, htypes, hnone⟩ := exists_fileTypes h.fileTypes
  -- the repository is read if it is there, and empty if it is not
  have hrepository : (Document.object (repositoryEntries entries)).distinctKeys = true := by
    rw [repositoryEntries]
    split
    · next named hfound => exact hvalues _ ((lookup_eq_some_iff_mem hnodup).mp hfound)
    · rfl
  obtain ⟨rules, hread, hnames, hrules⟩ := repository_rewritten hrepository h.rules
  obtain ⟨items, hfound, hitems⟩ := h.patterns
  obtain ⟨patterns, hpatterns, _, haccepted, hdistinct⟩ := rules_rewritten
    (fun document path _ => rewritten_of_checkRule document path) (Nat.le_refl _)
    (hvalues _ ((lookup_eq_some_iff_mem hnodup).mp hfound)) hitems
  obtain ⟨scope, hscope⟩ : ∃ scope, entries.lookup "scopeName" = some (.string scope) := by
    have hchecked := h.scopeName
    cases hlookup : entries.lookup "scopeName" with
    | none =>
      rw [hlookup] at hchecked
      cases hchecked
    | some value =>
      rw [hlookup] at hchecked
      cases value with
      | string scope => exact ⟨scope, rfl⟩
      | _ => cases hchecked
  let text (key : String) : Option String := (entries.lookup key).bind Document.string?
  refine ⟨{
    fileTypes := types, firstLineMatch := text "firstLineMatch",
    foldingStartMarker := text "foldingStartMarker", foldingStopMarker := text "foldingStopMarker",
    keyEquivalent := text "keyEquivalent", repository := rules, uuid := text "uuid",
    patterns, name := text "name", scopeName := scope },
    ⟨?_, hscope, htypes, hnone, ?_, hnames, hrules, ?_, haccepted, hdistinct⟩⟩
  · simp only [grammarTextKeys, List.forall_mem_cons, List.not_mem_nil, false_imp_iff, implies_true,
      and_true]
    exact ⟨rfl, rfl, rfl, rfl, rfl, rfl⟩
  · intro value hvalue
    obtain ⟨named, rfl⟩ := h.repository value hvalue
    refine ⟨named, rfl, ?_⟩
    rwa [repositoryEntries, hvalue] at hread
  · intro value hvalue
    obtain rfl := Option.some.inj (hfound.symm.trans hvalue)
    exact ⟨items, rfl, hpatterns⟩

namespace GrammarFieldsOf

theorem read (hfields : GrammarFieldsOf context entries grammar)
    (hkeys : (entries.map (·.1)).Nodup) (h : CleanGrammar context entries) :
    readGrammar none (.ofDocument (.object entries)) = .ok grammar := by
  have hscope := (lookup_eq_some_iff_mem hkeys).mp hfields.scopeName
  refine Grammar.read_of_fields (show Json.Levels.enter none = .ok none from rfl) hkeys ?_ ?_
    (List.mem_map_of_mem hscope)
  · rintro ⟨key, value⟩ hentry
    have hlookup := lookup_of_mem hkeys hentry
    rcases grammarKey_cases (h.known _ hentry) with htext | rfl | rfl | rfl | rfl
    · obtain ⟨text, rfl⟩ := h.text htext hlookup
      refine .text htext ?_
      rw [hfields.texts key htext, hlookup]
      rfl
    · obtain rfl := Option.some.inj (hlookup.symm.trans hfields.scopeName)
      exact .scopeName
    · obtain rfl := hfields.fileTypes value hlookup
      exact .fileTypes rfl
    · obtain ⟨named, rfl, hread⟩ := hfields.repository value hlookup
      exact .repository rfl hread
    · obtain ⟨items, rfl, hread⟩ := hfields.patterns value hlookup
      exact .patterns rfl hread
  · refine Grammar.only_eq ?_ ?_ ?_ ?_ (List.mem_map_of_mem hscope)
    · intro key htext hnone
      rw [hfields.texts key htext, lookup_eq_none hnone]
      rfl
    · exact fun hnone => hfields.noTypes (lookup_eq_none hnone)
    · intro hnone
      have hnames := hfields.names
      rw [repositoryEntries, lookup_eq_none hnone] at hnames
      exact List.map_eq_nil_iff.mp hnames
    · intro hnone
      obtain ⟨items, hfound, _⟩ := h.patterns
      rw [lookup_eq_none hnone] at hfound
      cases hfound

theorem accepted_again (hfields : GrammarFieldsOf (contextOf entries budget) entries grammar)
    (h : CleanGrammar (contextOf entries budget) entries) :
    violations grammar.toDocument budget = [] := by
  obtain ⟨written, hdocument, hdistinct, hentries⟩ := grammar.toDocument_entries
  have hwritten (key : String) (value : Document) :
      written.lookup key = some value ↔ Grammar.Written grammar key value := by
    rw [lookup_eq_some_iff_mem hdistinct, hentries]
  have hrepository := (hwritten _ _).mpr .repository
  -- the texts are the ones the document had, and so are the names of the rules
  have htexts : ∀ key ∈ grammarTextKeys, written.lookup key = entries.lookup key := by
    intro key htext
    apply lookup_text_written (hfields.texts key htext)
    · exact fun _ hfound => h.text htext hfound
    · exact fun value => (hwritten key value).trans (Grammar.Written.text_iff htext)
  have hnamed : repositoryEntries written =
      grammar.repository.map fun entry => (entry.1, entry.2.toDocument) := by
    rw [repositoryEntries, hrepository]
    rfl
  have hcontext : contextOf written budget = contextOf entries budget := by
    rw [contextOf, contextOf, hnamed, List.map_map, ← hfields.names]
    rfl
  rw [hdocument, violations_object_eq_nil, hcontext]
  refine ⟨?_, ?_, ?_, ?_, ?_, ?_, ?_, ?_⟩
  · exact fun entry hentry => ((hentries entry.1 entry.2).mp hentry).known
  · rw [(hwritten _ _).mpr .scopeName, ← hfields.scopeName]
    exact h.scopeName
  · intro key hkey
    rw [htexts key (otherTextKeys_subset key hkey)]
    exact h.texts key hkey
  · rw [htexts "firstLineMatch" (by simp [grammarTextKeys])]
    exact h.firstLine
  · cases hfound : written.lookup "fileTypes" with
    | none => rfl
    | some value =>
      obtain rfl := ((hwritten _ value).mp hfound).of_fileTypes
      exact checkFileTypes_texts grammar.fileTypes
  · exact ⟨_, (hwritten _ _).mpr .patterns, hfields.accepted⟩
  · intro value hvalue
    obtain rfl := Option.some.inj (hrepository.symm.trans hvalue)
    exact ⟨_, rfl⟩
  · rw [hnamed]
    refine List.flatMap_eq_nil_iff.mpr ?_
    rw [List.forall_mem_map]
    exact fun entry hentry => (hfields.rules entry hentry).1

theorem distinct (hfields : GrammarFieldsOf context entries grammar)
    (hkeys : (Document.object entries).distinctKeys = true) :
    grammar.toDocument.distinctKeys = true := by
  obtain ⟨hnodup, hvalues⟩ := Document.distinctKeys_object.mp hkeys
  obtain ⟨written, hdocument, hdistinct, hentries⟩ := grammar.toDocument_entries
  rw [hdocument, Document.distinctKeys_object]
  refine ⟨hdistinct, ?_⟩
  rintro ⟨key, value⟩ hentry
  cases (hentries key value).mp hentry with
  | text | scopeName => rfl
  | fileTypes =>
    rw [Document.distinctKeys_array, List.forall_mem_map]
    exact fun _ _ => rfl
  | repository =>
    rw [Grammar.repositoryDocument, Document.distinctKeys_object, List.map_map, List.forall_mem_map]
    refine ⟨?_, fun entry hentry => (hfields.rules entry hentry).2⟩
    show (grammar.repository.map (·.1)).Nodup
    rw [hfields.names, repositoryEntries]
    split
    · next named hfound =>
      have hnamed := hvalues _ ((lookup_eq_some_iff_mem hnodup).mp hfound)
      exact (Document.distinctKeys_object.mp hnamed).1
    · exact List.nodup_nil
  | patterns => exact hfields.keys

end GrammarFieldsOf

end Grammar

end Schema

/-- **The grammar that is read from an accepted document is accepted again**, and is written with each
key once. -/
theorem Grammar.violations_toDocument {document : Document} {budget : Nat}
    (hkeys : document.distinctKeys = true) (h : Schema.violations document budget = []) :
    ∃ grammar, ofDocument document = .ok grammar ∧
      Schema.violations grammar.toDocument budget = [] ∧ grammar.toDocument.distinctKeys = true := by
  cases document with
  | object entries =>
    have hclean := Schema.violations_object_eq_nil.mp h
    have hnodup := (Document.distinctKeys_object.mp hkeys).1
    obtain ⟨grammar, hfields⟩ := Schema.exists_grammarFieldsOf hkeys hclean
    exact ⟨grammar, hfields.read hnodup hclean, hfields.accepted_again hclean,
      hfields.distinct hkeys⟩
  | _ => cases h

namespace Repository

/-- The text that an accepted grammar is written as is read and accepted, and gives the grammar again. -/
theorem validated_of_text {grammar : Grammar} {budget : Nat} {pretty : Bool}
    (hkeys : grammar.toDocument.distinctKeys = true)
    (h : Schema.violations grammar.toDocument budget = [])
    (hnesting : grammar.toDocument.nesting ≤ 127) :
    (GrammarFormat.json.read ((if pretty then grammar.toIndentedJson else grammar.toJson) ++ "\n") >>=
      fun document => Grammar.validated document budget) = .ok grammar := by
  have hlevels : Json.textLevels.Takes grammar.toDocument := ⟨by rintro _ ⟨⟩; omega, hkeys⟩
  have hblanks : Json.skipBlanks "\n".toList = [] := rfl
  obtain ⟨hprint, hindented⟩ := Json.read_print grammar.toDocument_numberless hlevels hblanks
  have hread : Json.read ((if pretty then grammar.toIndentedJson else grammar.toJson) ++ "\n") =
      .ok grammar.toDocument := by
    cases pretty
    · exact hprint
    · exact hindented
  have hvalidated : Grammar.validated grammar.toDocument budget = .ok grammar := by
    rw [Grammar.validated_of_nil h, Grammar.ofDocument_toDocument hkeys]
    rfl
  have hdocument (text : String) (hread : Json.read text = .ok grammar.toDocument) :
      GrammarFormat.json.read text = .ok grammar.toDocument := by
    rw [GrammarFormat.read, hread]
    rfl
  rw [hdocument _ hread]
  dsimp only [bind, Except.bind]
  exact hvalidated

/-- A grammar that was loaded from a file was read from an accepted document. -/
theorem exists_document_of_chosenGrammar {files : FileTree} {path : String} {settings : Settings}
    {grammar : Grammar} (h : CommandLine.chosenGrammar files (some path) settings = .ok grammar) :
    ∃ document, document.distinctKeys = true ∧
      Schema.violations document settings.scanner.backtrackLimit = [] ∧
      Grammar.ofDocument document = .ok grammar := by
  rw [CommandLine.chosenGrammar] at h
  cases hload : Grammar.load files path settings.scanner.backtrackLimit with
  | error fault =>
    rw [hload] at h
    cases h
  | ok loaded =>
    rw [hload] at h
    cases h
    obtain ⟨text, _, hload⟩ := bind_eq_ok hload
    obtain ⟨document, hread, hvalidated⟩ := bind_eq_ok hload
    have hkeys := GrammarFormat.distinctKeys_of_read hread
    refine ⟨document, hkeys, ?_⟩
    rcases validated_reports hkeys settings.scanner.backtrackLimit with ⟨hnil, _⟩ | ⟨_, herror⟩
    · refine ⟨hnil, ?_⟩
      rw [Grammar.validated_of_nil hnil] at hvalidated
      cases hdocument : Grammar.ofDocument document with
      | error fault =>
        rw [hdocument] at hvalidated
        cases hvalidated
      | ok read =>
        rw [hdocument] at hvalidated
        cases hvalidated
        rfl
    · rw [herror] at hvalidated
      cases hvalidated

/-- Compiling the grammar of an accepted document again gives what the document compiles to. -/
theorem ofGrammar_of_violations {document : Document} {budget : Nat}
    (hkeys : document.distinctKeys = true) (h : Schema.violations document budget = []) :
    ∃ grammar repository, Grammar.ofDocument document = .ok grammar ∧
      Schema.violations grammar.toDocument budget = [] ∧ grammar.toDocument.distinctKeys = true ∧
      ofDocument document budget = .ok repository ∧ ofGrammar grammar budget = .ok repository := by
  obtain ⟨grammar, hread, haccepted, hdistinct⟩ := Grammar.violations_toDocument hkeys h
  obtain ⟨repository, hcompile⟩ := compile_of_grammar_violations haccepted
  refine ⟨grammar, repository, hread, haccepted, hdistinct, ofDocument_of_compile h hread hcompile, ?_⟩
  rw [ofGrammar, haccepted, hcompile]
  rfl

/-- **The two ways to compile agree.** A grammar that was read from an accepted document is accepted
again as it is written, and compiles to the repository that the document compiles to. So no command that
has loaded a grammar from a file refuses it afterwards, and what it writes is read as the same grammar,
unless it is nested more deeply than texts may be. -/
theorem recompiled :
    (∀ (document : Document) (budget : Nat), document.distinctKeys = true →
      Schema.violations document budget = [] → ∃ grammar repository,
        Grammar.ofDocument document = .ok grammar ∧
        Schema.violations grammar.toDocument budget = [] ∧
        Grammar.validated grammar.toDocument budget = .ok grammar ∧
        ofDocument document budget = .ok repository ∧
        ofGrammar grammar budget = .ok repository) ∧
    ∀ (files : FileTree) (path : String) (settings : Settings) (grammar : Grammar),
      CommandLine.chosenGrammar files (some path) settings = .ok grammar →
        (∃ repository, CommandLine.chosenRepository files (some path) settings = .ok repository) ∧
        ∀ pretty, ∃ text, CommandLine.grammarText files (some path) pretty settings = .ok text ∧
          (grammar.toDocument.nesting ≤ 127 →
            (GrammarFormat.json.read text >>= fun document =>
              Grammar.validated document settings.scanner.backtrackLimit) = .ok grammar) := by
  constructor
  · intro document budget hkeys h
    obtain ⟨grammar, repository, hread, haccepted, hdistinct, hdocument, hgrammar⟩ :=
      ofGrammar_of_violations hkeys h
    refine ⟨grammar, repository, hread, haccepted, ?_, hdocument, hgrammar⟩
    rw [Grammar.validated_of_nil haccepted, Grammar.ofDocument_toDocument hdistinct]
    rfl
  · intro files path settings grammar hchosen
    obtain ⟨document, hkeys, h, hread⟩ := exists_document_of_chosenGrammar hchosen
    obtain ⟨found, repository, hfound, haccepted, hdistinct, _, hgrammar⟩ :=
      ofGrammar_of_violations hkeys h
    obtain rfl : grammar = found := Except.ok.inj (hread.symm.trans hfound)
    -- each command compiles the loaded grammar once more
    constructor
    · refine ⟨repository, ?_⟩
      rw [CommandLine.chosenRepository, hchosen]
      dsimp only [bind, Except.bind]
      rw [hgrammar]
      rfl
    · intro pretty
      refine ⟨(if pretty then grammar.toIndentedJson else grammar.toJson) ++ "\n", ?_,
        validated_of_text hdistinct haccepted⟩
      rw [CommandLine.grammarText, hchosen]
      dsimp only [bind, Except.bind]
      rw [hgrammar]
      rfl

/-- A region written in an unusual order, with an empty map, an empty list and a flag that is not set. A
rule without anything to match but a list stands beside it. -/
def sparseDocument : Document :=
  .object [
    ("scopeName", .string "source.t"),
    ("patterns", .array [.object [("patterns", .array [.object [("match", .string "a")]])],
      .object [("end", .string "\\1"), ("begin", .string "(b)"), ("captures", .object []),
        ("patterns", .array []), ("applyEndPatternLast", .bool false)]])]

/-- A file with the text of this document. -/
def sparseFiles : FileTree :=
  .directory [("t.json", .file (.text (Json.print sparseDocument)))]

theorem sparseFiles_loads :
    (match CommandLine.chosenGrammar sparseFiles (some "t.json") {} with
      | .ok grammar => decide (grammar.toDocument.nesting ≤ 127)
      | .error _ => false) = true := by
  decide +kernel

/-- The document as it is, and the file with its text. -/
theorem recompiled_sparse :
    (∃ grammar repository,
      sparseDocument.distinctKeys = true ∧ Schema.violations sparseDocument 1000 = [] ∧
        Grammar.ofDocument sparseDocument = .ok grammar ∧
        Schema.violations grammar.toDocument 1000 = [] ∧
        Grammar.validated grammar.toDocument 1000 = .ok grammar ∧
        ofDocument sparseDocument 1000 = .ok repository ∧
        ofGrammar grammar 1000 = .ok repository) ∧
    ∃ grammar, CommandLine.chosenGrammar sparseFiles (some "t.json") {} = .ok grammar ∧
      (∃ repository, CommandLine.chosenRepository sparseFiles (some "t.json") {} = .ok repository) ∧
      ∀ pretty, ∃ text, CommandLine.grammarText sparseFiles (some "t.json") pretty {} = .ok text ∧
        (GrammarFormat.json.read text >>= fun document =>
          Grammar.validated document ({} : Settings).scanner.backtrackLimit) = .ok grammar := by
  have hkeys : sparseDocument.distinctKeys = true := by decide +kernel
  have haccepted : Schema.violations sparseDocument 1000 = [] := by decide +kernel
  obtain ⟨hdocuments, hfiles⟩ := recompiled
  constructor
  · obtain ⟨grammar, repository, hagain⟩ := hdocuments sparseDocument 1000 hkeys haccepted
    exact ⟨grammar, repository, hkeys, haccepted, hagain⟩
  · have hloads := sparseFiles_loads
    split at hloads
    · next grammar hchosen =>
      obtain ⟨hrepository, htexts⟩ := hfiles sparseFiles "t.json" {} grammar hchosen
      refine ⟨grammar, hchosen, hrepository, fun pretty => ?_⟩
      obtain ⟨text, htext, hagain⟩ := htexts pretty
      exact ⟨text, htext, hagain (of_decide_eq_true hloads)⟩
    · cases hloads

end Repository

end ScopeScanner
