import ScopeScanner.Proofs.Grammar.Recompiling

/-!
# Documents with their rules in another order

The checks look up references among the names of the repository, and nothing else about a document
depends on the order of these. If the entries of the repository of an accepted document are put in
another order, the document is accepted all the same, and read as the grammar with its rules in that
order (**`Grammar.ofDocument_reordered`**).
-/

namespace ScopeScanner

open Json (Tree treesOfDocuments treesOfEntries)

namespace Schema

/-! ## Checks in two contexts -/

/-- Two contexts in which the same rules are known and patterns are compiled alike. -/
structure Context.Alike (context context' : Context) : Prop where
  rules : ∀ name, name ∈ context.rules ↔ name ∈ context'.rules
  budget : context.budget = context'.budget

section Alike

variable {context context' : Context}

theorem checkRegex_congr (h : context.Alike context') : checkRegex context = checkRegex context' := by
  funext path source
  unfold checkRegex
  rw [h.budget]

theorem checkClosing_congr (h : context.Alike context') :
    checkClosing context = checkClosing context' := by
  funext path source
  unfold checkClosing
  rw [checkRegex_congr h]

theorem checkReference_congr (h : context.Alike context') :
    checkReference context = checkReference context' := by
  have hknown (name : String) : context.rules.contains name = context'.rules.contains name := by
    rw [Bool.eq_iff_iff, List.contains_iff_mem, List.contains_iff_mem]
    exact h.rules name
  funext path reference
  unfold checkReference
  simp only [hknown]

theorem checkRuleKeys_congr (h : context.Alike context') :
    checkRuleKeys context = checkRuleKeys context' := by
  funext path entries
  unfold checkRuleKeys
  rw [checkRegex_congr h, checkClosing_congr h, checkReference_congr h]

mutual

theorem checkRule_congr (h : context.Alike context') : ∀ (document : Document) (path : String),
    checkRule context path document = checkRule context' path document
  | .object entries, path => by
    rw [checkRule, checkRule, checkRuleKeys_congr h, checkBelow_congr h entries path]
  | .null, _ | .bool _, _ | .number _, _ | .string _, _ | .array _, _ => rfl

theorem checkBelow_congr (h : context.Alike context') :
    ∀ (entries : List (String × Document)) (path : String),
      checkBelow context path entries = checkBelow context' path entries
  | [], _ => rfl
  | (key, value) :: rest, path => by
    have hbelow : belowField context path key value = belowField context' path key value := by
      unfold belowField
      cases value with
      | object entries =>
        dsimp only
        rw [checkCaptures_congr h entries]
      | array items =>
        dsimp only
        rw [checkRules_congr h items]
      | _ => rfl
    rw [checkBelow_cons, checkBelow_cons, hbelow, checkBelow_congr h rest path]

theorem checkRules_congr (h : context.Alike context') :
    ∀ (items : List Document) (path : String) (index : Nat),
      checkRules context path index items = checkRules context' path index items
  | [], _, _ => rfl
  | item :: rest, path, index => by
    rw [checkRules, checkRules, checkRule_congr h item, checkRules_congr h rest]

theorem checkCaptures_congr (h : context.Alike context') :
    ∀ (entries : List (String × Document)) (path : String),
      checkCaptures context path entries = checkCaptures context' path entries
  | [], _ => rfl
  | (key, value) :: rest, path => by
    have hcapture (path : String) : checkCapture context path value = checkCapture context' path value := by
      cases value with
      | object entries => rw [checkCapture, checkCapture, checkCaptureRules_congr h entries]
      | _ => rfl
    rw [checkCaptures_cons, checkCaptures_cons, hcapture, checkCaptures_congr h rest]

theorem checkCaptureRules_congr (h : context.Alike context') :
    ∀ (entries : List (String × Document)) (path : String),
      checkCaptureRules context path entries = checkCaptureRules context' path entries
  | [], _ => rfl
  | (key, value) :: rest, path => by
    have hbelow : belowCaptureField context path key value =
        belowCaptureField context' path key value := by
      unfold belowCaptureField
      cases value with
      | array items =>
        dsimp only
        rw [checkRules_congr h items]
      | _ => rfl
    have hrest := checkCaptureRules_congr h rest path
    rw [checkCaptureRules_eq_map, checkCaptureRules_eq_map] at hrest ⊢
    rw [List.map_cons, List.map_cons, hbelow, hrest]

end

end Alike

/-! ## Documents in another order -/

/-- The second document is the first one with the entries of its repository in another order. -/
inductive Reordered : Document → Document → Prop where
  | repository (before after : List (String × Document)) {rules rules' : List (String × Document)}
      (hperm : rules.Perm rules') :
      Reordered (.object (before ++ ("repository", .object rules) :: after))
        (.object (before ++ ("repository", .object rules') :: after))

/-- The entries of two grammar documents that agree but for the order of their repositories. -/
structure ReorderedEntries (rules rules' entries entries' : List (String × Document)) : Prop where
  keys : entries'.map (·.1) = entries.map (·.1)
  values : ∀ entry ∈ entries', entry ∈ entries ∨ entry.2 = .object rules'
  others : ∀ key, key ≠ "repository" → entries'.lookup key = entries.lookup key
  repository : entries.lookup "repository" = some (.object rules)
  repository' : entries'.lookup "repository" = some (.object rules')
  perm : rules.Perm rules'

section Entries

variable {before after rules rules' entries entries' : List (String × Document)} {budget : Nat}

theorem reorderedEntries (hperm : rules.Perm rules')
    (hkeys : ((before ++ ("repository", Document.object rules) :: after).map (·.1)).Nodup) :
    ReorderedEntries rules rules' (before ++ ("repository", .object rules) :: after)
      (before ++ ("repository", .object rules') :: after) where
  keys := by simp
  values := by
    intro entry hentry
    rcases List.mem_append.mp hentry with hbefore | hentry
    · exact Or.inl (List.mem_append_left _ hbefore)
    rcases List.mem_cons.mp hentry with rfl | hafter
    · exact Or.inr rfl
    · exact Or.inl (List.mem_append_right _ (List.mem_cons_of_mem _ hafter))
  others := by
    intro key hkey
    have hskipped (value : Document) :
        (("repository", value) :: after).lookup key = after.lookup key := by
      rw [List.lookup_cons, beq_false_of_ne hkey]
    rw [List.lookup_append, List.lookup_append, hskipped, hskipped]
  repository := lookup_of_mem hkeys (by simp)
  repository' := lookup_of_mem (by simpa using hkeys) (by simp)
  perm := hperm

namespace ReorderedEntries

theorem distinctKeys (h : ReorderedEntries rules rules' entries entries')
    (hkeys : (Document.object entries).distinctKeys = true) :
    (Document.object entries').distinctKeys = true := by
  obtain ⟨hnodup, hvalues⟩ := Document.distinctKeys_object.mp hkeys
  have hrepository : (Document.object rules).distinctKeys = true :=
    hvalues _ ((lookup_eq_some_iff_mem hnodup).mp h.repository)
  obtain ⟨hnames, hrules⟩ := Document.distinctKeys_object.mp hrepository
  have hrepository' : (Document.object rules').distinctKeys = true := by
    rw [Document.distinctKeys_object]
    refine ⟨(h.perm.map (·.1)).nodup_iff.mp hnames, ?_⟩
    intro entry hentry
    exact hrules entry (h.perm.mem_iff.mpr hentry)
  rw [Document.distinctKeys_object, h.keys]
  refine ⟨hnodup, ?_⟩
  intro entry hentry
  rcases h.values entry hentry with hsame | hrules'
  · exact hvalues entry hsame
  · rw [hrules']
    exact hrepository'

theorem alike (h : ReorderedEntries rules rules' entries entries') :
    (contextOf entries budget).Alike (contextOf entries' budget) where
  rules := by
    intro name
    unfold contextOf repositoryEntries
    rw [h.repository, h.repository']
    exact (h.perm.map (·.1)).mem_iff
  budget := rfl

/-- A document is accepted whatever the order of its repository. -/
theorem clean (h : ReorderedEntries rules rules' entries entries')
    (hclean : CleanGrammar (contextOf entries budget) entries) :
    CleanGrammar (contextOf entries' budget) entries' := by
  have halike : (contextOf entries budget).Alike (contextOf entries' budget) := h.alike
  have hothers := h.others
  refine ⟨?_, ?_, ?_, ?_, ?_, ?_, ?_, ?_⟩
  · intro entry hentry
    have hkey : entry.1 ∈ entries.map (·.1) := h.keys ▸ List.mem_map_of_mem hentry
    obtain ⟨same, hsame, heq⟩ := List.mem_map.mp hkey
    exact heq ▸ hclean.known same hsame
  · rw [hothers "scopeName" (by decide)]
    exact hclean.scopeName
  · intro key hkey
    have hne : key ≠ "repository" := by
      rintro rfl
      exact absurd hkey (by decide)
    rw [hothers key hne]
    exact hclean.texts key hkey
  · rw [hothers "firstLineMatch" (by decide), ← checkRegex_congr halike]
    exact hclean.firstLine
  · rw [hothers "fileTypes" (by decide)]
    exact hclean.fileTypes
  · obtain ⟨items, hfound, hitems⟩ := hclean.patterns
    refine ⟨items, by rw [hothers "patterns" (by decide), hfound], ?_⟩
    rw [← checkRules_congr halike]
    exact hitems
  · intro value hvalue
    rw [h.repository'] at hvalue
    exact ⟨rules', (Option.some.inj hvalue).symm⟩
  · have hrules := hclean.rules
    unfold repositoryEntries at hrules ⊢
    rw [h.repository] at hrules
    rw [h.repository']
    apply List.flatMap_eq_nil_iff.mpr
    intro entry hentry
    rw [← checkRule_congr halike]
    exact List.flatMap_eq_nil_iff.mp hrules entry (h.perm.mem_iff.mpr hentry)

end ReorderedEntries

end Entries

/-! ## Reading -/

/-- What a document is read as, if it is read as a rule. -/
def ruleOf (levels : Json.Levels) (document : Document) : RuleSpec :=
  (readRule levels (.ofDocument document)).toOption.getD default

/-- The rules of a repository are read one by one and keep their order. -/
theorem repository_read_each {levels : Json.Levels} {entries : List (String × Document)}
    (hkeys : (entries.map (·.1)).Nodup) {rules : List (String × RuleSpec)}
    (hread : readRepositoryIn levels (treesOfEntries entries) [] = .ok rules) :
    rules = entries.map fun entry => (entry.1, ruleOf levels entry.2) := by
  suffices hdone : ∀ done : List (String × RuleSpec), (∀ entry ∈ entries, entry.1 ∉ done.map (·.1)) →
      readRepositoryIn levels (treesOfEntries entries) done = .ok rules →
        rules = done ++ entries.map fun entry => (entry.1, ruleOf levels entry.2) from
    hdone [] (by simp) hread
  clear hread
  induction entries with
  | nil =>
    intro done _ hread
    have hdone : done = rules := Except.ok.inj hread
    rw [hdone]
    exact (List.append_nil rules).symm
  | cons entry rest ih =>
    intro done hnew hread
    obtain ⟨key, value⟩ := entry
    rw [List.map_cons, List.nodup_cons] at hkeys
    rw [treesOfEntries, readRepositoryIn] at hread
    obtain ⟨rule, hrule, hread⟩ := bind_eq_ok hread
    have hvalue : ruleOf levels value = rule := by
      rw [ruleOf, hrule]
      rfl
    have hrest := ih hkeys.2 (insertEntry done key rule) (insertEntry_new rule hkeys.1 hnew) hread
    rw [hrest, insertEntry_of_not_mem _ (hnew _ List.mem_cons_self), List.map_cons, hvalue,
      List.append_assoc]
    rfl

theorem repository_read_perm {levels : Json.Levels} {entries entries' : List (String × Document)}
    (hkeys : (entries.map (·.1)).Nodup) (hperm : entries.Perm entries')
    {rules rules' : List (String × RuleSpec)}
    (hread : readRepositoryIn levels (treesOfEntries entries) [] = .ok rules)
    (hread' : readRepositoryIn levels (treesOfEntries entries') [] = .ok rules') :
    rules.Perm rules' := by
  rw [repository_read_each hkeys hread,
    repository_read_each ((hperm.map (·.1)).nodup_iff.mp hkeys) hread']
  exact hperm.map _

section Grammar

variable {rules rules' entries entries' : List (String × Document)} {context context' : Context}
  {grammar grammar' : Grammar}

/-- What is read of two documents that differ in the order of their repositories differs in the order
of the rules. -/
theorem GrammarFieldsOf.reordered (h : ReorderedEntries rules rules' entries entries')
    (hclean : CleanGrammar context entries) (hfields : GrammarFieldsOf context entries grammar)
    (hfields' : GrammarFieldsOf context' entries' grammar') :
    grammar' = { grammar with repository := grammar'.repository } := by
  have htexts : ∀ key ∈ grammarTextKeys, grammar'.textOf key = grammar.textOf key := by
    intro key hkey
    have hne : key ≠ "repository" := by
      rintro rfl
      exact absurd hkey (by decide)
    rw [hfields.texts key hkey, hfields'.texts key hkey, h.others key hne]
  have hscope : grammar'.scopeName = grammar.scopeName := by
    have hfound := hfields'.scopeName
    rw [h.others "scopeName" (by decide), hfields.scopeName] at hfound
    exact (Document.string.inj (Option.some.inj hfound)).symm
  have htypes : grammar'.fileTypes = grammar.fileTypes := by
    have hsame := h.others "fileTypes" (by decide)
    cases hfound : entries.lookup "fileTypes" with
    | none => rw [hfields.noTypes hfound, hfields'.noTypes (hsame.trans hfound)]
    | some value =>
      have htexts := (hfields.fileTypes value hfound).symm.trans
        (hfields'.fileTypes value (hsame.trans hfound))
      have hstrings : ∀ text text', Document.string text = .string text' → text = text' :=
        fun _ _ => Document.string.inj
      exact ((List.map_inj_right hstrings).mp (Document.array.inj htexts)).symm
  have hpatterns : grammar'.patterns = grammar.patterns := by
    obtain ⟨items, hfound, _⟩ := hclean.patterns
    have hfound' := hfound
    rw [← h.others "patterns" (by decide)] at hfound'
    obtain ⟨_, ⟨⟩, hread⟩ := hfields.patterns _ hfound
    obtain ⟨_, ⟨⟩, hread'⟩ := hfields'.patterns _ hfound'
    rw [hread] at hread'
    exact (Except.ok.inj hread').symm
  obtain ⟨_, _, _, _, _, _, _, _, _, _⟩ := grammar
  obtain ⟨_, _, _, _, _, _, _, _, _, _⟩ := grammar'
  simp only [grammarTextKeys, List.forall_mem_cons, List.not_mem_nil, false_imp_iff, implies_true,
    and_true] at htexts
  obtain ⟨hline, hstart, hstop, hkey, huuid, hname⟩ := htexts
  rw [Grammar.mk.injEq]
  exact ⟨htypes, hline, hstart, hstop, hkey, rfl, huuid, hpatterns, hname, hscope⟩

end Grammar

end Schema

/-- **An accepted document may have the rules of its repository in any order**: it is accepted, and read
as the same grammar with its rules in that order. -/
theorem Grammar.ofDocument_reordered {document document' : Document} {budget : Nat}
    (hkeys : document.distinctKeys = true) (haccepted : Schema.violations document budget = [])
    (hreordered : Schema.Reordered document document') : ∃ grammar rules,
      ofDocument document = .ok grammar ∧ Schema.violations document' budget = [] ∧
      ofDocument document' = .ok { grammar with repository := rules } ∧
      (grammar.repository.map (·.1)).Nodup ∧ grammar.repository.Perm rules := by
  obtain ⟨before, after, hperm⟩ := hreordered
  have hnodup := (Document.distinctKeys_object.mp hkeys).1
  have hentries := Schema.reorderedEntries hperm hnodup
  have hclean := Schema.violations_object_eq_nil.mp haccepted
  have hclean' := hentries.clean hclean
  have hkeys' := hentries.distinctKeys hkeys
  have hnodup' := (Document.distinctKeys_object.mp hkeys').1
  obtain ⟨grammar, hfields⟩ := Schema.exists_grammarFieldsOf hkeys hclean
  obtain ⟨grammar', hfields'⟩ := Schema.exists_grammarFieldsOf hkeys' hclean'
  obtain ⟨_, ⟨⟩, hrules⟩ := hfields.repository _ hentries.repository
  obtain ⟨_, ⟨⟩, hrules'⟩ := hfields'.repository _ hentries.repository'
  have hrepository := (Document.distinctKeys_object.mp hkeys).2 _
    ((lookup_eq_some_iff_mem hnodup).mp hentries.repository)
  have hnamed := (Document.distinctKeys_object.mp hrepository).1
  have hnames : (grammar.repository.map (·.1)).Nodup := by
    rw [hfields.names, Schema.repositoryEntries, hentries.repository]
    exact hnamed
  refine ⟨grammar, grammar'.repository, hfields.read hnodup hclean,
    Schema.violations_object_eq_nil.mpr hclean', ?_, hnames,
    Schema.repository_read_perm hnamed hperm hrules hrules'⟩
  rw [← hfields.reordered hentries hclean hfields']
  exact hfields'.read hnodup' hclean'

end ScopeScanner
