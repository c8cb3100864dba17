import ScopeScanner.Proofs.Grammar.Recompiling
import ScopeScanner.Proofs.Repository.Reordering
import ScopeScanner.Proofs.Scanner.Displacement

/-!
# The scopes of the grammar

The bottom of every stack stands for the grammar, and its scopes are the words of the scope name. All
that a scan covers it covers with scopes that begin with those of the bottom (`scanLine_grows`), and
neither a scan of a line nor the step to the next line changes the bottom. So the scopes of the grammar
come first in every token, also in scans that go on from the stack of an earlier one.

* **`ScanProgress.Rooted.scanNextLine`**: one more line keeps the bottom and adds tokens whose scopes
  begin with those of the bottom.
* **`Repository.rooted`**: this holds for the scans of every accepted grammar, and as the checks refuse a
  blank scope name, no token is without scopes.
-/

namespace ScopeScanner

/-! ## Words -/

namespace Text

theorem wordsFrom_eq_nil_iff {part chars : List Char} :
    wordsFrom part chars = [] ↔ part = [] ∧ chars.all Unicode.isBlank = true := by
  induction chars generalizing part with
  | nil => simp [wordsFrom]
  | cons c rest ih =>
    rw [wordsFrom]
    by_cases hblank : Unicode.isBlank c = true
    · cases part with
      | nil => simp [hblank, ih]
      | cons d part => simp [hblank]
    · simp [hblank, ih]

/-- A text has no words exactly if it is blank. -/
theorem words_eq_nil_iff {text : String} : words text = [] ↔ isBlank text = true := by
  rw [words, wordsFrom_eq_nil_iff, isBlank]
  simp

end Text

/-- The checks accept no blank scope name. -/
theorem Schema.isBlank_of_checkScopeName {name : String}
    (h : checkScopeName (some (.string name)) = []) : Text.isBlank name = false := by
  rw [checkScopeName, problemIf] at h
  split at h
  · cases h
  · next hblank => exact Bool.eq_false_iff.mpr hblank

/-! ## Scopes of tokens -/

/-- All tokens of a sink have scopes with a certain property. -/
def Sink.ScopesIn (Good : List String → Prop) (sink : Sink) : Prop :=
  ∀ token ∈ sink.tokens.toList, Good token.scopes

namespace Sink.ScopesIn

variable {Good : List String → Prop} {sink : Sink}

theorem add (h : sink.ScopesIn Good) {token : Token} (htoken : Good token.scopes) :
    (sink.add token).ScopesIn Good := by
  refine forall_mem_add h htoken ?_
  -- a token that grows keeps its scopes
  exact fun last hlast _ => hlast

theorem produce (h : sink.ScopesIn Good) (stop : Nat) {scopes : List String} (hscopes : Good scopes) :
    (sink.produce stop scopes).ScopesIn Good := by
  unfold Sink.produce
  split
  · exact h
  · dsimp only
    split
    · exact h
    · have hmoved : Sink.ScopesIn Good { sink with position := stop } := h
      exact hmoved.add hscopes

end Sink.ScopesIn

theorem Emission.Grows.scopesIn {Cover : Nat → List String → Prop} {Remark : Diagnostic → Prop}
    {emission emission' : Emission} {Good : List String → Prop}
    (h : Grows Cover Remark emission emission') (hsink : emission.sink.ScopesIn Good)
    (hcover : ∀ stop scopes, Cover stop scopes → Good scopes) : emission'.sink.ScopesIn Good := by
  induction h with
  | refl => exact hsink
  | produce stop scopes _ hin ih => exact ih.produce stop (hcover stop scopes hin)
  | remark _ _ _ ih => exact ih
  | learn _ _ ih => exact ih

/-! ## Scans -/

/-- A scan between two lines that stands on a certain bottom and has given out no tokens but those
whose scopes begin with the scopes of the bottom. -/
structure ScanProgress.Rooted (bottom : Frame) (progress : ScanProgress) : Prop where
  bottom_eq : progress.stack.bottom = bottom
  tokens : progress.emission.sink.ScopesIn (bottom.nameScopes <+: ·)

namespace Repository

variable (repository : Repository)

/-- **One more line leaves a scan rooted.** No anchor is kept in the bottom, so that there is none to be
forgotten at the end of a line. -/
theorem scanNextLine_rooted (stallLimit : Nat) {bottom : Frame} (hanchor : bottom.parentAnchor = none)
    {progress : ScanProgress} (h : progress.Rooted bottom) (chars : List Char) :
    (repository.scanNextLine stallLimit progress chars).Rooted bottom := by
  have hcleared : progress.stack.clearAnchors.bottom = bottom := by
    show { progress.stack.bottom with parentAnchor := none } = bottom
    rw [h.bottom_eq, ← hanchor]
  obtain ⟨hbottom, _, hgrows⟩ := repository.scanNextLine_grows stallLimit progress chars
  rw [hcleared] at hgrows
  exact ⟨hbottom.trans hcleared, hgrows.scopesIn h.tokens fun _ _ hcover => hcover.2⟩

/-- Line after line a scan stays rooted. -/
theorem foldl_rooted (stallLimit : Nat) {bottom : Frame} (hanchor : bottom.parentAnchor = none)
    (lines : List (List Char)) {progress : ScanProgress} (h : progress.Rooted bottom) :
    (lines.foldl (repository.scanNextLine stallLimit) progress).Rooted bottom := by
  induction lines generalizing progress with
  | nil => exact h
  | cons chars rest ih => exact ih (repository.scanNextLine_rooted stallLimit hanchor h chars)

/-- What a scan may start with: nothing, or the stack that ends a scan which started so. Settings and
sessions may change from one scan to the next. -/
inductive Continues : Option ScopeStack → Prop where
  | fresh : Continues none
  | resume {state : Option ScopeStack} (h : Continues state) (settings : ScannerSettings)
      (session : Session) (text : String) :
      Continues (some (repository.scan settings session text state).1.endState)

/-- A scan that starts with a fresh bottom ends with it, and its tokens have the scopes of the bottom. -/
theorem scan_rooted (settings : ScannerSettings) (session : Session) (text : String)
    {state : Option ScopeStack}
    (hstate : (state.getD (.fresh repository)).bottom = (ScopeStack.fresh repository).bottom) :
    let output := (repository.scan settings session text state).1
    output.endState.bottom = (ScopeStack.fresh repository).bottom ∧
      ∀ token ∈ output.tokens,
        (ScopeStack.fresh repository).bottom.nameScopes <+: token.scopes := by
  have hbegin : ScanProgress.Rooted (ScopeStack.fresh repository).bottom
      (.begin settings session (state.getD (.fresh repository))) := by
    refine ⟨hstate, ?_⟩
    intro token hmem
    simp [ScanProgress.begin] at hmem
  have hfinish := repository.foldl_rooted settings.stallLimit rfl (Text.lines text.toList) hbegin
  exact ⟨hfinish.bottom_eq, hfinish.tokens⟩

/-- However often scans are resumed, they start with the fresh bottom. -/
theorem Continues.bottom_eq {repository : Repository} {state : Option ScopeStack}
    (h : repository.Continues state) :
    (state.getD (.fresh repository)).bottom = (ScopeStack.fresh repository).bottom := by
  induction h with
  | fresh => rfl
  | resume _ settings session text ih => exact (repository.scan_rooted settings session text ih).1

/-- All scans and resumed scans keep the fresh bottom, and the scopes of all their tokens begin with the
given ones. There is at least one of these. -/
structure RootedIn (scopes : List String) : Prop where
  ne_nil : scopes ≠ []
  bottom : ∀ state, repository.Continues state → ∀ settings session text,
    (repository.scan settings session text state).1.endState.bottom =
      (ScopeStack.fresh repository).bottom
  tokens : ∀ state, repository.Continues state → ∀ settings session text,
    ∀ token ∈ (repository.scan settings session text state).1.tokens,
      scopes <+: token.scopes ∧ token.scopes ≠ []

/-- The scopes of the bottom are the words of the scope name. -/
theorem fresh_nameScopes {grammar : Grammar} {budget : Nat} {repository : Repository}
    (h : compile grammar budget = .ok repository) :
    (ScopeStack.fresh repository).bottom.nameScopes = Text.words grammar.scopeName := by
  obtain ⟨names, rules, patterns, next, firstLine, _, _, _, rfl⟩ := compile_eq_ok.mp h
  simp [ScopeStack.fresh, rule?, Compile.push, Compile.scopesOf]

theorem rootedIn_of_compile {grammar : Grammar} {budget : Nat} {repository : Repository}
    (h : compile grammar budget = .ok repository) (hscope : Text.isBlank grammar.scopeName = false) :
    repository.RootedIn (Text.words grammar.scopeName) := by
  have hwords : Text.words grammar.scopeName ≠ [] := by
    rw [ne_eq, Text.words_eq_nil_iff, hscope]
    simp
  refine ⟨hwords, ?_, ?_⟩
  · intro state hstate settings session text
    exact (repository.scan_rooted settings session text hstate.bottom_eq).1
  · intro state hstate settings session text token hmem
    have hscopes := (repository.scan_rooted settings session text hstate.bottom_eq).2 token hmem
    rw [fresh_nameScopes h] at hscopes
    exact ⟨hscopes, hscopes.ne_nil hwords⟩

/-- The repository of an accepted document is rooted in the words of its scope name. -/
theorem ofDocument_rootedIn {document : Document} {budget : Nat}
    (hkeys : document.distinctKeys = true) (h : Schema.violations document budget = []) :
    ∃ entries name repository,
      document = .object entries ∧ entries.lookup "scopeName" = some (.string name) ∧
      ofDocument document budget = .ok repository ∧ repository.RootedIn (Text.words name) := by
  cases document with
  | object entries =>
    have hclean := Schema.violations_object_eq_nil.mp h
    have hnodup := (Document.distinctKeys_object.mp hkeys).1
    obtain ⟨grammar, hfields⟩ := Schema.exists_grammarFieldsOf hkeys hclean
    have hread : Grammar.ofDocument (.object entries) = .ok grammar := hfields.read hnodup hclean
    obtain ⟨repository, hcompile⟩ := compile_of_grammar_violations (hfields.accepted_again hclean)
    have hscope := hclean.scopeName
    rw [hfields.scopeName] at hscope
    exact ⟨entries, grammar.scopeName, repository, rfl, hfields.scopeName,
      ofDocument_of_compile h hread hcompile,
      rootedIn_of_compile hcompile (Schema.isBlank_of_checkScopeName hscope)⟩
  | _ => cases h

/-- So is the repository of a grammar whose document is accepted. -/
theorem ofGrammar_rootedIn {grammar : Grammar} {budget : Nat}
    (h : Schema.violations grammar.toDocument budget = []) :
    ∃ repository, ofGrammar grammar budget = .ok repository ∧
      repository.RootedIn (Text.words grammar.scopeName) := by
  obtain ⟨entries, hdocument, hnodup, hwritten⟩ := grammar.toDocument_entries
  have hlookup : entries.lookup "scopeName" = some (.string grammar.scopeName) :=
    (lookup_eq_some_iff_mem hnodup).mpr ((hwritten _ _).mpr .scopeName)
  have hclean := h
  rw [hdocument, Schema.violations_object_eq_nil] at hclean
  have hscope := hclean.scopeName
  rw [hlookup] at hscope
  obtain ⟨repository, hcompile⟩ := compile_of_grammar_violations h
  refine ⟨repository, ?_,
    rootedIn_of_compile hcompile (Schema.isBlank_of_checkScopeName hscope)⟩
  rw [ofGrammar, h, hcompile]
  rfl

/-- **The scopes of the grammar come first everywhere.** An accepted grammar, be it a document or put
together by hand, compiles. In a scan from a fresh stack, and in every scan that goes on from the end of
such scans, the bottom stays what it was and each token has the words of the scope name in front. -/
theorem rooted (budget : Nat) :
    (∀ document : Document, document.distinctKeys = true →
      Schema.violations document budget = [] → ∃ entries name repository,
        document = .object entries ∧ entries.lookup "scopeName" = some (.string name) ∧
        ofDocument document budget = .ok repository ∧ repository.RootedIn (Text.words name)) ∧
    ∀ grammar : Grammar, Schema.violations grammar.toDocument budget = [] →
      ∃ repository, ofGrammar grammar budget = .ok repository ∧
        repository.RootedIn (Text.words grammar.scopeName) :=
  ⟨fun _ hkeys h => ofDocument_rootedIn hkeys h, fun _ h => ofGrammar_rootedIn h⟩

/-- A region of a grammar with two scopes. -/
def tagsGrammar : Grammar where
  scopeName := "text.t  meta"
  patterns := [{ opening := some "a", closing := some "b", name := some "tag" }]

/-- A region that one scan leaves open and the next one closes. -/
theorem tagsGrammar_tokens :
    (match ofGrammar tagsGrammar 1000 with
      | .ok repository =>
        let lines (text : String) (stack : ScopeStack) : ScanProgress :=
          (Text.lines text.toList).foldl (repository.scanNextLineWithin 32 8) (.begin {} {} stack)
        let first := lines "xa\n" (.fresh repository)
        decide ((lines "b" first.stack).tokens = [⟨0, 1, ["text.t", "meta", "tag"]⟩])
      | .error _ => false) = true := by
  decide +kernel

/-- The document of the grammar, and the grammar in a scan that is resumed once. -/
theorem rooted_tags :
    (tagsGrammar.toDocument.distinctKeys = true ∧
      Schema.violations tagsGrammar.toDocument 1000 = [] ∧ ∃ entries name repository,
        tagsGrammar.toDocument = .object entries ∧
          entries.lookup "scopeName" = some (.string name) ∧
          ofDocument tagsGrammar.toDocument 1000 = .ok repository ∧
          repository.RootedIn (Text.words name)) ∧
    ∃ repository, ofGrammar tagsGrammar 1000 = .ok repository ∧
      let first := (repository.scan {} {} "xa\n" none).1
      let second := (repository.scan {} {} "b" (some first.endState)).1
      second.tokens = [⟨0, 1, ["text.t", "meta", "tag"]⟩] ∧
        second.endState.bottom = (ScopeStack.fresh repository).bottom ∧
        ∀ token ∈ second.tokens, ["text.t", "meta"] <+: token.scopes ∧ token.scopes ≠ [] := by
  have hkeys : tagsGrammar.toDocument.distinctKeys = true := by decide +kernel
  have h : Schema.violations tagsGrammar.toDocument 1000 = [] := by decide +kernel
  have hwords : Text.words tagsGrammar.scopeName = ["text.t", "meta"] := by decide +kernel
  obtain ⟨hdocuments, hgrammars⟩ := rooted 1000
  refine ⟨⟨hkeys, h, hdocuments _ hkeys h⟩, ?_⟩
  obtain ⟨repository, hgrammar, hrooted⟩ := hgrammars tagsGrammar h
  have hrun := tagsGrammar_tokens
  rw [hgrammar] at hrun
  simp only [scanNextLineWithin_eq, decide_eq_true_eq] at hrun
  rw [hwords] at hrooted
  have hstate : repository.Continues (some (repository.scan {} {} "xa\n" none).1.endState) :=
    .resume .fresh {} {} "xa\n"
  exact ⟨repository, hgrammar, hrun, hrooted.bottom _ hstate {} {} "b",
    hrooted.tokens _ hstate {} {} "b"⟩

end Repository

end ScopeScanner
