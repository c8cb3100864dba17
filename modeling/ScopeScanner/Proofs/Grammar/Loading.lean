import ScopeScanner.Grammar.Source
import ScopeScanner.Proofs.Grammar.Reading

/-!
# Loading grammars

A document goes through the checks, the reader and the compiler, and a grammar that was put together
by hand through the checks and the compiler. Only the checks refuse anything: what they accept is read
and compiles, and what they refuse is reported as they found it (`Reports`).

* **`Repository.compile_of_violations`**: an accepted document is read as a grammar that compiles.
* **`Repository.compile_of_grammar_violations`**: so does a grammar whose document is accepted.
* **`Repository.loading_reports`**: every way to load a grammar succeeds or reports violations.

A document has to hold each key once, as all documents do that are read from a text
(`GrammarFormat.distinctKeys_of_read`).
-/

namespace ScopeScanner

open Schema

/-- An accepted text compiles. References are parsed as the caller expects of accepted ones. -/
theorem Schema.Accepted.compilable {context : Context} {Parsed : RuleRef → Prop}
    (hparsed : ∀ text, Accepted context .reference text → Parsed (Compile.parseReference text))
    (kind : TextKind) (text : String) (h : Accepted context kind text) :
    Compile.Compilable context.budget Parsed kind text := by
  cases kind with
  | reference => exact hparsed text h
  | regex => exact h
  | closing => exact h.closing_compiles

/-- A document that is read from a text holds each key once, whatever the format. -/
theorem GrammarFormat.distinctKeys_of_read {format : GrammarFormat} {text : String}
    {document : Document} (h : format.read text = .ok document) :
    document.distinctKeys = true := by
  cases format with
  | json =>
    cases hread : Json.read text with
    | error fault =>
      rw [read, hread] at h
      cases h
    | ok found =>
      rw [read, hread] at h
      cases h
      exact Json.distinctKeys_of_read hread
  | yaml =>
    cases hread : Yaml.read text with
    | none =>
      rw [read, hread] at h
      cases h
    | some found =>
      rw [read, hread] at h
      cases h
      exact Yaml.distinctKeys_of_read hread

/-- A result that is there if nothing was found to be wrong, and else reports what was found. -/
def Reports {α : Type} (found : List Violation) (result : Except GrammarError α) : Prop :=
  (found = [] ∧ ∃ value, result = .ok value) ∨ (found ≠ [] ∧ result = .error (.invalid found))

namespace Grammar

/-- A document that is not accepted is refused with its violations. -/
theorem validated_of_ne_nil {document : Document} {budget : Nat}
    (h : violations document budget ≠ []) :
    validated document budget = .error (.invalid (violations document budget)) := by
  rw [validated]
  split
  · next hnil => exact absurd hnil h
  · rfl

/-- An accepted document is passed on to the reader. -/
theorem validated_of_nil {document : Document} {budget : Nat}
    (h : violations document budget = []) :
    validated document budget = (ofDocument document).mapError .json := by
  rw [validated, h]

end Grammar

namespace Repository

/-- A grammar with accepted texts compiles. -/
theorem compile_of_accepted {grammar : Grammar} {budget : Nat}
    (h : grammar.All (Accepted (grammar.context budget))) :
    ∃ repository, compile grammar budget = .ok repository := by
  have hcompilable : grammar.All (Compile.Compilable budget fun _ => True) :=
    h.mono (Accepted.compilable fun _ _ => trivial)
  obtain ⟨repository, hcompile, _⟩ := compile_wellFormed hcompilable
  exact ⟨repository, hcompile⟩

/-- **An accepted document is read as a grammar that compiles.** -/
theorem compile_of_violations {document : Document} {budget : Nat}
    (hkeys : document.distinctKeys = true) (h : violations document budget = []) :
    ∃ grammar repository, Grammar.ofDocument document = .ok grammar ∧
      compile grammar budget = .ok repository := by
  obtain ⟨_, grammar, _, hread, _, hall⟩ := Grammar.ofDocument_of_violations hkeys h
  obtain ⟨repository, hcompile⟩ := compile_of_accepted hall
  exact ⟨grammar, repository, hread, hcompile⟩

/-- **A grammar compiles if the document that it is written as is accepted.** -/
theorem compile_of_grammar_violations {grammar : Grammar} {budget : Nat}
    (h : violations grammar.toDocument budget = []) :
    ∃ repository, compile grammar budget = .ok repository :=
  compile_of_accepted (Grammar.all_of_violations h)

/-- An accepted document is compiled by way of the grammar that it is read as. -/
theorem ofDocument_of_compile {document : Document} {grammar : Grammar} {budget : Nat}
    {repository : Repository} (h : violations document budget = [])
    (hread : Grammar.ofDocument document = .ok grammar)
    (hcompile : compile grammar budget = .ok repository) :
    ofDocument document budget = .ok repository := by
  rw [ofDocument, Grammar.validated_of_nil h, hread]
  show (compile grammar budget).mapError GrammarError.pattern = _
  rw [hcompile]
  rfl

/-- Checking and reading a document succeeds or reports violations. -/
theorem validated_reports {document : Document} (hkeys : document.distinctKeys = true)
    (budget : Nat) : Reports (violations document budget) (Grammar.validated document budget) := by
  by_cases h : violations document budget = []
  · obtain ⟨read, _, hread, _⟩ := compile_of_violations hkeys h
    refine Or.inl ⟨h, read, ?_⟩
    rw [Grammar.validated_of_nil h, hread]
    rfl
  · exact Or.inr ⟨h, Grammar.validated_of_ne_nil h⟩

/-- Compiling a document succeeds or reports violations. -/
theorem ofDocument_reports {document : Document} (hkeys : document.distinctKeys = true)
    (budget : Nat) : Reports (violations document budget) (ofDocument document budget) := by
  by_cases h : violations document budget = []
  · obtain ⟨read, repository, hread, hcompile⟩ := compile_of_violations hkeys h
    exact Or.inl ⟨h, repository, ofDocument_of_compile h hread hcompile⟩
  · refine Or.inr ⟨h, ?_⟩
    rw [ofDocument, Grammar.validated_of_ne_nil h]
    rfl

/-- Compiling a grammar that was put together by hand succeeds or reports violations. -/
theorem ofGrammar_reports (grammar : Grammar) (budget : Nat) :
    Reports (violations grammar.toDocument budget) (ofGrammar grammar budget) := by
  by_cases h : violations grammar.toDocument budget = []
  · obtain ⟨repository, hcompile⟩ := compile_of_grammar_violations h
    refine Or.inl ⟨h, repository, ?_⟩
    rw [ofGrammar, h, hcompile]
    rfl
  · refine Or.inr ⟨h, ?_⟩
    rw [ofGrammar]
    split
    · next hnil => exact absurd hnil h
    · rfl

/-- **Loading a grammar succeeds or reports violations**, and nothing that the checks accept is
refused by the reader or the compiler: neither for a document nor for a grammar put together by
hand. -/
theorem loading_reports {document : Document} (hkeys : document.distinctKeys = true)
    (grammar : Grammar) (budget : Nat) :
    (violations document budget = [] → ∃ read repository,
      Grammar.ofDocument document = .ok read ∧ compile read budget = .ok repository) ∧
    (violations grammar.toDocument budget = [] → ∃ repository,
      compile grammar budget = .ok repository) ∧
    Reports (violations document budget) (Grammar.validated document budget) ∧
    Reports (violations document budget) (ofDocument document budget) ∧
    Reports (violations grammar.toDocument budget) (ofGrammar grammar budget) :=
  ⟨compile_of_violations hkeys, compile_of_grammar_violations, validated_reports hkeys budget,
    ofDocument_reports hkeys budget, ofGrammar_reports grammar budget⟩

/-- Strings in quotes of either kind, with escapes inside. -/
def stringGrammar : Grammar :=
  let string := RuleSpec.region "([\"'])" "\\1"
  ((Grammar.ofScope "source.strings").withPattern (.link "#string")).withRule "string"
    (((string.withScope "string.quoted").withOpeningCapture 1 "punctuation").withPattern
      (RuleSpec.simple "\\\\."))

theorem loading_reports_strings : stringGrammar.toDocument.distinctKeys = true ∧
    (∃ grammar, Grammar.validated stringGrammar.toDocument 1000 = .ok grammar) ∧
    ∃ repository, ofDocument stringGrammar.toDocument 1000 = .ok repository := by
  have hkeys : stringGrammar.toDocument.distinctKeys = true := by decide +kernel
  have haccepted : violations stringGrammar.toDocument 1000 = [] := by decide +kernel
  obtain ⟨_, _, hvalidated, hdocument, _⟩ := loading_reports hkeys stringGrammar 1000
  rcases hvalidated with ⟨_, hvalidated⟩ | ⟨hfound, _⟩
  · rcases hdocument with ⟨_, hdocument⟩ | ⟨hfound, _⟩
    · exact ⟨hkeys, hvalidated, hdocument⟩
    · exact absurd haccepted hfound
  · exact absurd haccepted hfound

end Repository

end ScopeScanner
