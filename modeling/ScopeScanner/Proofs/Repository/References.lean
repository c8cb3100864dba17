import ScopeScanner.Proofs.Grammar.Loading
import ScopeScanner.Repository.Flatten

/-!
# References of accepted grammars

The checks look for an entry under what follows the first number sign of a reference, the compiler for
one under what follows all of them. The two agree on references with a single sign, and only on those:

* **`Repository.Closed.expand?_eq`**: where the references in rules resolve, flattening a list never
  meets one that does not.
* **`Repository.closed_of_singleSign`**: they resolve in the repository of an accepted grammar, if no
  reference starts with two signs.
* **`Repository.references_resolve_iff`**: an accepted document is compiled to a repository in which
  references resolve to the entries they name exactly if none of them starts with two signs.
-/

namespace ScopeScanner

open Schema

/-! ## Two readings of a reference -/

/-- A reference that starts with at most one number sign. -/
def SingleSign (kind : TextKind) (text : String) : Prop :=
  kind = .reference → ¬ ['#', '#'] <+: text.toList

/-- The compiler looks for a name without the number signs in front. -/
theorem parseReference_of_sign {text : String} {name : List Char} (h : text.toList = '#' :: name) :
    Compile.parseReference text = .named (String.ofList (name.dropWhile (· = '#'))) := by
  rw [Compile.parseReference, if_neg]
  · rw [h]
    rfl
  · intro hroot
    simp only [Bool.or_eq_true, decide_eq_true_eq] at hroot
    rcases hroot with rfl | rfl
    all_goals
      have hfirst := congrArg List.head? h
      rw [List.head?_cons] at hfirst
      exact absurd hfirst (by decide)

/-- Behind a single number sign there is nothing to drop. -/
theorem dropWhile_of_singleSign {text : String} {name : List Char} (h : text.toList = '#' :: name)
    (hsingle : SingleSign .reference text) : name.dropWhile (· = '#') = name := by
  cases name with
  | nil => rfl
  | cons first rest =>
    apply List.dropWhile_cons_of_neg
    intro hsign
    obtain rfl := of_decide_eq_true hsign
    refine hsingle rfl ?_
    rw [h]
    exact ⟨rest, rfl⟩

/-- A name without number signs in front starts with none. -/
theorem dropWhile_ne_sign (name rest : List Char) : name.dropWhile (· = '#') ≠ '#' :: rest := by
  intro h
  have hhead := List.head?_dropWhile_not (· = '#') name
  rw [h] at hhead
  simp at hhead

/-! ## Flattening without leaving anything out -/

/-- Collects the rules reachable from a list as `Flat.expand` does, but gives up at a reference that
does not resolve. -/
def Flat.expand? (repository : Repository) : (fuel : Nat) → List RuleRef → Flat → Option Flat
  | 0, _, flat => some flat
  | fuel + 1, references, flat =>
    references.foldlM
      (fun flat reference =>
        match repository.lookup? reference with
        | none => none
        | some rule =>
          match rule.kind with
          | .simple _ _ | .region _ => some { flat with rules := rule.id :: flat.rules }
          | .group patterns =>
            if flat.entered.contains rule.id then some flat
            else expand? repository fuel patterns { flat with entered := rule.id :: flat.entered }
          | .link target =>
            if flat.entered.contains rule.id then some flat
            else expand? repository fuel [target] { flat with entered := rule.id :: flat.entered })
      flat

namespace Repository

/-- The flattened list of a rule, unless a reference that does not resolve is met. -/
def flatten? (repository : Repository) (id : RuleId) : Option (List RuleId) :=
  let patterns := (repository.rule? id).elim [] Rule.patterns
  (Flat.expand? repository (repository.rules.size + 1) patterns { entered := [id] }).map
    (·.rules.reverse)

/-- All references in rules resolve. -/
def Closed (repository : Repository) : Prop :=
  ∀ id rule, repository.rule? id = some rule →
    ∀ reference ∈ rule.references, (repository.lookup? reference).isSome = true

/-- What a reference resolves to is a rule of the row. -/
theorem rule?_of_lookup? {repository : Repository} {reference : RuleRef} {rule : Rule}
    (h : repository.lookup? reference = some rule) : ∃ id, repository.rule? id = some rule := by
  cases reference with
  | named name =>
    obtain ⟨id, _, hrule⟩ := Option.bind_eq_some_iff.mp h
    exact ⟨id, hrule⟩
  | root => exact ⟨repository.root, h⟩
  | inline id => exact ⟨id, h⟩

/-- **Flattening meets no reference that does not resolve.** By induction on the levels entered, and
on the list within a level. -/
theorem Closed.expand?_eq {repository : Repository} (h : repository.Closed) (fuel : Nat) :
    ∀ (references : List RuleRef) (flat : Flat),
      (∀ reference ∈ references, (repository.lookup? reference).isSome = true) →
        Flat.expand? repository fuel references flat =
          some (Flat.expand repository fuel references flat) := by
  induction fuel with
  | zero => exact fun _ _ _ => rfl
  | succ fuel ihFuel =>
    intro references flat hreferences
    rw [Flat.expand?, Flat.expand]
    induction references generalizing flat with
    | nil => rfl
    | cons reference rest ih =>
      have hrest := fun flat => ih flat fun other hother =>
        hreferences other (List.mem_cons_of_mem _ hother)
      obtain ⟨rule, hrule⟩ := Option.isSome_iff_exists.mp (hreferences reference List.mem_cons_self)
      obtain ⟨id, hid⟩ := rule?_of_lookup? hrule
      -- a group or a link that is entered holds references of a rule, which resolve as well
      have hbelow := h id rule hid
      rw [List.foldlM_cons, List.foldl_cons, hrule]
      dsimp only
      rw [Rule.references] at hbelow
      cases hkind : rule.kind with
      | simple pattern captures => exact hrest _
      | region region => exact hrest _
      | group patterns =>
        dsimp only
        rw [hkind] at hbelow
        split
        · exact hrest _
        · rw [ihFuel patterns _ hbelow]
          exact hrest _
      | link target =>
        dsimp only
        rw [hkind] at hbelow
        split
        · exact hrest _
        · rw [ihFuel [target] _ hbelow]
          exact hrest _

theorem Closed.flatten?_eq {repository : Repository} (h : repository.Closed) (id : RuleId) :
    repository.flatten? id = some (repository.flatten id) := by
  have hpatterns : ∀ reference ∈ (repository.rule? id).elim [] Rule.patterns,
      (repository.lookup? reference).isSome = true := by
    intro reference hmem
    cases hrule : repository.rule? id with
    | none =>
      rw [hrule] at hmem
      cases hmem
    | some rule =>
      rw [hrule] at hmem
      apply h id rule hrule reference
      rw [Option.elim_some, Rule.patterns] at hmem
      rw [Rule.references]
      cases hkind : rule.kind with
      | simple pattern captures => rw [hkind] at hmem; cases hmem
      | region region => rw [hkind] at hmem; exact hmem
      | group patterns => rw [hkind] at hmem; exact hmem
      | link target => rw [hkind] at hmem; cases hmem
  rw [flatten?, flatten, h.expand?_eq _ _ _ hpatterns]
  rfl

/-! ## Repositories of accepted grammars -/

/-- A reference by name leads to the rule that is compiled from the entry with that very name. -/
def FindsEntry (grammar : Grammar) (budget : Nat) (repository : Repository) (kind : TextKind)
    (text : String) : Prop :=
  kind = .reference → ∀ name, text.toList = '#' :: name → ∃ rule spec,
    repository.lookup? (Compile.parseReference text) = some rule ∧
    (String.ofList name, spec) ∈ grammar.repository ∧
    Compile.CompiledTo budget (String.ofList name) spec rule

/-- What an accepted reference with a single sign is parsed to: the top-level list, or the name of an
entry. -/
def Entry (names : List String) : RuleRef → Prop
  | .named name => name ∈ names
  | _ => True

section Accepted

variable {grammar : Grammar} {budget : Nat} {repository : Repository} {Parsed : RuleRef → Prop}

theorem entry_of_accepted {context : Context} {text : String}
    (haccepted : Accepted context .reference text) (hsingle : SingleSign .reference text) :
    Entry context.rules (Compile.parseReference text) := by
  rcases haccepted with rfl | rfl | ⟨name, htext, hknown⟩
  · exact trivial
  · exact trivial
  · rw [parseReference_of_sign htext, dropWhile_of_singleSign htext hsingle]
    exact hknown

/-- The name of an entry leads to the rule that the entry is compiled to. -/
theorem WellFormed.resolve (h : repository.WellFormed Parsed grammar budget) {name : String}
    (hname : name ∈ grammar.repository.map (·.1)) : ∃ rule spec,
      repository.lookup? (.named name) = some rule ∧ (name, spec) ∈ grammar.repository ∧
        Compile.CompiledTo budget name spec rule := by
  obtain ⟨id, hid⟩ := Option.isSome_iff_exists.mp (h.keys name hname)
  obtain ⟨spec, rule, hspec, hrule, hcompiled⟩ := h.names name id hid
  exact ⟨rule, spec, by rw [lookup?, resolve?, hid]; exact hrule, hspec, hcompiled⟩

/-- Where references are parsed to entries, all references in rules resolve. -/
theorem WellFormed.closed
    (h : repository.WellFormed (Entry (grammar.repository.map (·.1))) grammar budget) :
    repository.Closed := by
  intro id rule hrule reference hmem
  have hleads := (h.rules id rule hrule).2 reference hmem
  cases reference with
  | named name =>
    obtain ⟨found, _, hfound, _⟩ := h.resolve hleads
    rw [hfound]
    rfl
  | root => exact h.root
  | inline target =>
    obtain ⟨hlt, _⟩ := Array.getElem?_eq_some_iff.mp hrule
    have htarget : target < repository.rules.size := Nat.lt_trans hleads hlt
    rw [lookup?, rule?, Array.getElem?_eq_getElem htarget]
    rfl

/-- A grammar with accepted texts and single signs compiles to rules whose references are entries. -/
theorem wellFormed_of_singleSign (haccepted : grammar.All (Accepted (grammar.context budget)))
    (hsingle : grammar.All SingleSign) (hcompile : compile grammar budget = .ok repository) :
    repository.WellFormed (Entry (grammar.repository.map (·.1))) grammar budget := by
  have hcompilable :
      grammar.All (Compile.Compilable budget (Entry (grammar.repository.map (·.1)))) := by
    refine haccepted.and ?_ hsingle
    intro kind text htext hsign
    cases kind with
    | reference => exact entry_of_accepted htext hsign
    | regex => exact htext
    | closing => exact Accepted.closing_compiles htext
  -- compiling has one result, whatever is asked of the references
  obtain ⟨compiled, hcompiled, hwell⟩ := compile_wellFormed hcompilable
  rw [hcompile] at hcompiled
  cases hcompiled
  exact hwell

/-- **All references in rules resolve** in the repository of an accepted grammar, if none of them
starts with two signs. -/
theorem closed_of_singleSign (haccepted : grammar.All (Accepted (grammar.context budget)))
    (hsingle : grammar.All SingleSign) (hcompile : compile grammar budget = .ok repository) :
    repository.Closed :=
  (wellFormed_of_singleSign haccepted hsingle hcompile).closed

/-- A reference with a single sign leads to the entry it names. -/
theorem findsEntry_of_singleSign (haccepted : grammar.All (Accepted (grammar.context budget)))
    (hsingle : grammar.All SingleSign) (hcompile : compile grammar budget = .ok repository) :
    grammar.All (FindsEntry grammar budget repository) := by
  have hwell := wellFormed_of_singleSign haccepted hsingle hcompile
  refine haccepted.and ?_ hsingle
  rintro kind text htext hsign rfl name hname
  have hparsed := parseReference_of_sign hname
  rw [dropWhile_of_singleSign hname hsign] at hparsed
  have hentry := entry_of_accepted htext hsign
  rw [hparsed] at hentry ⊢
  exact hwell.resolve hentry

/-- A reference with two signs never leads to the entry it names, which has a sign in its name. -/
theorem singleSign_of_findsEntry {kind : TextKind} {text : String}
    (hnames : Compile.Named budget grammar.repository repository.names repository.rules)
    (h : FindsEntry grammar budget repository kind text) : SingleSign kind text := by
  rintro rfl ⟨rest, hrest⟩
  obtain ⟨rule, spec, hlookup, _, hcompiled⟩ := h rfl ('#' :: rest) hrest.symm
  rw [parseReference_of_sign hrest.symm] at hlookup
  obtain ⟨id, hid, hrule⟩ := Option.bind_eq_some_iff.mp hlookup
  obtain ⟨_, found, _, hfound, hfoundAt⟩ := hnames _ id hid
  obtain rfl : found = rule := by
    rw [rule?, hfound] at hrule
    exact Option.some.inj hrule
  -- the rule found bears the name without signs, but should bear the one with a sign
  have hkeys := hfoundAt.named.symm.trans hcompiled.named
  have hsame := String.ofList_inj.mp (Option.some.inj hkeys)
  exact dropWhile_ne_sign _ _ hsame

end Accepted

/-- **An accepted document is compiled to a repository in which references resolve as they are
written, exactly if none of them starts with two number signs**: each reference by name leads to the
rule compiled from the entry with that name, all references in rules resolve, and flattening the list
of any rule never meets one that does not. -/
theorem references_resolve_iff {document : Document} {budget : Nat}
    (hkeys : document.distinctKeys = true) (haccepted : violations document budget = []) :
    ∃ entries grammar repository, document = .object entries ∧
      Grammar.validated document budget = .ok grammar ∧
      grammar.repository.map (·.1) = (repositoryEntries entries).map (·.1) ∧
      ofDocument document budget = .ok repository ∧
      ((grammar.All (FindsEntry grammar budget repository) ∧
          (∀ id rule, repository.rule? id = some rule → ∀ reference ∈ rule.references,
            (repository.lookup? reference).isSome = true) ∧
          ∀ id, repository.flatten? id = some (repository.flatten id)) ↔
        grammar.All SingleSign) := by
  obtain ⟨entries, grammar, hobject, hread, hnames, hall⟩ :=
    Grammar.ofDocument_of_violations hkeys haccepted
  have hcompilable : grammar.All (Compile.Compilable budget fun _ => True) :=
    hall.mono (Accepted.compilable fun _ _ => trivial)
  obtain ⟨repository, hcompile, hwell⟩ := compile_wellFormed hcompilable
  have hvalidated : Grammar.validated document budget = .ok grammar := by
    rw [Grammar.validated_of_nil haccepted, hread]
    rfl
  refine ⟨entries, grammar, repository, hobject, hvalidated, hnames, ?_, ?_, ?_⟩
  · rw [ofDocument, hvalidated]
    show (compile grammar budget).mapError GrammarError.pattern = _
    rw [hcompile]
    rfl
  · rintro ⟨hfinds, _⟩
    exact hfinds.mono fun kind text => singleSign_of_findsEntry hwell.names
  · intro hsingle
    have hclosed := closed_of_singleSign hall hsingle hcompile
    exact ⟨findsEntry_of_singleSign hall hsingle hcompile, hclosed, hclosed.flatten?_eq⟩

/-- A reference to an entry whose name starts with a number sign itself. -/
def signGrammar : Grammar :=
  ((Grammar.ofScope "source.signs").withPattern (.link "##x")).withRule "#x" (.simple "a")

theorem references_resolve_iff_signs : signGrammar.toDocument.distinctKeys = true ∧
    violations signGrammar.toDocument 1000 = [] ∧
    ∃ grammar repository, Grammar.validated signGrammar.toDocument 1000 = .ok grammar ∧
      ofDocument signGrammar.toDocument 1000 = .ok repository ∧
      ¬ (grammar.All (FindsEntry grammar 1000 repository) ∧
        (∀ id rule, repository.rule? id = some rule → ∀ reference ∈ rule.references,
          (repository.lookup? reference).isSome = true) ∧
        ∀ id, repository.flatten? id = some (repository.flatten id)) := by
  have hkeys : signGrammar.toDocument.distinctKeys = true := by decide +kernel
  have haccepted : violations signGrammar.toDocument 1000 = [] := by decide +kernel
  have hread : Grammar.ofDocument signGrammar.toDocument = .ok signGrammar := by rfl
  obtain ⟨_, grammar, repository, _, hvalidated, _, hcompiled, hiff⟩ :=
    references_resolve_iff hkeys haccepted
  refine ⟨hkeys, haccepted, grammar, repository, hvalidated, hcompiled, ?_⟩
  rw [hiff]
  intro hsingle
  obtain rfl : grammar = signGrammar := by
    rw [Grammar.validated_of_nil haccepted, hread] at hvalidated
    exact (Except.ok.inj hvalidated).symm
  exact hsingle.patterns.1.reference "##x" rfl rfl ⟨['x'], rfl⟩

end Repository

end ScopeScanner
