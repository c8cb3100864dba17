import ScopeScanner.Repository.Basic

/-!
# Compiling rules

Compiling a rule adds rules to the row and leaves those that are there alone. What a compiled grammar
looks like follows from what is added: each new rule knows its position, and refers to rules written
inside it by positions before its own, and to others by what their references were parsed to
(`Compile.Grows`).

A rule compiles whenever the texts in it do that stand for something (`RuleSpec.All` with
`Compile.Compilable`), at any depth:

* **`Compile.rule_compiles`**, with the lists and maps of rules inside a rule by mutual recursion;
* **`Repository.compile_wellFormed`**: so does a grammar, and the names of the repository are the
  keys of its entries.
-/

namespace ScopeScanner

/-- The value of a key that was just written, and those of the others as before. -/
theorem lookup_insertEntry {α : Type} (entries : List (String × α)) (key other : String) (value : α) :
    (insertEntry entries key value).lookup other =
      if other = key then some value else entries.lookup other := by
  induction entries with
  | nil =>
    rw [insertEntry, List.lookup_cons, List.lookup_nil]
    split <;> simp_all
  | cons entry rest ih =>
    rw [insertEntry]
    split
    · next hkey =>
      rw [List.lookup_cons, List.lookup_cons, hkey]
      by_cases hother : other = key
      · simp [hother]
      · rw [if_neg hother, beq_false_of_ne hother]
    · next hkey =>
      rw [List.lookup_cons, List.lookup_cons, ih]
      by_cases hfirst : other = entry.1
      · simp [hfirst, hkey]
      · rw [beq_false_of_ne hfirst]

/-! ## The texts of a rule -/

/-- What a text in a rule stands for. -/
inductive TextKind where
  | reference
  | regex
  /-- The end of a region, which may be a template. -/
  | closing

mutual

/-- All texts of a rule that stand for something satisfy a condition, those of the rules inside it
included. -/
def RuleSpec.All (Holds : TextKind → String → Prop) : RuleSpec → Prop
  | ⟨reference, pattern, opening, closing, _, _, captures, openingCaptures, closingCaptures,
      patterns, _, _⟩ =>
    (∀ text ∈ reference, Holds .reference text) ∧ (∀ text ∈ pattern, Holds .regex text) ∧
      (∀ text ∈ opening, Holds .regex text) ∧ (∀ text ∈ closing, Holds .closing text) ∧
      AllCaptures Holds captures ∧ AllCaptures Holds openingCaptures ∧
      AllCaptures Holds closingCaptures ∧ AllRules Holds patterns

/-- All texts in a list of rules satisfy a condition. -/
def AllRules (Holds : TextKind → String → Prop) : List RuleSpec → Prop
  | [] => True
  | rule :: rest => rule.All Holds ∧ AllRules Holds rest

/-- All texts in a map of captures satisfy a condition. -/
def AllCaptures (Holds : TextKind → String → Prop) :
    List (String × CaptureSpec RuleSpec) → Prop
  | [] => True
  | (_, ⟨_, patterns⟩) :: rest => AllRules Holds patterns ∧ AllCaptures Holds rest

end

section All

variable {Holds Holds' Both : TextKind → String → Prop}

mutual

/-- Two conditions together yield a third wherever they hold. -/
theorem RuleSpec.All.and (himp : ∀ kind text, Holds kind text → Holds' kind text → Both kind text) :
    ∀ rule : RuleSpec, rule.All Holds → rule.All Holds' → rule.All Both
  | ⟨_, _, _, _, _, _, captures, openingCaptures, closingCaptures, patterns, _, _⟩, h, h' => by
    obtain ⟨hreference, hpattern, hopening, hclosing, hcaptures, hfirst, hlast, hrules⟩ := h
    obtain ⟨hreference', hpattern', hopening', hclosing', hcaptures', hfirst', hlast', hrules'⟩ := h'
    exact ⟨fun text ht => himp _ _ (hreference text ht) (hreference' text ht),
      fun text ht => himp _ _ (hpattern text ht) (hpattern' text ht),
      fun text ht => himp _ _ (hopening text ht) (hopening' text ht),
      fun text ht => himp _ _ (hclosing text ht) (hclosing' text ht),
      AllCaptures.and himp captures hcaptures hcaptures',
      AllCaptures.and himp openingCaptures hfirst hfirst',
      AllCaptures.and himp closingCaptures hlast hlast', AllRules.and himp patterns hrules hrules'⟩

theorem AllRules.and (himp : ∀ kind text, Holds kind text → Holds' kind text → Both kind text) :
    ∀ rules : List RuleSpec, AllRules Holds rules → AllRules Holds' rules → AllRules Both rules
  | [], _, _ => trivial
  | rule :: rest, h, h' =>
    ⟨RuleSpec.All.and himp rule h.1 h'.1, AllRules.and himp rest h.2 h'.2⟩

theorem AllCaptures.and (himp : ∀ kind text, Holds kind text → Holds' kind text → Both kind text) :
    ∀ captures : List (String × CaptureSpec RuleSpec), AllCaptures Holds captures →
      AllCaptures Holds' captures → AllCaptures Both captures
  | [], _, _ => trivial
  | (_, ⟨_, patterns⟩) :: rest, h, h' =>
    ⟨AllRules.and himp patterns h.1 h'.1, AllCaptures.and himp rest h.2 h'.2⟩

end

mutual

/-- A condition that all texts satisfy is satisfied by those of a rule. -/
theorem RuleSpec.all_of_forall (h : ∀ kind text, Holds kind text) : ∀ rule : RuleSpec, rule.All Holds
  | ⟨_, _, _, _, _, _, captures, openingCaptures, closingCaptures, patterns, _, _⟩ =>
    ⟨fun text _ => h _ text, fun text _ => h _ text, fun text _ => h _ text, fun text _ => h _ text,
      allCaptures_of_forall h captures, allCaptures_of_forall h openingCaptures,
      allCaptures_of_forall h closingCaptures, allRules_of_forall h patterns⟩

theorem allRules_of_forall (h : ∀ kind text, Holds kind text) :
    ∀ rules : List RuleSpec, AllRules Holds rules
  | [] => trivial
  | rule :: rest => ⟨rule.all_of_forall h, allRules_of_forall h rest⟩

theorem allCaptures_of_forall (h : ∀ kind text, Holds kind text) :
    ∀ captures : List (String × CaptureSpec RuleSpec), AllCaptures Holds captures
  | [] => trivial
  | (_, ⟨_, patterns⟩) :: rest => ⟨allRules_of_forall h patterns, allCaptures_of_forall h rest⟩

end

/-- The reference of a rule satisfies the condition. -/
theorem RuleSpec.All.reference {rule : RuleSpec} (h : rule.All Holds) :
    ∀ text ∈ rule.reference, Holds .reference text := by
  cases rule
  exact h.1

theorem RuleSpec.All.mono (himp : ∀ kind text, Holds kind text → Both kind text) {rule : RuleSpec}
    (h : rule.All Holds) : rule.All Both :=
  RuleSpec.All.and (fun kind text hfirst _ => himp kind text hfirst) rule h h

end All

/-! ## Rows of rules -/

/-- The references that a rule holds. -/
def Rule.references (rule : Rule) : List RuleRef :=
  match rule.kind with
  | .region region => region.patterns
  | .group patterns => patterns
  | .link target => [target]
  | .simple _ _ => []

namespace Compile

/-- A reference held by the rule at a position leads to a rule before it, or is one that has been
parsed from a text. -/
def Leads (Parsed : RuleRef → Prop) (position : Nat) : RuleRef → Prop
  | .inline id => id < position
  | reference => Parsed reference

/-- The row grows by rules that know their positions and hold references that lead somewhere. -/
structure Grows (Parsed : RuleRef → Prop) (rules rules' : Array Rule) : Prop where
  kept : ∀ (id : RuleId) (rule : Rule), rules[id]? = some rule → rules'[id]? = some rule
  added : ∀ (id : RuleId) (rule : Rule), rules'[id]? = some rule → rules[id]? = some rule ∨
    rule.id = id ∧ ∀ reference ∈ rule.references, Leads Parsed id reference

namespace Grows

variable {Parsed : RuleRef → Prop} {rules rules' rules'' : Array Rule}

theorem refl (rules : Array Rule) : Grows Parsed rules rules :=
  ⟨fun _ _ h => h, fun _ _ h => Or.inl h⟩

theorem trans (h : Grows Parsed rules rules') (h' : Grows Parsed rules' rules'') :
    Grows Parsed rules rules'' where
  kept := fun id rule hrule => h'.kept id rule (h.kept id rule hrule)
  added := by
    intro id rule hrule
    rcases h'.added id rule hrule with hold | hnew
    · exact h.added id rule hold
    · exact Or.inr hnew

theorem size_le (h : Grows Parsed rules rules') : rules.size ≤ rules'.size := by
  rcases Nat.eq_zero_or_pos rules.size with hzero | hpos
  · omega
  · have hlast := h.kept (rules.size - 1) rules[rules.size - 1] (Array.getElem?_eq_getElem _)
    obtain ⟨hlt, _⟩ := Array.getElem?_eq_some_iff.mp hlast
    omega

/-- One more rule, whose references lead to rules that are there. -/
theorem push (key : Option String) (scopes : List String) (kind : RuleKind) (rules : Array Rule)
    (hreferences : ∀ reference ∈ (Rule.mk rules.size key scopes kind).references,
      Leads Parsed rules.size reference) :
    Grows Parsed rules (Compile.push key scopes kind rules).2 where
  kept := by
    intro id rule hrule
    obtain ⟨hlt, _⟩ := Array.getElem?_eq_some_iff.mp hrule
    rw [Compile.push, Array.getElem?_push, if_neg (by omega)]
    exact hrule
  added := by
    intro id rule hrule
    rw [Compile.push, Array.getElem?_push] at hrule
    split at hrule
    · next hid =>
      obtain rfl := Option.some.inj hrule
      subst hid
      exact Or.inr ⟨rfl, hreferences⟩
    · exact Or.inl hrule

end Grows

theorem push_get (key : Option String) (scopes : List String) (kind : RuleKind)
    (rules : Array Rule) :
    (push key scopes kind rules).2[(push key scopes kind rules).1]? =
      some ⟨rules.size, key, scopes, kind⟩ := by
  simp [push]

theorem Leads.mono {Parsed : RuleRef → Prop} {position position' : Nat} {reference : RuleRef}
    (h : Leads Parsed position reference) (hle : position ≤ position') :
    Leads Parsed position' reference := by
  cases reference with
  | inline id => exact Nat.lt_of_lt_of_le h hle
  | named name => exact h
  | root => exact h

theorem leads_parseReference {Parsed : RuleRef → Prop} {text : String}
    (h : Parsed (parseReference text)) (position : Nat) :
    Leads Parsed position (parseReference text) := by
  rw [parseReference] at h ⊢
  split
  · next hroot => rwa [if_pos hroot] at h
  · next hnamed => rwa [if_neg hnamed] at h

/-! ## Compiling rules and lists of rules -/

/-- A text that compiles, or is parsed to a reference as it should be. -/
def Compilable (budget : Nat) (Parsed : RuleRef → Prop) : TextKind → String → Prop
  | .reference, text => Parsed (parseReference text)
  | .regex, source => ∃ pattern, Pattern.compile source budget = .ok pattern
  | .closing, source => ∃ closing, closingPattern budget source = .ok closing

section

variable {budget : Nat} {Parsed : RuleRef → Prop}

/-- What is pushed last is the rule that is asked for. -/
theorem push_compiles {rules rules' : Array Rule} (hgrows : Grows Parsed rules rules')
    (key : Option String) (scopes : List String) (kind : RuleKind)
    (hreferences : ∀ reference ∈ (Rule.mk rules'.size key scopes kind).references,
      Leads Parsed rules'.size reference) :
    Grows Parsed rules (push key scopes kind rules').2 ∧
      ∃ compiled, (push key scopes kind rules').2[(push key scopes kind rules').1]? = some compiled ∧
        compiled.key = key :=
  ⟨hgrows.trans (.push key scopes kind rules' hreferences), _, push_get key scopes kind rules', rfl⟩

mutual

/-- A rule compiles, under the key that it is given. -/
theorem rule_compiles : ∀ (spec : RuleSpec) (key : Option String) (rules : Array Rule),
    spec.All (Compilable budget Parsed) →
      ∃ id rules', rule budget key spec rules = .ok (id, rules') ∧ Grows Parsed rules rules' ∧
        ∃ compiled, rules'[id]? = some compiled ∧ compiled.key = key
  | ⟨reference, pattern, opening, closing, name, contentName, captures, openingCaptures,
      closingCaptures, patterns, closingLast, comment⟩, key, rules, h => by
    obtain ⟨hreference, hpattern, hopening, hclosing, hcaptures, hfirst, hlast, hpatterns⟩ := h
    cases reference with
    | some text =>
      rw [rule]
      refine ⟨_, _, rfl, push_compiles (.refl rules) key _ _ ?_⟩
      intro reference hmem
      obtain rfl := List.mem_singleton.mp hmem
      exact leads_parseReference (hreference text rfl) _
    | none =>
    cases pattern with
    | some source =>
      obtain ⟨compiled, hcompiled⟩ := hpattern source rfl
      obtain ⟨map, rules', hmap, hgrows⟩ := captureMap_compiles captures [] rules hcaptures
      rw [rule, hcompiled]
      dsimp only [bind, Except.bind]
      rw [hmap]
      exact ⟨_, _, rfl, push_compiles hgrows key _ _ (fun reference hmem => by cases hmem)⟩
    | none =>
    cases opening with
    | none =>
      obtain ⟨references, rules', hlist, hgrows, hleads⟩ := ruleList_compiles patterns rules hpatterns
      rw [rule, hlist]
      · exact ⟨_, _, rfl, push_compiles hgrows key _ _ hleads⟩
      · intro _ _ hsome
        cases hsome
    | some begins =>
    cases closing with
    | none =>
      obtain ⟨references, rules', hlist, hgrows, hleads⟩ := ruleList_compiles patterns rules hpatterns
      rw [rule, hlist]
      · exact ⟨_, _, rfl, push_compiles hgrows key _ _ hleads⟩
      · intro _ _ _ hsome
        cases hsome
    | some ends =>
      obtain ⟨opening, hopens⟩ := hopening begins rfl
      obtain ⟨closing, hcloses⟩ := hclosing ends rfl
      have hshared (rules : Array Rule) := captureMap_compiles captures [] rules hcaptures
      have hfirstOwn (rules : Array Rule) :=
        captureMap_compiles openingCaptures [] rules hfirst
      have hlastOwn (rules : Array Rule) :=
        captureMap_compiles closingCaptures [] rules hlast
      have hlist (rules : Array Rule) := ruleList_compiles patterns rules hpatterns
      -- what is left to do once the captures of the begin have been compiled
      have hafter (first : CaptureMap) {rules₁ : Array Rule} (hgrows₁ : Grows Parsed rules rules₁) :
          ∃ id rules', (do
              let (last, rules) ←
                if closingCaptures.isEmpty then captureMap budget captures [] rules₁
                else captureMap budget closingCaptures [] rules₁
              let (references, rules) ← ruleList budget patterns rules
              let region : Region := {
                opening, closing, openingCaptures := first, closingCaptures := last,
                patterns := references, contentScopes := scopesOf contentName, closingLast }
              return push key (scopesOf name) (.region region) rules) = Except.ok (id, rules') ∧
            Grows Parsed rules rules' ∧ ∃ compiled, rules'[id]? = some compiled ∧ compiled.key = key := by
        split
        · obtain ⟨last, rules₂, hmap, hgrows₂⟩ := hshared rules₁
          obtain ⟨references, rules₃, hrules, hgrows₃, hleads⟩ := hlist rules₂
          rw [hmap]
          dsimp only [bind, Except.bind]
          rw [hrules]
          exact ⟨_, _, rfl, push_compiles ((hgrows₁.trans hgrows₂).trans hgrows₃) key _ _ hleads⟩
        · obtain ⟨last, rules₂, hmap, hgrows₂⟩ := hlastOwn rules₁
          obtain ⟨references, rules₃, hrules, hgrows₃, hleads⟩ := hlist rules₂
          rw [hmap]
          dsimp only [bind, Except.bind]
          rw [hrules]
          exact ⟨_, _, rfl, push_compiles ((hgrows₁.trans hgrows₂).trans hgrows₃) key _ _ hleads⟩
      rw [rule, hcloses]
      dsimp only [bind, Except.bind] at hafter ⊢
      rw [hopens]
      dsimp only
      split
      · obtain ⟨first, rules₁, hmap, hgrows₁⟩ := hshared rules
        rw [hmap]
        exact hafter first hgrows₁
      · obtain ⟨first, rules₁, hmap, hgrows₁⟩ := hfirstOwn rules
        rw [hmap]
        exact hafter first hgrows₁

/-- A list of rules compiles to references that lead somewhere. -/
theorem ruleList_compiles : ∀ (specs : List RuleSpec) (rules : Array Rule),
    AllRules (Compilable budget Parsed) specs →
      ∃ references rules', ruleList budget specs rules = .ok (references, rules') ∧
        Grows Parsed rules rules' ∧ ∀ reference ∈ references, Leads Parsed rules'.size reference
  | [], rules, _ => ⟨[], rules, rfl, .refl rules, fun _ hmem => by cases hmem⟩
  | spec :: rest, rules, h => by
    obtain ⟨hspec, hrest⟩ := h
    -- what is left to do once the first rule has become a reference
    have hafter {reference : RuleRef} {rules' : Array Rule} (hgrows : Grows Parsed rules rules')
        (hleads : Leads Parsed rules'.size reference) :
        ∃ references rules'', (do
            let (references, rules) ← ruleList budget rest rules'
            return (reference :: references, rules)) = Except.ok (references, rules'') ∧
          Grows Parsed rules rules'' ∧ ∀ other ∈ references, Leads Parsed rules''.size other := by
      obtain ⟨references, rules'', hlist, hgrows', hleads'⟩ := ruleList_compiles rest rules' hrest
      refine ⟨reference :: references, rules'', by rw [hlist]; rfl, hgrows.trans hgrows', ?_⟩
      intro other hmem
      rcases List.mem_cons.mp hmem with rfl | hmem
      · exact hleads.mono hgrows'.size_le
      · exact hleads' other hmem
    rw [ruleList]
    split
    · next text htext _ =>
      exact hafter (.refl rules) (leads_parseReference (hspec.reference text htext) _)
    · obtain ⟨id, rules', hrule, hgrows, compiled, hget, _⟩ := rule_compiles spec none rules hspec
      obtain ⟨hlt, _⟩ := Array.getElem?_eq_some_iff.mp hget
      rw [hrule]
      exact hafter hgrows (show id < rules'.size from hlt)

/-- A map of captures compiles. -/
theorem captureMap_compiles : ∀ (captures : List (String × CaptureSpec RuleSpec))
    (done : CaptureMap) (rules : Array Rule), AllCaptures (Compilable budget Parsed) captures →
      ∃ compiled rules', captureMap budget captures done rules = .ok (compiled, rules') ∧
        Grows Parsed rules rules'
  | [], done, rules, _ => ⟨done, rules, rfl, .refl rules⟩
  | (key, ⟨name, patterns⟩) :: rest, done, rules, h => by
    obtain ⟨hpatterns, hrest⟩ := h
    rw [captureMap]
    cases groupNumber? key with
    | none => exact captureMap_compiles rest done rules hrest
    | some number =>
      dsimp only
      cases hempty : patterns.isEmpty with
      | true =>
        exact captureMap_compiles rest _ rules hrest
      | false =>
        obtain ⟨references, rules', hlist, hgrows, hleads⟩ := ruleList_compiles patterns rules hpatterns
        have hgroup : Grows Parsed rules' (push none [] (.group references) rules').2 :=
          Grows.push none [] (.group references) rules' hleads
        obtain ⟨compiled, rules'', hcaptures, hgrows'⟩ := captureMap_compiles rest
          (done.insert number { scopes := scopesOf name, rule := some rules'.size })
          (push none [] (.group references) rules').2 hrest
        refine ⟨compiled, rules'', ?_, (hgrows.trans hgroup).trans hgrows'⟩
        rw [hlist]
        exact hcaptures

end

/-! ## Compiling grammars -/

/-- The rule that an entry of a repository is compiled to. -/
structure CompiledTo (budget : Nat) (key : String) (spec : RuleSpec) (compiled : Rule) : Prop where
  named : compiled.key = some key
  compiles : ∃ rules id rules', rule budget (some key) spec rules = .ok (id, rules') ∧
    rules'[id]? = some compiled

/-- Each name stands for the rule that the entry with that key is compiled to. -/
def Named (budget : Nat) (specs : List (String × RuleSpec)) (names : List (String × RuleId))
    (rules : Array Rule) : Prop :=
  ∀ name id, names.lookup name = some id → ∃ spec compiled, (name, spec) ∈ specs ∧
    rules[id]? = some compiled ∧ CompiledTo budget name spec compiled

theorem Named.grows {specs : List (String × RuleSpec)} {names : List (String × RuleId)}
    {rules rules' : Array Rule} (h : Named budget specs names rules)
    (hgrows : Grows Parsed rules rules') : Named budget specs names rules' := by
  intro name id hlookup
  obtain ⟨spec, compiled, hspec, hrule, hcompiled⟩ := h name id hlookup
  exact ⟨spec, compiled, hspec, hgrows.kept id compiled hrule, hcompiled⟩

theorem Named.insert {specs : List (String × RuleSpec)} {names : List (String × RuleId)}
    {rules : Array Rule} (h : Named budget specs names rules) {key : String} {spec : RuleSpec}
    (hspec : (key, spec) ∈ specs) {id : RuleId} {compiled : Rule} (hrule : rules[id]? = some compiled)
    (hcompiled : CompiledTo budget key spec compiled) :
    Named budget specs (insertEntry names key id) rules := by
  intro name other hlookup
  rw [lookup_insertEntry] at hlookup
  split at hlookup
  · next heq =>
    obtain rfl := Option.some.inj hlookup
    subst heq
    exact ⟨spec, compiled, hspec, hrule, hcompiled⟩
  · exact h name other hlookup

/-- The entries of a repository that are left compile, and each is found under its key. -/
theorem entries_compiles {all : List (String × RuleSpec)} (specs : List (String × RuleSpec))
    (names : List (String × RuleId)) (rules : Array Rule) (hmem : ∀ entry ∈ specs, entry ∈ all)
    (hspecs : ∀ entry ∈ specs, entry.2.All (Compilable budget Parsed))
    (hnames : Named budget all names rules) :
    ∃ names' rules', entries budget specs names rules = .ok (names', rules') ∧
      Grows Parsed rules rules' ∧ Named budget all names' rules' ∧
      ∀ key, (names.lookup key).isSome = true ∨ key ∈ specs.map (·.1) →
        (names'.lookup key).isSome = true := by
  induction specs generalizing names rules with
  | nil =>
    refine ⟨names, rules, rfl, .refl rules, hnames, ?_⟩
    rintro key (hkey | hkey)
    · exact hkey
    · cases hkey
  | cons entry rest ih =>
    obtain ⟨key, spec⟩ := entry
    obtain ⟨id, rules', hrule, hgrows, compiled, hget, hkey⟩ :=
      rule_compiles spec (some key) rules (hspecs _ List.mem_cons_self)
    obtain ⟨names', rules'', hentries, hgrows', hnames', hkeys⟩ :=
      ih (insertEntry names key id) rules'
        (fun entry hentry => hmem entry (List.mem_cons_of_mem _ hentry))
        (fun entry hentry => hspecs entry (List.mem_cons_of_mem _ hentry))
        ((hnames.grows hgrows).insert (hmem _ List.mem_cons_self) hget
          ⟨hkey, rules, id, rules', hrule, hget⟩)
    refine ⟨names', rules'', ?_, hgrows.trans hgrows', hnames', ?_⟩
    · rw [entries, hrule]
      exact hentries
    · intro other hother
      apply hkeys
      rw [lookup_insertEntry]
      by_cases heq : other = key
      · exact Or.inl (by simp [heq])
      · rw [if_neg heq]
        refine hother.imp_right fun hmem => ?_
        rw [List.map_cons] at hmem
        exact (List.mem_cons.mp hmem).resolve_left heq

end

end Compile

/-- All texts of a grammar that stand for something satisfy a condition. -/
structure Grammar.All (Holds : TextKind → String → Prop) (grammar : Grammar) : Prop where
  patterns : AllRules Holds grammar.patterns
  repository : ∀ entry ∈ grammar.repository, entry.2.All Holds
  firstLine : ∀ text ∈ grammar.firstLineMatch, Holds .regex text

theorem Grammar.all_of_forall {Holds : TextKind → String → Prop} (h : ∀ kind text, Holds kind text)
    (grammar : Grammar) : grammar.All Holds where
  patterns := allRules_of_forall h grammar.patterns
  repository := fun entry _ => entry.2.all_of_forall h
  firstLine := fun text _ => h .regex text

theorem Grammar.All.and {Holds Holds' Both : TextKind → String → Prop} {grammar : Grammar}
    (himp : ∀ kind text, Holds kind text → Holds' kind text → Both kind text)
    (h : grammar.All Holds) (h' : grammar.All Holds') : grammar.All Both where
  patterns := AllRules.and himp _ h.patterns h'.patterns
  repository := fun entry hmem =>
    RuleSpec.All.and himp _ (h.repository entry hmem) (h'.repository entry hmem)
  firstLine := fun text ht => himp _ _ (h.firstLine text ht) (h'.firstLine text ht)

theorem Grammar.All.mono {Holds Holds' : TextKind → String → Prop} {grammar : Grammar}
    (himp : ∀ kind text, Holds kind text → Holds' kind text) (h : grammar.All Holds) :
    grammar.All Holds' :=
  Grammar.All.and (fun kind text hfirst _ => himp kind text hfirst) h h

namespace Repository

/-- What is known of a repository that was compiled. -/
structure WellFormed (Parsed : RuleRef → Prop) (grammar : Grammar) (budget : Nat)
    (repository : Repository) : Prop where
  rules : ∀ id rule, repository.rule? id = some rule →
    rule.id = id ∧ ∀ reference ∈ rule.references, Compile.Leads Parsed id reference
  root : (repository.rule? repository.root).isSome = true
  names : Compile.Named budget grammar.repository repository.names repository.rules
  keys : ∀ key ∈ grammar.repository.map (·.1), (repository.names.lookup key).isSome = true

/-- A grammar compiles if its texts do. -/
theorem compile_wellFormed {Parsed : RuleRef → Prop} {grammar : Grammar} {budget : Nat}
    (h : grammar.All (Compile.Compilable budget Parsed)) :
    ∃ repository, compile grammar budget = .ok repository ∧
      repository.WellFormed Parsed grammar budget := by
  obtain ⟨names, rules, hentries, hgrows, hnamed, hkeys⟩ :=
    Compile.entries_compiles grammar.repository [] #[] (fun _ hentry => hentry) h.repository
      (fun name id hlookup => by cases hlookup)
  obtain ⟨references, rules', hlist, hgrows', hleads⟩ :=
    Compile.ruleList_compiles grammar.patterns rules h.patterns
  have hgroup := Compile.push_compiles (hgrows.trans hgrows') none
    (Compile.scopesOf (some grammar.scopeName)) (.group references) hleads
  have hcompile : ∃ firstLine, compile grammar budget = .ok {
      rules := (Compile.push none (Compile.scopesOf (some grammar.scopeName)) (.group references)
        rules').2
      names
      root := (Compile.push none (Compile.scopesOf (some grammar.scopeName)) (.group references)
        rules').1
      scopeName := grammar.scopeName
      fileTypes := grammar.fileTypes
      firstLine
      budget } := by
    rw [compile, hentries]
    dsimp only [bind, Except.bind]
    rw [hlist]
    dsimp only
    cases hline : grammar.firstLineMatch with
    | none => exact ⟨none, rfl⟩
    | some source =>
      obtain ⟨pattern, hpattern⟩ := h.firstLine source hline
      dsimp only
      rw [hpattern]
      exact ⟨some pattern, rfl⟩
  obtain ⟨firstLine, hcompile⟩ := hcompile
  obtain ⟨hrow, root, hroot, _⟩ := hgroup
  refine ⟨_, hcompile, ?_, ?_, ?_, ?_⟩
  · intro id rule hrule
    rcases hrow.added id rule hrule with hnone | hadded
    · cases hnone
    · exact hadded
  · exact Option.isSome_iff_exists.mpr ⟨root, hroot⟩
  · exact (hnamed.grows hgrows').grows (.push none _ _ rules' hleads)
  · exact fun key hkey => hkeys key (Or.inr hkey)

end Repository

end ScopeScanner
