import ScopeScanner.Proofs.Repository.Reordering

/-!
# What compiled rules are like

Compiling adds rules at the end of the row. Each rule is given the position that it is put at, and what
it does is compiled from the sources in the grammar (`Compile.FromSources`):

* **`Compile.rule_made`**: what holds of each rule that is put behind a row holds of all of them
  (`Compile.Makes`), with the lists and maps of rules inside a rule by mutual recursion;
* **`Repository.compile_numbered`**: so a rule of a repository is found under its own number;
* **`Repository.compile_fromSources`**: and its patterns are what their sources compile to.
-/

namespace ScopeScanner

namespace Compile

/-- Each rule of a row knows its position. -/
def Numbered (rules : Array Rule) : Prop :=
  ∀ (id : RuleId) (rule : Rule), rules[id]? = some rule → rule.id = id

/-- What a rule does, with patterns that have been compiled from texts for which a condition holds. -/
inductive FromSources (Holds : TextKind → String → Prop) (budget : Nat) : RuleKind → Prop where
  | simple {source : String} {pattern : Pattern} (captures : CaptureMap) (hsource : Holds .regex source)
      (hpattern : Pattern.compile source budget = .ok pattern) :
      FromSources Holds budget (.simple pattern captures)
  | region {begins ends : String} {region : Region} (hbegins : Holds .regex begins)
      (hends : Holds .closing ends) (hopening : Pattern.compile begins budget = .ok region.opening)
      (hclosing : closingPattern budget ends = .ok region.closing) :
      FromSources Holds budget (.region region)
  | group (patterns : List RuleRef) : FromSources Holds budget (.group patterns)
  | link (target : RuleRef) : FromSources Holds budget (.link target)

/-- Each rule of a row knows its position, and has been compiled from such texts. -/
def Compiled (Holds : TextKind → String → Prop) (budget : Nat) (rules : Array Rule) : Prop :=
  ∀ (id : RuleId) (rule : Rule), rules[id]? = some rule →
    rule.id = id ∧ FromSources Holds budget rule.kind

/-- What compiling makes of texts for which a condition holds: rules of some kind, with captures of some
kind. A rule is told by its position, and its scopes are the words of its name. -/
structure Makes (Holds : TextKind → String → Prop) (budget : Nat) (Captures : CaptureMap → Prop)
    (Good : RuleId → Rule → Prop) : Prop where
  nothing : Captures []
  insert : ∀ captures number name rule, Captures captures →
    Captures (CaptureMap.insert number { scopes := scopesOf name, rule } captures)
  link : ∀ id key name target, Good id { id, key, scopes := scopesOf name, kind := .link target }
  group : ∀ id key name patterns, Good id { id, key, scopes := scopesOf name, kind := .group patterns }
  simple : ∀ id key name source pattern captures, Holds .regex source →
    Pattern.compile source budget = .ok pattern → Captures captures →
      Good id { id, key, scopes := scopesOf name, kind := .simple pattern captures }
  region : ∀ id key name contentName begins ends region, Holds .regex begins → Holds .closing ends →
    Pattern.compile begins budget = .ok region.opening →
      closingPattern budget ends = .ok region.closing → Captures region.openingCaptures →
        Captures region.closingCaptures → region.contentScopes = scopesOf contentName →
          Good id { id, key, scopes := scopesOf name, kind := .region region }

/-- The rules of a row are of some kind. -/
def Row (Good : RuleId → Rule → Prop) (rules : Array Rule) : Prop :=
  ∀ (id : RuleId) (rule : Rule), rules[id]? = some rule → Good id rule

variable {Holds : TextKind → String → Prop} {Captures : CaptureMap → Prop} {Good : RuleId → Rule → Prop}

theorem Row.push {rules : Array Rule} (h : Row Good rules) {key : Option String} {scopes : List String}
    {kind : RuleKind} (hgood : ∀ id, Good id { id, key, scopes, kind }) :
    Row Good (Compile.push key scopes kind rules).2 := by
  intro id rule hrule
  rw [Compile.push, Array.getElem?_push] at hrule
  split at hrule
  · next hid =>
    obtain rfl := Option.some.inj hrule
    rw [hid]
    exact hgood rules.size
  · exact h id rule hrule

/-- A map of captures is compiled to captures of some kind, and the rules that it adds to a row are of some
kind. -/
def MapMade (budget : Nat) (Captures : CaptureMap → Prop) (Good : RuleId → Rule → Prop)
    (specs : List (String × CaptureSpec RuleSpec)) : Prop :=
  ∀ {rules next : Array Rule} {map : CaptureMap}, Row Good rules →
    captureMap budget specs [] rules = .ok (map, next) → Captures map ∧ Row Good next

/-- Either end of a region has captures of its own, or those that both ends share. -/
theorem MapMade.either {budget : Nat} {shared own : List (String × CaptureSpec RuleSpec)}
    (hshared : MapMade budget Captures Good shared) (hown : MapMade budget Captures Good own)
    {rules : Array Rule} (hrules : Row Good rules) {α : Type} {result : α}
    {further : CaptureMap × Array Rule → Except PatternError α}
    (h : (if own.isEmpty then captureMap budget shared [] rules >>= further
      else captureMap budget own [] rules >>= further) = .ok result) :
    ∃ map row, Captures map ∧ Row Good row ∧ further (map, row) = .ok result := by
  split at h
  · obtain ⟨⟨map, row⟩, hmap, h⟩ := bind_eq_ok h
    obtain ⟨hcaptures, hrow⟩ := hshared hrules hmap
    exact ⟨map, row, hcaptures, hrow, h⟩
  · obtain ⟨⟨map, row⟩, hmap, h⟩ := bind_eq_ok h
    obtain ⟨hcaptures, hrow⟩ := hown hrules hmap
    exact ⟨map, row, hcaptures, hrow, h⟩

mutual

/-- The rules that a rule adds to a row are of the kind that compiling makes. -/
theorem rule_made {budget : Nat} (hmakes : Makes Holds budget Captures Good) :
    ∀ (key : Option String) (spec : RuleSpec) {rules next : Array Rule} {id : RuleId},
      spec.All Holds → Row Good rules → rule budget key spec rules = .ok (id, next) → Row Good next
  | key, ⟨reference, pattern, opening, closing, name, contentName, captures, openingCaptures,
      closingCaptures, patterns, closingLast, comment⟩, rules, next, id, hall, hrules, h => by
    obtain ⟨_, hpatterns, hopenings, hclosings, hcaptures, hfirst, hlast, hinner⟩ := hall
    have hgroup (h : (do
        let (references, rules) ← ruleList budget patterns rules
        return push key (scopesOf name) (.group references) rules : Except PatternError _) =
          .ok (id, next)) : Row Good next := by
      obtain ⟨⟨references, row⟩, hlist, h⟩ := bind_eq_ok h
      cases h
      exact (ruleList_made hmakes patterns hinner hrules hlist).push
        fun id => hmakes.group id key name references
    cases reference with
    | some text =>
      rw [rule] at h
      cases h
      exact hrules.push fun id => hmakes.link id key name _
    | none =>
    cases pattern with
    | some source =>
      rw [rule] at h
      obtain ⟨compiled, hpattern, h⟩ := bind_eq_ok h
      obtain ⟨⟨map, row⟩, hmap, h⟩ := bind_eq_ok h
      cases h
      obtain ⟨hmap, hrow⟩ := captureMap_made hmakes captures hmakes.nothing hcaptures hrules hmap
      exact hrow.push fun id => hmakes.simple id key name source compiled map (hpatterns source rfl)
        hpattern hmap
    | none =>
    cases opening with
    | none =>
      rw [rule] at h
      · exact hgroup h
      · nofun
    | some begins =>
    cases closing with
    | none =>
      rw [rule] at h
      · exact hgroup h
      · nofun
    | some ends =>
      have hshared : MapMade budget Captures Good captures :=
        captureMap_made hmakes captures hmakes.nothing hcaptures
      rw [rule] at h
      obtain ⟨closing, hclosing, h⟩ := bind_eq_ok h
      obtain ⟨begin, hopening, h⟩ := bind_eq_ok h
      obtain ⟨openingMap, rules₁, hopeningMap, hrules₁, h⟩ := hshared.either
        (captureMap_made hmakes openingCaptures hmakes.nothing hfirst) hrules h
      obtain ⟨closingMap, rules₂, hclosingMap, hrules₂, h⟩ := hshared.either
        (captureMap_made hmakes closingCaptures hmakes.nothing hlast) hrules₁ h
      obtain ⟨⟨references, rules₃⟩, hlist, h⟩ := bind_eq_ok h
      cases h
      exact (ruleList_made hmakes patterns hinner hrules₂ hlist).push fun id =>
        hmakes.region id key name contentName begins ends _ (hopenings begins rfl) (hclosings ends rfl)
          hopening hclosing hopeningMap hclosingMap rfl

/-- So are the rules that a list of rules adds to a row. -/
theorem ruleList_made {budget : Nat} (hmakes : Makes Holds budget Captures Good) :
    ∀ (specs : List RuleSpec) {rules next : Array Rule} {references : List RuleRef},
      AllRules Holds specs → Row Good rules → ruleList budget specs rules = .ok (references, next) →
        Row Good next
  | [], rules, next, references, _, hrules, h => by
    rw [ruleList] at h
    cases h
    exact hrules
  | spec :: rest, rules, next, references, hall, hrules, h => by
    -- what is left to do once the first rule has become a reference
    have hafter {reference : RuleRef} {row : Array Rule} (hrow : Row Good row) (h : (do
        let (references, rules) ← ruleList budget rest row
        return (reference :: references, rules) : Except PatternError _) = .ok (references, next)) :
        Row Good next := by
      obtain ⟨⟨others, row'⟩, hrest, h⟩ := bind_eq_ok h
      cases h
      exact ruleList_made hmakes rest hall.2 hrow hrest
    rw [ruleList] at h
    split at h
    · exact hafter hrules h
    · obtain ⟨⟨id, row⟩, hrule, h⟩ := bind_eq_ok h
      exact hafter (rule_made hmakes none spec hall.1 hrules hrule) h

/-- So are the rules that a map of captures adds to a row, and the captures. -/
theorem captureMap_made {budget : Nat} (hmakes : Makes Holds budget Captures Good) :
    ∀ (entries : List (String × CaptureSpec RuleSpec)) {done : CaptureMap} {rules next : Array Rule}
      {map : CaptureMap}, Captures done → AllCaptures Holds entries → Row Good rules →
        captureMap budget entries done rules = .ok (map, next) → Captures map ∧ Row Good next
  | [], done, rules, next, map, hdone, _, hrules, h => by
    rw [captureMap] at h
    cases h
    exact ⟨hdone, hrules⟩
  | (key, ⟨name, patterns⟩) :: rest, done, rules, next, map, hdone, hall, hrules, h => by
    rw [captureMap] at h
    split at h
    · exact captureMap_made hmakes rest hdone hall.2 hrules h
    · split at h
      · exact captureMap_made hmakes rest (hmakes.insert done _ name none hdone) hall.2 hrules h
      · obtain ⟨⟨references, row⟩, hlist, h⟩ := bind_eq_ok h
        have hrow := (ruleList_made hmakes patterns hall.1 hrules hlist).push
          fun id => hmakes.group id none none references
        exact captureMap_made hmakes rest (hmakes.insert done _ name _ hdone) hall.2 hrow h

end

/-- So are the rules that the entries of a repository add to a row. -/
theorem entries_made {budget : Nat} (hmakes : Makes Holds budget Captures Good)
    (specs : List (String × RuleSpec)) (hall : ∀ entry ∈ specs, entry.2.All Holds)
    {names names' : List (String × RuleId)} {rules next : Array Rule} (hrules : Row Good rules)
    (h : entries budget specs names rules = .ok (names', next)) : Row Good next := by
  induction specs generalizing names rules with
  | nil =>
    cases h
    exact hrules
  | cons entry rest ih =>
    obtain ⟨id, row, hrule, hrest⟩ := entries_cons_eq_ok.mp h
    exact ih (fun other hother => hall other (List.mem_cons_of_mem _ hother))
      (rule_made hmakes (some entry.1) entry.2 (hall entry List.mem_cons_self) hrules hrule) hrest

/-- Compiling makes rules that know their positions, and have been compiled from texts of the grammar. -/
theorem makes_compiled (Holds : TextKind → String → Prop) (budget : Nat) :
    Makes Holds budget (fun _ => True) fun id rule =>
      rule.id = id ∧ FromSources Holds budget rule.kind where
  nothing := trivial
  insert _ _ _ _ _ := trivial
  link _ _ _ target := ⟨rfl, .link target⟩
  group _ _ _ patterns := ⟨rfl, .group patterns⟩
  simple _ _ _ _ _ captures hsource hpattern _ := ⟨rfl, .simple captures hsource hpattern⟩
  region _ _ _ _ _ _ _ hbegins hends hopening hclosing _ _ _ :=
    ⟨rfl, .region hbegins hends hopening hclosing⟩

end Compile

namespace Repository

variable {grammar : Grammar} {budget : Nat} {repository : Repository}

/-- **All rules of a repository are of the kind that compiling makes.** -/
theorem compile_made {Holds : TextKind → String → Prop} {Captures : CaptureMap → Prop}
    {Good : RuleId → Rule → Prop} (hmakes : Compile.Makes Holds budget Captures Good)
    (hall : grammar.All Holds) (h : compile grammar budget = .ok repository) :
    Compile.Row Good repository.rules := by
  obtain ⟨names, rules, patterns, next, firstLine, hentries, hpatterns, _, rfl⟩ := compile_eq_ok.mp h
  have hrules := Compile.entries_made hmakes grammar.repository hall.repository
    (fun _ _ hnone => by cases hnone) hentries
  exact (Compile.ruleList_made hmakes grammar.patterns hall.patterns hrules hpatterns).push
    fun id => hmakes.group id none (some grammar.scopeName) _

theorem compile_compiled {Holds : TextKind → String → Prop} (hall : grammar.All Holds)
    (h : compile grammar budget = .ok repository) :
    Compile.Compiled Holds budget repository.rules ∧ repository.budget = budget := by
  refine ⟨compile_made (Compile.makes_compiled Holds budget) hall h, ?_⟩
  obtain ⟨names, rules, patterns, next, firstLine, _, _, _, rfl⟩ := compile_eq_ok.mp h
  rfl

/-- **A rule of a compiled grammar is found under its own number.** -/
theorem compile_numbered {grammar : Grammar} {budget : Nat} {repository : Repository}
    (h : compile grammar budget = .ok repository) : Compile.Numbered repository.rules := by
  have hall : grammar.All fun _ _ => True := grammar.all_of_forall fun _ _ => trivial
  exact fun id rule hrule => ((compile_compiled hall h).1 id rule hrule).1

/-- **What a rule of a compiled grammar does has been compiled from texts of the grammar.** -/
theorem compile_fromSources {Holds : TextKind → String → Prop} (hall : grammar.All Holds)
    (h : compile grammar budget = .ok repository) {id : RuleId} {rule : Rule}
    (hrule : repository.rule? id = some rule) :
    Compile.FromSources Holds repository.budget rule.kind := by
  obtain ⟨hcompiled, hbudget⟩ := compile_compiled hall h
  rw [hbudget]
  exact (hcompiled id rule hrule).2

end Repository

end ScopeScanner
