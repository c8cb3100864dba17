import Mathlib.Logic.Relation
import ScopeScanner.Proofs.Repository.Flattening

/-!
# Rows in layers

A rule is put in the row when the rules written inside it, and the groups of its captures, are there
already. So a row is built in layers: each rule holds only positions before its own.

* **`Compile.rule_layers`**: compiling a rule keeps this (`Compile.Layered`), with the lists and maps of
  rules inside a rule by mutual recursion. What a list or a map of captures comes to holds positions of the
  row that there is then.
* **`Repository.compile_arena`**: so it is in the repository of any grammar that compiles, whose last rule
  stands for the top-level list, and whose names lead to the rules with these keys.
* **`Repository.Arena.not_transGen`**: no rule is written inside itself, at any depth.
* **`Repository.Arena.flattenWithin?_eq`**: flattening asks only for positions of the row.
-/

namespace ScopeScanner

/-! ## Positions that rules hold -/

/-- The groups of rules that captures hold. -/
def CaptureMap.rules (captures : CaptureMap) : List RuleId :=
  captures.filterMap fun entry => entry.2.rule

/-- The groups of rules that the captures of a rule hold. -/
def RuleKind.captureRules : RuleKind → List RuleId
  | simple _ captures => captures.rules
  | region inside => inside.openingCaptures.rules ++ inside.closingCaptures.rules
  | group _ | link _ => []

@[simp] theorem RuleKind.captureRules_group (patterns : List RuleRef) :
    (group patterns).captureRules = [] := rfl

@[simp] theorem RuleKind.captureRules_link (target : RuleRef) : (link target).captureRules = [] := rfl

/-- Adding a capture adds no group but its own. -/
theorem CaptureMap.mem_rules_insert {captures : CaptureMap} {number : Nat} {capture : Capture}
    {target : RuleId} (h : target ∈ (captures.insert number capture).rules) :
    capture.rule = some target ∨ target ∈ captures.rules := by
  induction captures with
  | nil => simpa [insert, rules] using h
  | cons entry rest ih =>
    rw [insert] at h
    simp only [rules, List.mem_filterMap] at h ih ⊢
    split at h
    · simpa [eq_comm] using h
    · split at h
      · simp only [List.mem_cons, exists_eq_or_imp] at h ⊢
        exact h.imp_right Or.inr
      · simp only [List.mem_cons, exists_eq_or_imp] at h ⊢
        rcases h with h | h
        · exact Or.inr (Or.inl h)
        · exact (ih h).imp_right Or.inr

namespace Compile

/-- There is a group at a position. -/
def IsGroup (rules : Array Rule) (id : RuleId) : Prop :=
  ∃ rule patterns, rules[id]? = some rule ∧ rule.kind = .group patterns

theorem IsGroup.lt_size {rules : Array Rule} {id : RuleId} (h : IsGroup rules id) : id < rules.size := by
  obtain ⟨rule, _, hrule, _⟩ := h
  exact (Array.getElem?_eq_some_iff.mp hrule).1

/-- What is in a row stays there when rules are put behind it. -/
theorem getElem?_append {rules block : Array Rule} {id : RuleId} {rule : Rule}
    (h : rules[id]? = some rule) : (rules ++ block)[id]? = some rule := by
  rw [Array.getElem?_append_left (Array.getElem?_eq_some_iff.mp h).1, h]

theorem IsGroup.append {rules block : Array Rule} {id : RuleId} (h : IsGroup rules id) :
    IsGroup (rules ++ block) id := by
  obtain ⟨rule, patterns, hrule, hkind⟩ := h
  exact ⟨rule, patterns, getElem?_append hrule, hkind⟩

/-- The rule at a position knows it, and holds only positions before it. Those that its captures hold are
positions of groups. -/
structure Layered (rules : Array Rule) (id : RuleId) (rule : Rule) : Prop where
  numbered : rule.id = id
  inlined : ∀ target, .inline target ∈ rule.references → target < id
  captured : ∀ target ∈ rule.kind.captureRules, target < id ∧ IsGroup rules target

/-- All rules of a row are layered. -/
def Layers (rules : Array Rule) : Prop :=
  Row (Layered rules) rules

/-- References that lead to positions of a row, as far as they hold positions. -/
def RefersInto (rules : Array Rule) (references : List RuleRef) : Prop :=
  ∀ target, .inline target ∈ references → target < rules.size

/-- Captures that hold positions of groups. -/
def CapturesInto (rules : Array Rule) (captures : CaptureMap) : Prop :=
  ∀ target ∈ captures.rules, IsGroup rules target

theorem CapturesInto.nil (rules : Array Rule) : CapturesInto rules [] := by
  simp [CapturesInto, CaptureMap.rules]

theorem RefersInto.append {rules block : Array Rule} {references : List RuleRef}
    (h : RefersInto rules references) : RefersInto (rules ++ block) references := by
  intro target hmem
  rw [Array.size_append]
  exact Nat.lt_add_right _ (h target hmem)

theorem CapturesInto.append {rules block : Array Rule} {captures : CaptureMap}
    (h : CapturesInto rules captures) : CapturesInto (rules ++ block) captures :=
  fun target hmem => (h target hmem).append

theorem CapturesInto.insert {rules : Array Rule} {captures : CaptureMap}
    (h : CapturesInto rules captures) {number : Nat} {capture : Capture}
    (hcapture : ∀ target, capture.rule = some target → IsGroup rules target) :
    CapturesInto rules (captures.insert number capture) := fun target hmem =>
  (CaptureMap.mem_rules_insert hmem).elim (hcapture target) (h target)

/-- A rule is put behind the row. -/
theorem push_rules (key : Option String) (scopes : List String) (kind : RuleKind) (rules : Array Rule) :
    (push key scopes kind rules).2 = rules ++ #[⟨rules.size, key, scopes, kind⟩] :=
  Array.push_eq_append

/-- A text is never parsed to a position. -/
theorem parseReference_ne_inline (text : String) (target : RuleId) :
    parseReference text ≠ .inline target := by
  rw [parseReference]
  split <;> simp

/-- One more rule that holds positions of the row. -/
theorem Layers.push {rules : Array Rule} (h : Layers rules) (key : Option String) (scopes : List String)
    {kind : RuleKind} (hreferences : RefersInto rules (Rule.mk rules.size key scopes kind).references)
    (hcaptures : ∀ target ∈ kind.captureRules, IsGroup rules target) :
    Layers (push key scopes kind rules).2 := by
  intro id rule hrule
  rw [push_rules]
  rw [Compile.push, Array.getElem?_push] at hrule
  split at hrule
  · next hid =>
    obtain rfl := Option.some.inj hrule
    exact ⟨hid.symm, fun target hmem => hid ▸ hreferences target hmem, fun target hmem =>
      ⟨hid ▸ (hcaptures target hmem).lt_size, (hcaptures target hmem).append⟩⟩
  · obtain ⟨hnumbered, hinlined, hcaptured⟩ := h id rule hrule
    exact ⟨hnumbered, hinlined, fun target hmem =>
      ⟨(hcaptured target hmem).1, (hcaptured target hmem).2.append⟩⟩

/-! ## Compiling in layers -/

section Layers

variable {budget : Nat} {rules next : Array Rule}

/-- What a rule does, and the row behind the rules written inside it. -/
inductive KindMade (budget : Nat) (spec : RuleSpec) (rules : Array Rule) : RuleKind → Array Rule → Prop
  | link (text : String) : KindMade budget spec rules (.link (parseReference text)) rules
  | simple (pattern : Pattern) {captures : CaptureMap} {row : Array Rule}
      (hcaptures : captureMap budget spec.captures [] rules = .ok (captures, row)) :
      KindMade budget spec rules (.simple pattern captures) row
  | region {inside : Region} {row row' next : Array Rule}
      {firsts lasts : List (String × CaptureSpec RuleSpec)}
      (hfirsts : firsts = spec.captures ∨ firsts = spec.openingCaptures)
      (hlasts : lasts = spec.captures ∨ lasts = spec.closingCaptures)
      (hopening : captureMap budget firsts [] rules = .ok (inside.openingCaptures, row))
      (hclosing : captureMap budget lasts [] row = .ok (inside.closingCaptures, row'))
      (hlist : ruleList budget spec.patterns row' = .ok (inside.patterns, next)) :
      KindMade budget spec rules (.region inside) next
  | group {references : List RuleRef} {row : Array Rule}
      (hlist : ruleList budget spec.patterns rules = .ok (references, row)) :
      KindMade budget spec rules (.group references) row

/-- Either end of a region has captures of its own, or those that both ends share. -/
theorem captures_either {shared own : List (String × CaptureSpec RuleSpec)} {α : Type} {result : α}
    {further : CaptureMap × Array Rule → Except PatternError α}
    (h : (if own.isEmpty then captureMap budget shared [] rules >>= further
      else captureMap budget own [] rules >>= further) = .ok result) :
    ∃ specs map row, (specs = shared ∨ specs = own) ∧ captureMap budget specs [] rules = .ok (map, row) ∧
      further (map, row) = .ok result := by
  split at h
  · obtain ⟨⟨map, row⟩, hmap, h⟩ := bind_eq_ok h
    exact ⟨shared, map, row, Or.inl rfl, hmap, h⟩
  · obtain ⟨⟨map, row⟩, hmap, h⟩ := bind_eq_ok h
    exact ⟨own, map, row, Or.inr rfl, hmap, h⟩

theorem group_eq_ok {key : Option String} {spec : RuleSpec} {id : RuleId} (h : (do
      let (references, rules) ← ruleList budget spec.patterns rules
      return push key (scopesOf spec.name) (.group references) rules : Except PatternError _) =
        .ok (id, next)) : ∃ kind row, KindMade budget spec rules kind row ∧
      id = row.size ∧ next = (push key (scopesOf spec.name) kind row).2 := by
  obtain ⟨⟨references, row⟩, hlist, h⟩ := bind_eq_ok h
  cases h
  exact ⟨_, row, .group hlist, rfl, rfl⟩

/-- A rule is put behind the rules written inside it. -/
theorem rule_eq_ok {key : Option String} {spec : RuleSpec} {id : RuleId}
    (h : rule budget key spec rules = .ok (id, next)) : ∃ kind row, KindMade budget spec rules kind row ∧
      id = row.size ∧ next = (push key (scopesOf spec.name) kind row).2 := by
  obtain ⟨reference, pattern, opening, closing, name, contentName, captures, openingCaptures,
    closingCaptures, patterns, closingLast, comment⟩ := spec
  cases reference with
  | some text =>
    rw [rule] at h
    cases h
    exact ⟨_, rules, .link text, rfl, rfl⟩
  | none =>
  cases pattern with
  | some source =>
    rw [rule] at h
    obtain ⟨compiled, hpattern, h⟩ := bind_eq_ok h
    obtain ⟨⟨map, row⟩, hmap, h⟩ := bind_eq_ok h
    cases h
    exact ⟨_, row, .simple compiled hmap, rfl, rfl⟩
  | none =>
  cases opening with
  | none =>
    rw [rule] at h
    · exact group_eq_ok h
    · simp
  | some begins =>
  cases closing with
  | none =>
    rw [rule] at h
    · exact group_eq_ok h
    · simp
  | some ends =>
    rw [rule] at h
    obtain ⟨closing, hclosing, h⟩ := bind_eq_ok h
    obtain ⟨begin, hopening, h⟩ := bind_eq_ok h
    obtain ⟨firsts, openingMap, row, hfirsts, hopenings, h⟩ := captures_either h
    obtain ⟨lasts, closingMap, row', hlasts, hclosings, h⟩ := captures_either h
    obtain ⟨⟨references, last⟩, hlist, h⟩ := bind_eq_ok h
    cases h
    exact ⟨_, last, .region hfirsts hlasts hopenings hclosings hlist, rfl, rfl⟩

/-- Compiling a list only puts rules behind the row, and so does compiling captures. -/
theorem ruleList_append {specs : List RuleSpec} {references : List RuleRef}
    (h : ruleList budget specs rules = .ok (references, next)) : ∃ block, next = rules ++ block := by
  obtain ⟨block, hblock, _⟩ := ruleList_relocates budget specs rules references next h
  exact ⟨block, hblock⟩

theorem captureMap_append {specs : List (String × CaptureSpec RuleSpec)} {done map : CaptureMap}
    (h : captureMap budget specs done rules = .ok (map, next)) : ∃ block, next = rules ++ block := by
  have hsame : captureMap budget specs (done.renumbered id) rules = .ok (map, next) := by
    rw [CaptureMap.renumbered_id, h]
  obtain ⟨block, hblock, _⟩ := captureMap_relocates budget specs done rules map next hsame
  exact ⟨block, hblock⟩

mutual

/-- **A rule is put on top of layers.** -/
theorem rule_layers : ∀ (key : Option String) (spec : RuleSpec) {rules next : Array Rule} {id : RuleId},
    Layers rules → rule budget key spec rules = .ok (id, next) →
      Layers next ∧ ∃ compiled, next[id]? = some compiled ∧ compiled.key = key
  | key, ⟨reference, pattern, opening, closing, name, contentName, captures, openingCaptures,
      closingCaptures, patterns, closingLast, comment⟩, rules, next, id, hrules, h => by
    obtain ⟨kind, row, hmade, rfl, rfl⟩ := rule_eq_ok h
    refine ⟨?_, _, push_get key _ kind row, rfl⟩
    cases hmade with
    | link text =>
      refine hrules.push key _ (fun target hmem => ?_) (by simp)
      exact absurd (List.mem_singleton.mp hmem).symm (parseReference_ne_inline text target)
    | simple compiled hcaptures =>
      obtain ⟨hrow, hmap⟩ := captureMap_layers captures (.nil _) hrules hcaptures
      exact hrow.push key _ nofun hmap
    | group hlist =>
      obtain ⟨hrow, hreferences⟩ := ruleList_layers patterns hrules hlist
      exact hrow.push key _ hreferences (by simp)
    | @region inside row₁ row₂ row₃ firsts lasts hfirsts hlasts hopening hclosing hlist =>
      -- the captures of either end come first, and stay where they are
      have hfirst : Layers row₁ ∧ CapturesInto row₁ inside.openingCaptures := by
        rcases hfirsts with heq | heq <;> rw [heq] at hopening
        · exact captureMap_layers captures (.nil _) hrules hopening
        · exact captureMap_layers openingCaptures (.nil _) hrules hopening
      have hlast : Layers row₂ ∧ CapturesInto row₂ inside.closingCaptures := by
        rcases hlasts with heq | heq <;> rw [heq] at hclosing
        · exact captureMap_layers captures (.nil _) hfirst.1 hclosing
        · exact captureMap_layers closingCaptures (.nil _) hfirst.1 hclosing
      obtain ⟨hrow, hreferences⟩ := ruleList_layers patterns hlast.1 hlist
      obtain ⟨block, rfl⟩ := captureMap_append hclosing
      obtain ⟨block', rfl⟩ := ruleList_append hlist
      refine hrow.push key _ hreferences fun target hmem => ?_
      rcases List.mem_append.mp hmem with hmem | hmem
      · exact hfirst.2.append.append target hmem
      · exact hlast.2.append target hmem

/-- A list of rules is put on top of layers, and refers to positions of the row. -/
theorem ruleList_layers : ∀ (specs : List RuleSpec) {rules next : Array Rule} {references : List RuleRef},
    Layers rules → ruleList budget specs rules = .ok (references, next) →
      Layers next ∧ RefersInto next references
  | [], rules, next, references, hrules, h => by
    rw [ruleList] at h
    cases h
    exact ⟨hrules, nofun⟩
  | spec :: rest, rules, next, references, hrules, h => by
    -- what is left to do once the first rule has become a reference
    have hafter {reference : RuleRef} {row : Array Rule} (hrow : Layers row)
        (hfirst : RefersInto row [reference]) (h : (do
          let (references, rules) ← ruleList budget rest row
          return (reference :: references, rules) : Except PatternError _) = .ok (references, next)) :
        Layers next ∧ RefersInto next references := by
      obtain ⟨⟨others, row'⟩, hrest, h⟩ := bind_eq_ok h
      cases h
      obtain ⟨hnext, hothers⟩ := ruleList_layers rest hrow hrest
      obtain ⟨block, rfl⟩ := ruleList_append hrest
      refine ⟨hnext, fun target hmem => ?_⟩
      rcases List.mem_cons.mp hmem with heq | hmem
      · exact hfirst.append target (List.mem_singleton.mpr heq)
      · exact hothers target hmem
    rw [ruleList] at h
    split at h
    · next text _ _ =>
      refine hafter hrules (fun target hmem => ?_) h
      exact absurd (List.mem_singleton.mp hmem).symm (parseReference_ne_inline text target)
    · obtain ⟨⟨id, row⟩, hrule, h⟩ := bind_eq_ok h
      obtain ⟨hrow, compiled, hcompiled, _⟩ := rule_layers none spec hrules hrule
      refine hafter hrow (fun target hmem => ?_) h
      obtain rfl := RuleRef.inline.inj (List.mem_singleton.mp hmem)
      exact (Array.getElem?_eq_some_iff.mp hcompiled).1

/-- A map of captures is put on top of layers, and holds groups of the row. -/
theorem captureMap_layers : ∀ (specs : List (String × CaptureSpec RuleSpec)) {done map : CaptureMap}
    {rules next : Array Rule}, CapturesInto rules done → Layers rules →
      captureMap budget specs done rules = .ok (map, next) → Layers next ∧ CapturesInto next map
  | [], done, map, rules, next, hdone, hrules, h => by
    rw [captureMap] at h
    cases h
    exact ⟨hrules, hdone⟩
  | (key, ⟨name, patterns⟩) :: rest, done, map, rules, next, hdone, hrules, h => by
    rw [captureMap] at h
    split at h
    · exact captureMap_layers rest hdone hrules h
    · split at h
      · exact captureMap_layers rest (hdone.insert (by simp)) hrules h
      · obtain ⟨⟨references, row⟩, hlist, h⟩ := bind_eq_ok h
        obtain ⟨hrow, hreferences⟩ := ruleList_layers patterns hrules hlist
        obtain ⟨block, rfl⟩ := ruleList_append hlist
        have hgroup : IsGroup (push none [] (.group references) (rules ++ block)).2
            (rules ++ block).size := ⟨_, references, push_get none [] _ _, rfl⟩
        have hlast : Layers (push none [] (.group references) (rules ++ block)).2 :=
          hrow.push none [] hreferences (by simp)
        refine captureMap_layers rest ?_ hlast h
        refine CapturesInto.insert ?_ ?_
        · rw [push_rules]
          exact hdone.append.append
        · rintro target ⟨⟩
          exact hgroup

end

/-- Each name leads to the rule with this key. -/
def Keyed (names : List (String × RuleId)) (rules : Array Rule) : Prop :=
  ∀ name id, names.lookup name = some id → ∃ rule, rules[id]? = some rule ∧ rule.key = some name

theorem Keyed.append {names : List (String × RuleId)} {rules block : Array Rule}
    (h : Keyed names rules) : Keyed names (rules ++ block) := by
  intro name id hname
  obtain ⟨rule, hrule, hkey⟩ := h name id hname
  exact ⟨rule, getElem?_append hrule, hkey⟩

theorem Keyed.insert {names : List (String × RuleId)} {rules : Array Rule} (h : Keyed names rules)
    {key : String} {id : RuleId} {compiled : Rule} (hrule : rules[id]? = some compiled)
    (hkey : compiled.key = some key) : Keyed (insertEntry names key id) rules := by
  intro name other hname
  rw [lookup_insertEntry] at hname
  split at hname
  · next heq =>
    obtain rfl := Option.some.inj hname
    exact ⟨compiled, hrule, heq ▸ hkey⟩
  · exact h name other hname

/-- The entries of a repository are put on top of layers, and each is found under its key. -/
theorem entries_layers (specs : List (String × RuleSpec)) {names names' : List (String × RuleId)}
    {rules next : Array Rule} (hrules : Layers rules) (hnames : Keyed names rules)
    (h : entries budget specs names rules = .ok (names', next)) :
    Layers next ∧ Keyed names' next ∧ ∀ key, (names'.lookup key).isSome = true ↔
      (names.lookup key).isSome = true ∨ key ∈ specs.map (·.1) := by
  induction specs generalizing names rules with
  | nil =>
    cases h
    exact ⟨hrules, hnames, by simp⟩
  | cons entry rest ih =>
    obtain ⟨id, row, hrule, hrest⟩ := entries_cons_eq_ok.mp h
    obtain ⟨hrow, compiled, hcompiled, hkey⟩ := rule_layers (some entry.1) entry.2 hrules hrule
    obtain ⟨block, rfl, _⟩ := rule_relocates budget (some entry.1) entry.2 rules id row hrule
    obtain ⟨hnext, hkeyed, hkeys⟩ := ih hrow (hnames.append.insert hcompiled hkey) hrest
    refine ⟨hnext, hkeyed, fun key => ?_⟩
    rw [hkeys, lookup_insertEntry, List.map_cons, List.mem_cons]
    by_cases hfirst : key = entry.1
    · simp [hfirst]
    · simp [hfirst]

end Layers

end Compile

namespace Repository

/-! ## Repositories in layers -/

/-- A row of rules in which each rule knows its position and holds only positions before it, those of its
captures being positions of groups. The last rule is the group of the top-level list, and each name leads
to the rule with this key. -/
structure Arena (repository : Repository) : Prop where
  numbered : ∀ id rule, repository.rule? id = some rule → rule.id = id
  inlined : ∀ id rule, repository.rule? id = some rule →
    ∀ target, .inline target ∈ rule.references → target < id
  captured : ∀ id rule, repository.rule? id = some rule → ∀ target ∈ rule.kind.captureRules,
    target < id ∧ ∃ patterns, repository.kind? target = some (.group patterns)
  root : ∃ patterns, repository.kind? repository.root = some (.group patterns)
  last : ∀ id rule, repository.rule? id = some rule → id ≤ repository.root
  named : ∀ name id, repository.names.lookup name = some id →
    ∃ rule, repository.rule? id = some rule ∧ rule.key = some name

variable {grammar : Grammar} {budget : Nat} {repository : Repository}

/-- **A grammar is compiled to a row in layers**, and the names are the keys of its repository. -/
theorem compile_arena (h : compile grammar budget = .ok repository) : repository.Arena ∧
    ∀ key, (repository.names.lookup key).isSome = true ↔ key ∈ grammar.repository.map (·.1) := by
  obtain ⟨names, rules, patterns, next, firstLine, hentries, hpatterns, _, rfl⟩ := compile_eq_ok.mp h
  obtain ⟨hrules, hnames, hkeys⟩ :=
    Compile.entries_layers grammar.repository (fun _ _ hnone => by cases hnone)
      (fun _ _ hnone => by cases hnone) hentries
  obtain ⟨hnext, hreferences⟩ := Compile.ruleList_layers grammar.patterns hrules hpatterns
  obtain ⟨block, rfl⟩ := Compile.ruleList_append hpatterns
  have hlast : Compile.Layers (Compile.push none (Compile.scopesOf (some grammar.scopeName))
      (.group patterns) (rules ++ block)).2 := hnext.push none _ hreferences (by simp)
  have hroot := Compile.push_get none (Compile.scopesOf (some grammar.scopeName)) (.group patterns)
    (rules ++ block)
  refine ⟨⟨fun id rule hrule => (hlast id rule hrule).numbered,
    fun id rule hrule => (hlast id rule hrule).inlined, fun id rule hrule target hmem => ?_,
    ⟨patterns, ?_⟩, fun id rule hrule => ?_, ?_⟩, by simpa using hkeys⟩
  · obtain ⟨hlt, group, references, hgroup, hkind⟩ := (hlast id rule hrule).captured target hmem
    exact ⟨hlt, references, by rw [kind?, rule?, hgroup, Option.map_some, hkind]⟩
  · rw [kind?, rule?]
    exact congrArg (Option.map Rule.kind) hroot
  · have hlt := (Array.getElem?_eq_some_iff.mp hrule).1
    rw [Compile.push, Array.size_push] at hlt
    exact Nat.le_of_lt_succ hlt
  · rw [Compile.push_rules]
    exact hnames.append.append

/-- The rule at one position is written inside the rule at another one: in its list of rules, or in the
group of a capture. -/
def Inside (repository : Repository) (inner outer : RuleId) : Prop :=
  ∃ rule, repository.rule? outer = some rule ∧
    (.inline inner ∈ rule.references ∨ inner ∈ rule.kind.captureRules)

/-- The position that a reference leads to, if it leads to any. -/
def target? (repository : Repository) : RuleRef → Option RuleId
  | .named name => repository.names.lookup name
  | .root => some repository.root
  | .inline id => some id

/-- A rule is looked up at the position that its reference leads to. -/
theorem lookup?_eq (repository : Repository) (reference : RuleRef) :
    repository.lookup? reference = (repository.target? reference).bind repository.rule? := by
  cases reference <;> rfl

end Repository

/-! ## Flattening inside the row -/

/-- Collects the rules reachable from a list as `Flat.expand` does, but gives up at a position where there is
no rule. -/
def Flat.expandWithin? (repository : Repository) : (fuel : Nat) → List RuleRef → Flat → Option Flat
  | 0, _, flat => some flat
  | fuel + 1, references, flat =>
    references.foldlM
      (fun flat reference =>
        match repository.target? reference with
        | none => some flat
        | some id => do
          let rule ← repository.rule? id
          if rule.isContainer then
            if rule.id ∈ flat.entered then some flat
            else expandWithin? repository fuel rule.references (flat.enter rule.id)
          else some (flat.collect rule.id))
      flat

/-- What is in front of a list is seen to first. -/
theorem Flat.expandWithin?_cons {repository : Repository} (fuel : Nat) (reference : RuleRef)
    (rest : List RuleRef) (flat : Flat) :
    expandWithin? repository (fuel + 1) (reference :: rest) flat =
      (match repository.target? reference with
        | none => some flat
        | some id => (repository.rule? id).bind fun rule =>
          if rule.isContainer then
            if rule.id ∈ flat.entered then some flat
            else expandWithin? repository fuel rule.references (flat.enter rule.id)
          else some (flat.collect rule.id)).bind
        (expandWithin? repository (fuel + 1) rest) := by
  rw [expandWithin?, List.foldlM_cons]
  refine congrArg (Option.bind _) (funext fun flat => ?_)
  rw [expandWithin?]

namespace Repository

/-- The flattened list of a rule, unless a position is met where there is no rule. -/
def flattenWithin? (repository : Repository) (id : RuleId) : Option (List RuleId) := do
  let rule ← repository.rule? id
  let flat ← Flat.expandWithin? repository (repository.rules.size + 1) rule.patterns { entered := [id] }
  return flat.rules.reverse

/-- The references there are: by name, to the root, and those by position that rules hold. -/
def Held (repository : Repository) (reference : RuleRef) : Prop :=
  ∀ target, reference = .inline target →
    ∃ holder rule, repository.rule? holder = some rule ∧ reference ∈ rule.references

/-- References that lead to positions of the row, if they lead to any. -/
def LeadsInto (repository : Repository) (references : List RuleRef) : Prop :=
  ∀ reference ∈ references, ∀ id, repository.target? reference = some id → id < repository.rules.size

variable {repository : Repository}

theorem lt_size_of_rule? {id : RuleId} {rule : Rule} (h : repository.rule? id = some rule) :
    id < repository.rules.size :=
  (Array.getElem?_eq_some_iff.mp h).1

theorem lt_size_of_kind? {id : RuleId} {kind : RuleKind} (h : repository.kind? id = some kind) :
    id < repository.rules.size := by
  obtain ⟨rule, hrule, _⟩ := Option.map_eq_some_iff.mp h
  exact lt_size_of_rule? hrule

/-- What is in the list of a rule is among its references. -/
theorem patterns_subset_references (rule : Rule) : rule.patterns ⊆ rule.references := by
  intro reference hmem
  rw [Rule.patterns] at hmem
  rw [Rule.references]
  cases hkind : rule.kind <;> simp_all

namespace Arena

variable (h : repository.Arena)
include h

theorem lt_of_inside {inner outer : RuleId} (hinside : repository.Inside inner outer) :
    inner < outer := by
  obtain ⟨rule, hrule, hinline | hcapture⟩ := hinside
  · exact h.inlined outer rule hrule inner hinline
  · exact (h.captured outer rule hrule inner hcapture).1

/-- **No rule is written inside itself**, at any depth. -/
theorem not_transGen (id : RuleId) : ¬ Relation.TransGen repository.Inside id id := by
  have hlt {inner outer : RuleId} (hinside : Relation.TransGen repository.Inside inner outer) :
      inner < outer := by
    induction hinside with
    | single hinside => exact h.lt_of_inside hinside
    | tail _ hinside ih => exact Nat.lt_trans ih (h.lt_of_inside hinside)
  exact fun hcycle => Nat.lt_irrefl id (hlt hcycle)

theorem root_lt : repository.root < repository.rules.size := by
  obtain ⟨patterns, hroot⟩ := h.root
  exact lt_size_of_kind? hroot

/-- What flattening lists are positions of the row. -/
theorem lt_of_mem_flatten {id other : RuleId} (hmem : other ∈ repository.flatten id) :
    other < repository.rules.size := by
  have hnumbered : Compile.Numbered repository.rules := h.numbered
  rw [flatten, List.mem_reverse] at hmem
  have hwalk := Flat.expand_collects hnumbered (repository.rules.size + 1)
    ((repository.rule? id).elim [] Rule.patterns) { entered := [id] }
    (Nat.lt_succ_of_le ((Finset.card_le_card Finset.sdiff_subset).trans_eq (Finset.card_range _)))
  rcases hwalk.sound false hmem with hnone | ⟨rule, hrule, _, rfl⟩
  · cases hnone
  · exact lt_size_of_rule? (hrule.rule?_id hnumbered)

/-- A reference leads to a position of the row. -/
theorem lt_of_target? {reference : RuleRef} (hheld : repository.Held reference) {id : RuleId}
    (htarget : repository.target? reference = some id) : id < repository.rules.size := by
  cases reference with
  | named name =>
    obtain ⟨found, hfound, _⟩ := h.named name id htarget
    exact lt_size_of_rule? hfound
  | root =>
    obtain rfl := Option.some.inj htarget
    exact h.root_lt
  | inline inner =>
    obtain rfl := Option.some.inj htarget
    obtain ⟨holder, rule, hrule, hmem⟩ := hheld inner rfl
    exact Nat.lt_trans (h.inlined holder rule hrule inner hmem) (lt_size_of_rule? hrule)

/-- **A lookup finds the rule that its reference leads to.** -/
theorem lookup?_found {reference : RuleRef} (hheld : repository.Held reference) {id : RuleId}
    (htarget : repository.target? reference = some id) :
    ∃ rule, repository.lookup? reference = some rule ∧ rule.id = id := by
  have hlt := h.lt_of_target? hheld htarget
  have hrule : repository.rule? id = some repository.rules[id] := Array.getElem?_eq_getElem hlt
  refine ⟨_, ?_, h.numbered id _ hrule⟩
  rw [lookup?_eq, htarget, Option.bind_some, hrule]

/-- The references of a rule lead to positions of the row. -/
theorem leadsInto {id : RuleId} {rule : Rule} (hrule : repository.rule? id = some rule) :
    repository.LeadsInto rule.references := fun _ hmem _ htarget =>
  h.lt_of_target? (fun _ _ => ⟨id, rule, hrule, hmem⟩) htarget

/-- By induction on the levels entered, and on the list within a level: what is entered holds references of
a rule. -/
theorem expandWithin?_eq (fuel : Nat) : ∀ (references : List RuleRef) (flat : Flat),
    repository.LeadsInto references → Flat.expandWithin? repository fuel references flat =
      some (Flat.expand repository fuel references flat) := by
  induction fuel with
  | zero => exact fun _ _ _ => rfl
  | succ fuel ihFuel =>
    intro references flat hreferences
    induction references generalizing flat with
    | nil => rfl
    | cons reference rest ih =>
      have hrest := fun flat => ih flat fun other hother =>
        hreferences other (List.mem_cons_of_mem _ hother)
      rw [Flat.expandWithin?_cons, Flat.expand_cons, lookup?_eq]
      cases htarget : repository.target? reference with
      | none => exact hrest flat
      | some id =>
        have hlt := hreferences reference List.mem_cons_self id htarget
        have hrule : repository.rule? id = some repository.rules[id] := Array.getElem?_eq_getElem hlt
        dsimp only [Option.bind_some]
        rw [hrule]
        dsimp only [Option.bind_some]
        split
        · split
          · exact hrest flat
          · rw [ihFuel _ _ (h.leadsInto hrule)]
            exact hrest _
        · exact hrest _

/-- **Flattening the list of a rule asks only for positions of the row.** -/
theorem flattenWithin?_eq {id : RuleId} (hid : id < repository.rules.size) :
    repository.flattenWithin? id = some (repository.flatten id) := by
  have hrule : repository.rule? id = some repository.rules[id] := Array.getElem?_eq_getElem hid
  have hpatterns : repository.LeadsInto repository.rules[id].patterns := fun reference hmem =>
    h.leadsInto hrule reference (patterns_subset_references _ hmem)
  rw [flattenWithin?, flatten, hrule]
  dsimp only [Option.bind_eq_bind, Option.bind_some, Option.elim_some]
  rw [h.expandWithin?_eq _ _ _ hpatterns]
  rfl

end Arena

end Repository

end ScopeScanner
