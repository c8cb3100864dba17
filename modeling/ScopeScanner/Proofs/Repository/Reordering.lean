import ScopeScanner.Proofs.Document.Distinct
import ScopeScanner.Proofs.Repository.Compilation
import ScopeScanner.Proofs.Repository.Relocation

/-!
# Repositories in another order

If the entries of the repository of a grammar are compiled in another order, the same rules come about
at other positions:

* `Compile.entries_swap`: two entries that follow each other may be exchanged, which exchanges their
  blocks of rules.
* **`Compile.entries_perm`**: so the entries may come in any order, by induction on permutations.
* **`Repository.compile_reordered`**: the grammar compiles to the same repository, renumbered.
-/

namespace ScopeScanner

theorem RuleRef.renumbered_comp (move move' : RuleId → RuleId) :
    RuleRef.renumbered (move' ∘ move) = RuleRef.renumbered move' ∘ RuleRef.renumbered move := by
  funext reference
  cases reference with
  | named name => rfl
  | root => rfl
  | inline id => rfl

theorem CaptureMap.renumbered_comp (move move' : RuleId → RuleId) (captures : CaptureMap) :
    captures.renumbered (move' ∘ move) = (captures.renumbered move).renumbered move' := by
  simp [renumbered, Capture.renumbered]

theorem Rule.renumbered_comp (move move' : RuleId → RuleId) (rule : Rule) :
    rule.renumbered (move' ∘ move) = (rule.renumbered move).renumbered move' := by
  have hkind : rule.kind.renumbered (move' ∘ move) = (rule.kind.renumbered move).renumbered move' := by
    cases rule.kind with
    | simple => simp [RuleKind.renumbered, CaptureMap.renumbered_comp]
    | region => simp [RuleKind.renumbered, Region.renumbered, CaptureMap.renumbered_comp,
        RuleRef.renumbered_comp]
    | group => simp [RuleKind.renumbered, RuleRef.renumbered_comp]
    | link => simp [RuleKind.renumbered, RuleRef.renumbered_comp]
  unfold Rule.renumbered
  rw [hkind]
  rfl

namespace Compile

/-- What compiling a repository has come to: the names that are known, and the row of rules. -/
abbrev Progress := List (String × RuleId) × Array Rule

/-- The first of some entries is compiled before the others. -/
theorem entries_cons_eq_ok {budget : Nat} {entry : String × RuleSpec}
    {rest : List (String × RuleSpec)} {names : List (String × RuleId)} {rules : Array Rule}
    {finish : Progress} : entries budget (entry :: rest) names rules = .ok finish ↔
      ∃ id next, rule budget (some entry.1) entry.2 rules = .ok (id, next) ∧
        entries budget rest (insertEntry names entry.1 id) next = .ok finish := by
  rw [entries]
  cases rule budget (some entry.1) entry.2 rules with
  | error error => simp [bind, Except.bind]
  | ok compiled =>
    constructor
    · intro hrest
      exact ⟨compiled.1, compiled.2, rfl, hrest⟩
    · rintro ⟨id, next, ⟨⟩, hrest⟩
      exact hrest

/-- The second row holds the rules of the first one at other positions, and the names follow them. -/
structure Renumbered (move : RuleId → RuleId) (progress progress' : Progress) : Prop where
  injective : Function.Injective move
  beyond : ∀ id, progress.2.size ≤ id → move id = id
  size : progress'.2.size = progress.2.size
  rules : ∀ id, progress'.2[move id]? = progress.2[id]?.map (Rule.renumbered move)
  names : ∀ name, progress'.1.lookup name = (progress.1.lookup name).map move

namespace Renumbered

variable {move move' : RuleId → RuleId} {progress progress' progress'' : Progress}

theorem refl (progress : Progress) : Renumbered id progress progress where
  injective := fun _ _ h => h
  beyond := fun _ _ => rfl
  size := rfl
  rules := by simp
  names := by simp

theorem trans (h : Renumbered move progress progress') (h' : Renumbered move' progress' progress'') :
    Renumbered (move' ∘ move) progress progress'' where
  injective := h'.injective.comp h.injective
  beyond := by
    intro id hid
    rw [Function.comp_apply, h.beyond id hid]
    exact h'.beyond id (h.size ▸ hid)
  size := h'.size.trans h.size
  rules := by
    intro id
    rw [Function.comp_apply, h'.rules, h.rules, Option.map_map]
    congr 1
    funext rule
    exact (rule.renumbered_comp move move').symm
  names := by
    intro name
    rw [h'.names, h.names, Option.map_map]

theorem lt_size (h : Renumbered move progress progress') {id : RuleId} (hid : id < progress.2.size) :
    move id < progress.2.size := by
  have hrule := h.rules id
  rw [Array.getElem?_eq_getElem hid] at hrule
  obtain ⟨hlt, _⟩ := Array.getElem?_eq_some_iff.mp hrule
  exact h.size ▸ hlt

variable {names names' : List (String × RuleId)} {rules rules' : Array Rule}

/-- What is compiled onto both rows is the same, renumbered: its rules come to the same positions. -/
theorem compiled {α : Type} {renumbered : (RuleId → RuleId) → α → α}
    {compile : (RuleId → RuleId) → Array Rule → Except PatternError (α × Array Rule)}
    (h : Renumbered move (names, rules) (names', rules')) (hrelocates : Relocates renumbered compile)
    {result : α} {next : Array Rule} (hcompile : compile id rules = .ok (result, next)) :
    ∃ next', compile move rules' = .ok (renumbered move result, next') ∧
      Renumbered move (names, next) (names', next') := by
  obtain ⟨block, rfl, hmoved⟩ := hrelocates rules result next hcompile
  have hsize : rules'.size = rules.size := h.size
  have hbeyond (id : RuleId) (hid : rules.size ≤ id) : move id = id := h.beyond id hid
  refine ⟨_, hmoved move rules' ?_, h.injective, ?_, ?_, ?_, h.names⟩
  · intro i _
    rw [hbeyond _ (by omega), hsize]
  · intro id hid
    rw [Array.size_append] at hid
    exact hbeyond id (by omega)
  · rw [Array.size_append, Array.size_append, Array.size_map, hsize]
  · intro id
    dsimp only
    -- positions of the old row stay inside it, and the block behind it is the same in both
    by_cases hid : id < rules.size
    · have hmove : move id < rules'.size := hsize ▸ h.lt_size hid
      rw [Array.getElem?_append_left hmove, Array.getElem?_append_left hid]
      exact h.rules id
    · have hge : rules.size ≤ id := Nat.le_of_not_lt hid
      rw [hbeyond id hge, Array.getElem?_append_right (by omega), Array.getElem?_append_right hge,
        hsize, Array.getElem?_map]

theorem insert (h : Renumbered move (names, rules) (names', rules')) (key : String) (id : RuleId) :
    Renumbered move (insertEntry names key id, rules) (insertEntry names' key (move id), rules') where
  injective := h.injective
  beyond := h.beyond
  size := h.size
  rules := h.rules
  names := by
    intro name
    dsimp only
    rw [lookup_insertEntry, lookup_insertEntry]
    split
    · rfl
    · exact h.names name

theorem entries {budget : Nat} (specs : List (String × RuleSpec)) {finish : Progress}
    (h : Renumbered move (names, rules) (names', rules'))
    (hcompile : Compile.entries budget specs names rules = .ok finish) :
    ∃ finish', Compile.entries budget specs names' rules' = .ok finish' ∧
      Renumbered move finish finish' := by
  induction specs generalizing names names' rules rules' with
  | nil =>
    cases hcompile
    exact ⟨_, rfl, h⟩
  | cons entry rest ih =>
    obtain ⟨id, next, hrule, hrest⟩ := entries_cons_eq_ok.mp hcompile
    obtain ⟨next', hrule', hnext⟩ := h.compiled (rule_relocates budget (some entry.1) entry.2) hrule
    obtain ⟨finish', hrest', hfinish⟩ := ih (hnext.insert entry.1 id) hrest
    exact ⟨finish', entries_cons_eq_ok.mpr ⟨move id, next', hrule', hrest'⟩, hfinish⟩

end Renumbered

/-- All positions that rules and names hold are positions of the row: a renumbering that leaves these
alone changes nothing. -/
def Settled (progress : Progress) : Prop :=
  ∀ move : RuleId → RuleId, (∀ id < progress.2.size, move id = id) →
    progress.2.map (Rule.renumbered move) = progress.2 ∧
      ∀ name id, progress.1.lookup name = some id → move id = id

/-- Exchanges two blocks of positions that follow each other. -/
def exchanged (start first second : Nat) (id : Nat) : Nat :=
  if id < start then id
  else if id < start + first then id + second
  else if id < start + first + second then id - first
  else id

section Exchanged

variable {start first second : Nat}

theorem exchanged_before {id : Nat} (h : id < start) : exchanged start first second id = id :=
  if_pos h

theorem exchanged_first {i : Nat} (h : i < first) :
    exchanged start first second (start + i) = start + second + i := by
  unfold exchanged
  rw [if_neg (by omega), if_pos (by omega)]
  omega

theorem exchanged_second {i : Nat} (h : i < second) :
    exchanged start first second (start + first + i) = start + i := by
  unfold exchanged
  rw [if_neg (by omega), if_neg (by omega), if_pos (by omega)]
  omega

theorem exchanged_beyond {id : Nat} (h : start + first + second ≤ id) :
    exchanged start first second id = id := by
  unfold exchanged
  rw [if_neg (by omega), if_neg (by omega), if_neg (by omega)]

theorem exchanged_injective : Function.Injective (exchanged start first second) := by
  intro id id' h
  unfold exchanged at h
  grind

end Exchanged

/-- Two blocks of rules that follow each other, exchanged. -/
theorem getElem?_exchanged {rules block block' : Array Rule} {move : RuleId → RuleId}
    (hmove : move = exchanged rules.size block.size block'.size)
    (hrules : rules.map (Rule.renumbered move) = rules) (id : RuleId) :
    (rules ++ block'.map (Rule.renumbered move) ++ block.map (Rule.renumbered move))[move id]? =
      (rules ++ block ++ block')[id]?.map (Rule.renumbered move) := by
  have hsize : (rules ++ block).size = rules.size + block.size := Array.size_append
  have hsize' : (rules ++ block'.map (Rule.renumbered move)).size = rules.size + block'.size := by
    rw [Array.size_append, Array.size_map]
  rcases Nat.lt_or_ge id rules.size with hbefore | hfirst
  · have hsame : rules[id]?.map (Rule.renumbered move) = rules[id]? := by
      rw [← Array.getElem?_map, hrules]
    rw [hmove, exchanged_before hbefore, ← hmove, Array.getElem?_append_left (by omega),
      Array.getElem?_append_left hbefore, Array.getElem?_append_left (by omega),
      Array.getElem?_append_left hbefore, hsame]
  obtain ⟨i, rfl⟩ := Nat.exists_eq_add_of_le hfirst
  rcases Nat.lt_or_ge i block.size with hin | hsecond
  · rw [hmove, exchanged_first hin, ← hmove, Array.getElem?_append_right (by omega), hsize',
      Nat.add_sub_cancel_left, Array.getElem?_append_left (by omega),
      Array.getElem?_append_right (by omega), Nat.add_sub_cancel_left, Array.getElem?_map]
  obtain ⟨i, rfl⟩ := Nat.exists_eq_add_of_le hsecond
  rw [← Nat.add_assoc]
  rcases Nat.lt_or_ge i block'.size with hin | hbeyond
  · rw [hmove, exchanged_second hin, ← hmove, Array.getElem?_append_left (by omega),
      Array.getElem?_append_right (by omega), Nat.add_sub_cancel_left,
      Array.getElem?_append_right (by omega), hsize, Nat.add_sub_cancel_left, Array.getElem?_map]
  · rw [hmove, exchanged_beyond (by omega), ← hmove,
      Array.getElem?_eq_none (by rw [Array.size_append, hsize', Array.size_map]; omega),
      Array.getElem?_eq_none (by rw [Array.size_append, hsize]; omega), Option.map_none]

/-- One more entry leaves what has been compiled settled. -/
theorem Settled.entry {budget : Nat} {key : String} {spec : RuleSpec}
    {names : List (String × RuleId)} {rules next : Array Rule} {id : RuleId}
    (h : Settled (names, rules)) (hcompile : rule budget (some key) spec rules = .ok (id, next)) :
    Settled (insertEntry names key id, next) := by
  obtain ⟨block, rfl, hmoved⟩ := rule_relocates budget (some key) spec rules id next hcompile
  intro move hfixed
  dsimp only at hfixed ⊢
  rw [Array.size_append] at hfixed
  obtain ⟨hrules, hnames⟩ := h move fun i hi => hfixed i (Nat.lt_add_right _ hi)
  -- compiled onto the same row once more, the rule has to be the same
  have hagain : rule budget (some key) spec rules =
      .ok (move id, rules ++ block.map (Rule.renumbered move)) :=
    hmoved move rules fun i hi => hfixed _ (Nat.add_lt_add_left hi _)
  rw [hcompile] at hagain
  obtain ⟨hid, hblock⟩ := Prod.mk.inj (Except.ok.inj hagain)
  refine ⟨?_, ?_⟩
  · rw [Array.map_append, hrules]
    exact hblock.symm
  · intro name other hother
    rw [lookup_insertEntry] at hother
    split at hother
    · obtain rfl := Option.some.inj hother
      exact hid.symm
    · exact hnames name other hother

/-- Two names may be given in either order. -/
theorem lookup_exchanged {names : List (String × RuleId)} {first second : String}
    {move : RuleId → RuleId} (hkeys : first ≠ second)
    (hnames : ∀ name id, names.lookup name = some id → move id = id) (id id' : RuleId)
    (name : String) :
    (insertEntry (insertEntry names second (move id')) first (move id)).lookup name =
      ((insertEntry (insertEntry names first id) second id').lookup name).map move := by
  have hkept : names.lookup name = (names.lookup name).map move := by
    cases hknown : names.lookup name with
    | none => rfl
    | some id => rw [Option.map_some, hnames name id hknown]
  rw [lookup_insertEntry, lookup_insertEntry, lookup_insertEntry, lookup_insertEntry]
  by_cases hfirst : name = first
  · rw [if_pos hfirst, if_neg (hfirst ▸ hkeys), if_pos hfirst, Option.map_some]
  · by_cases hsecond : name = second
    · rw [if_neg hfirst, if_pos hsecond, if_pos hsecond, Option.map_some]
    · rw [if_neg hfirst, if_neg hsecond, if_neg hsecond, if_neg hfirst]
      exact hkept

/-- Two entries that follow each other may be exchanged. -/
theorem entries_swap {budget : Nat} {first second : String × RuleSpec}
    {rest : List (String × RuleSpec)} {names : List (String × RuleId)} {rules : Array Rule}
    {finish : Progress} (hsettled : Settled (names, rules)) (hkeys : first.1 ≠ second.1)
    (hcompile : entries budget (first :: second :: rest) names rules = .ok finish) :
    ∃ move finish', entries budget (second :: first :: rest) names rules = .ok finish' ∧
      Renumbered move finish finish' := by
  obtain ⟨id, next, hfirst, htail⟩ := entries_cons_eq_ok.mp hcompile
  obtain ⟨id', next', hsecond, hrest⟩ := entries_cons_eq_ok.mp htail
  obtain ⟨block, rfl, hmoved⟩ := rule_relocates budget (some first.1) first.2 _ _ _ hfirst
  obtain ⟨block', rfl, hmoved'⟩ := rule_relocates budget (some second.1) second.2 _ _ _ hsecond
  let move := exchanged rules.size block.size block'.size
  -- the second entry is compiled onto the row without the block of the first, and the first behind it
  have hsecond' : rule budget (some second.1) second.2 rules =
      .ok (move id', rules ++ block'.map (Rule.renumbered move)) := by
    apply hmoved' move rules
    intro i hi
    rw [Array.size_append]
    exact exchanged_second hi
  have hfirst' : rule budget (some first.1) first.2 (rules ++ block'.map (Rule.renumbered move)) =
      .ok (move id, rules ++ block'.map (Rule.renumbered move) ++
        block.map (Rule.renumbered move)) := by
    apply hmoved move
    intro i hi
    rw [Array.size_append, Array.size_map]
    exact exchanged_first hi
  have hexchanged : Renumbered move
      (insertEntry (insertEntry names first.1 id) second.1 id', rules ++ block ++ block')
      (insertEntry (insertEntry names second.1 (move id')) first.1 (move id),
        rules ++ block'.map (Rule.renumbered move) ++ block.map (Rule.renumbered move)) := by
    obtain ⟨hrules, hnames⟩ := hsettled move fun i hi => exchanged_before hi
    refine ⟨exchanged_injective, ?_, ?_, getElem?_exchanged rfl hrules, ?_⟩
    · intro i hi
      rw [Array.size_append, Array.size_append] at hi
      exact exchanged_beyond hi
    · simp only [Array.size_append, Array.size_map]
      omega
    · exact fun name => lookup_exchanged hkeys hnames id id' name
  obtain ⟨finish', hrest', hfinish⟩ := hexchanged.entries rest hrest
  have htail' := entries_cons_eq_ok.mpr ⟨move id, _, hfirst', hrest'⟩
  exact ⟨move, finish', entries_cons_eq_ok.mpr ⟨move id', _, hsecond', htail'⟩, hfinish⟩

/-- **The entries of a repository may be compiled in any order.** -/
theorem entries_perm {budget : Nat} {specs specs' : List (String × RuleSpec)}
    (hperm : specs.Perm specs') {names : List (String × RuleId)} {rules : Array Rule}
    {finish : Progress} (hsettled : Settled (names, rules)) (hkeys : (specs.map (·.1)).Nodup)
    (hcompile : entries budget specs names rules = .ok finish) :
    ∃ move finish', entries budget specs' names rules = .ok finish' ∧
      Renumbered move finish finish' := by
  induction hperm generalizing names rules finish with
  | nil => exact ⟨id, finish, hcompile, .refl finish⟩
  | cons entry _ ih =>
    obtain ⟨id, next, hentry, hrest⟩ := entries_cons_eq_ok.mp hcompile
    obtain ⟨move, finish', hrest', hfinish⟩ :=
      ih (hsettled.entry hentry) (List.nodup_cons.mp hkeys).2 hrest
    exact ⟨move, finish', entries_cons_eq_ok.mpr ⟨id, next, hentry, hrest'⟩, hfinish⟩
  | swap second first rest =>
    have hne : first.1 ≠ second.1 := by
      intro heq
      simp [heq] at hkeys
    exact entries_swap hsettled hne hcompile
  | trans hfirst _ ih ih' =>
    obtain ⟨move, finish', hcompile', hfinish⟩ := ih hsettled hkeys hcompile
    have hkeys' := (hfirst.map (·.1)).nodup_iff.mp hkeys
    obtain ⟨move', finish'', hcompile'', hfinish'⟩ := ih' hsettled hkeys' hcompile'
    exact ⟨move' ∘ move, finish'', hcompile'', hfinish.trans hfinish'⟩

end Compile

namespace Repository

/-- The second repository holds the rules of the first one at other positions. -/
structure Renumbered (move : RuleId → RuleId) (repository repository' : Repository) : Prop where
  injective : Function.Injective move
  size : repository'.rules.size = repository.rules.size
  rules : ∀ id, repository'.rule? (move id) = (repository.rule? id).map (Rule.renumbered move)
  names : ∀ name, repository'.names.lookup name = (repository.names.lookup name).map move
  root : repository'.root = move repository.root
  budget : repository'.budget = repository.budget

/-- A grammar is compiled part by part: the repository, the top-level list, and the first line. -/
theorem compile_eq_ok {grammar : Grammar} {budget : Nat} {repository : Repository} :
    compile grammar budget = .ok repository ↔ ∃ names rules patterns next firstLine,
      Compile.entries budget grammar.repository [] #[] = .ok (names, rules) ∧
      Compile.ruleList budget grammar.patterns rules = .ok (patterns, next) ∧
      grammar.firstLineMatch.mapM (fun source => Pattern.compile source budget) = .ok firstLine ∧
      repository = {
        rules := (Compile.push none (Compile.scopesOf (some grammar.scopeName)) (.group patterns)
          next).2
        names
        root := next.size
        scopeName := grammar.scopeName
        fileTypes := grammar.fileTypes
        firstLine
        budget } := by
  unfold compile
  constructor
  · intro h
    obtain ⟨⟨names, rules⟩, hentries, h⟩ := bind_eq_ok h
    obtain ⟨⟨patterns, next⟩, hpatterns, h⟩ := bind_eq_ok h
    refine ⟨names, rules, patterns, next, ?_⟩
    cases hline : grammar.firstLineMatch with
    | none =>
      rw [hline] at h
      cases h
      exact ⟨none, hentries, hpatterns, rfl, rfl⟩
    | some source =>
      rw [hline] at h
      obtain ⟨firstLine, hfirst, h⟩ := bind_eq_ok h
      cases h
      exact ⟨firstLine, hentries, hpatterns, hfirst, rfl⟩
  · rintro ⟨names, rules, patterns, next, firstLine, hentries, hpatterns, hline, rfl⟩
    rw [hentries]
    dsimp only [bind, Except.bind]
    rw [hpatterns]
    cases hfirst : grammar.firstLineMatch with
    | none =>
      rw [hfirst] at hline
      cases hline
      rfl
    | some source =>
      rw [hfirst] at hline
      have hcompiled : some <$> Pattern.compile source budget = .ok firstLine := hline
      dsimp only
      rw [hcompiled]
      rfl

/-- **A grammar with its repository in another order compiles to the same repository**, renumbered. -/
theorem compile_reordered {grammar : Grammar} {budget : Nat} {repository : Repository}
    {rules : List (String × RuleSpec)} (hkeys : (grammar.repository.map (·.1)).Nodup)
    (hperm : grammar.repository.Perm rules) (hcompile : compile grammar budget = .ok repository) :
    ∃ move repository', compile { grammar with repository := rules } budget = .ok repository' ∧
      Renumbered move repository repository' := by
  obtain ⟨names, row, patterns, next, firstLine, hentries, hpatterns, hline, rfl⟩ :=
    compile_eq_ok.mp hcompile
  have hempty : Compile.Settled ([], #[]) := fun _ _ => ⟨Array.map_empty, nofun⟩
  obtain ⟨move, ⟨names', row'⟩, hentries', hrow⟩ :=
    Compile.entries_perm hperm hempty hkeys hentries
  obtain ⟨next', hpatterns', hnext⟩ :=
    hrow.compiled (Compile.ruleList_relocates budget grammar.patterns) hpatterns
  have hroot : move next.size = next'.size := by
    rw [hnext.beyond _ (Nat.le_refl _)]
    exact hnext.size.symm
  obtain ⟨last, hpush, hlast⟩ := hnext.compiled
    (.push none (Compile.scopesOf (some grammar.scopeName)) (.group patterns) (fun id => id)
      fun _ _ => rfl) rfl
  refine ⟨move, _, compile_eq_ok.mpr
    ⟨names', row', _, next', firstLine, hentries', hpatterns', hline, rfl⟩, ?_⟩
  obtain ⟨_, rfl⟩ := Prod.mk.inj (Except.ok.inj hpush)
  rw [RuleKind.renumbered_id] at hlast
  exact ⟨hlast.injective, hlast.size, hlast.rules, hlast.names, hroot.symm, rfl⟩

end Repository

end ScopeScanner
