import ScopeScanner.Proofs.Grammar.Reordering
import ScopeScanner.Proofs.Scanner.LineByLine
import ScopeScanner.Proofs.Scanner.Renumbering

/-!
# The order of a repository

The rules of a repository are found by their names, so it should not matter in which order they are
written. It decides where they come to stand in the row of a compiled grammar, though, and the positions
of rules are what stacks and sessions are kept by:

* **`Repository.scan_reordered`**: a scan gives out the same, and ends with the same stack but for the
  positions of rules.
-/

namespace ScopeScanner

/-- The frame without the position of its rule. -/
def Frame.unnumbered (frame : Frame) : Frame :=
  { frame with rule := 0 }

theorem ScopeStack.renumbered_unnumbered (move : RuleId → RuleId) (stack : ScopeStack) :
    (stack.renumbered move).frames.map Frame.unnumbered = stack.frames.map Frame.unnumbered := by
  rw [renumbered_frames, List.map_map]
  rfl

namespace Repository

/-- Scans over renumbered repositories give out the same. -/
theorem scan_renumbered {move : RuleId → RuleId} {repository repository' : Repository}
    (h : repository.Renumbered move repository') {session session' : Session}
    (hsession : session.Sound repository) (hsession' : session'.Sound repository')
    (settings : ScannerSettings) (text : String) :
    let one := (repository.scan settings session text none).1
    let other := (repository'.scan settings session' text none).1
    other.tokens = one.tokens ∧ other.unmatched = one.unmatched ∧
      other.endState = one.endState.renumbered move := by
  have hbegin : ScanProgress.Agrees move repository repository'
      (.begin settings session (.fresh repository)) (.begin settings session' (.fresh repository')) :=
    ⟨rfl, h.fresh, rfl, rfl, hsession, hsession'⟩
  have hreached : ScanProgress.Agrees move repository repository'
      (repository.reached settings session text (.fresh repository))
      (repository'.reached settings session' text (.fresh repository')) :=
    foldl_renumbered h settings.stallLimit (Text.lines text.toList) hbegin
  dsimp only
  rw [scan_unmatched, scan_unmatched, scan_eq, scan_eq]
  refine ⟨?_, ?_, hreached.stack⟩
  · exact congrArg (fun sink : Sink => sink.tokens.toList) hreached.emission.sink
  · exact congrArg Array.toList hreached.emission.diagnostics

/-- **The order of the repository does not matter to a scan.** If the entries of the repository of an
accepted document are put in another order, both documents compile, and scans of a text over the two
repositories give out the same tokens and the same remarks on unmatched text. They end with stacks of
the same depth, whose frames agree one by one in everything but the positions of their rules. -/
theorem scan_reordered {document document' : Document} {budget : Nat}
    (hkeys : document.distinctKeys = true) (haccepted : Schema.violations document budget = [])
    (hreordered : Schema.Reordered document document') :
    ∃ repository repository', ofDocument document budget = .ok repository ∧
      ofDocument document' budget = .ok repository' ∧
      ∀ (settings : ScannerSettings) (text : String) (session session' : Session),
        session.Sound repository → session'.Sound repository' →
          let one := (repository.scan settings session text none).1
          let other := (repository'.scan settings session' text none).1
          other.tokens = one.tokens ∧ other.unmatched = one.unmatched ∧
            other.endState.depth = one.endState.depth ∧
            other.endState.frames.map Frame.unnumbered = one.endState.frames.map Frame.unnumbered := by
  obtain ⟨grammar, rules, hread, haccepted', hread', hnames, hperm⟩ :=
    Grammar.ofDocument_reordered hkeys haccepted hreordered
  obtain ⟨_, repository, hagain, hcompile⟩ := compile_of_violations hkeys haccepted
  obtain rfl := Except.ok.inj (hread.symm.trans hagain)
  obtain ⟨move, repository', hcompile', hrenumbered⟩ := compile_reordered hnames hperm hcompile
  refine ⟨repository, repository', ofDocument_of_compile haccepted hread hcompile,
    ofDocument_of_compile haccepted' hread' hcompile', ?_⟩
  intro settings text session session' hsession hsession'
  obtain ⟨htokens, hremarks, hend⟩ := scan_renumbered hrenumbered hsession hsession' settings text
  refine ⟨htokens, hremarks, ?_, ?_⟩
  · rw [hend, ScopeStack.renumbered_depth]
  · rw [hend, ScopeStack.renumbered_unnumbered]

/-! ## Numbers inside quotes -/

/-- Numbers, whose first digit is scanned again by a rule of its own. -/
def numberEntry : String × Document :=
  ("number", .object [
    ("match", .string "(1)2?"),
    ("name", .string "number"),
    ("captures", .object [("1", .object [("patterns", .array [
      .object [("match", .string "1"), ("name", .string "digit")]])])])])

/-- Quotes, with numbers inside. -/
def quoteEntry : String × Document :=
  ("quote", .object [
    ("begin", .string "'"),
    ("end", .string "'"),
    ("name", .string "quote"),
    ("patterns", .array [.object [("include", .string "#number")]])])

/-- A grammar of quotes with a repository in some order. -/
def quoteDocument (rules : List (String × Document)) : Document :=
  .object [
    ("scopeName", .string "source.t"),
    ("repository", .object rules),
    ("patterns", .array [.object [("include", .string "#quote")]])]

/-- The entries come to stand elsewhere in the row, and what is scanned stays the same. -/
theorem scan_reordered_quotes :
    (quoteDocument [numberEntry, quoteEntry]).distinctKeys = true ∧
    Schema.violations (quoteDocument [numberEntry, quoteEntry]) 1000 = [] ∧
    Schema.Reordered (quoteDocument [numberEntry, quoteEntry])
      (quoteDocument [quoteEntry, numberEntry]) ∧
    ∃ repository repository',
      ofDocument (quoteDocument [numberEntry, quoteEntry]) 1000 = .ok repository ∧
      ofDocument (quoteDocument [quoteEntry, numberEntry]) 1000 = .ok repository' ∧
      repository.names = [("number", 2), ("quote", 3)] ∧
      repository'.names = [("quote", 0), ("number", 3)] ∧
      let one := (repository.scan {} {} "'12" none).1
      let other := (repository'.scan {} {} "'12" none).1
      other.tokens = one.tokens ∧ other.unmatched = one.unmatched ∧
        other.endState.depth = one.endState.depth ∧
        other.endState.frames.map Frame.unnumbered = one.endState.frames.map Frame.unnumbered := by
  have hkeys : (quoteDocument [numberEntry, quoteEntry]).distinctKeys = true := by decide +kernel
  have haccepted : Schema.violations (quoteDocument [numberEntry, quoteEntry]) 1000 = [] := by
    decide +kernel
  have hreordered : Schema.Reordered (quoteDocument [numberEntry, quoteEntry])
      (quoteDocument [quoteEntry, numberEntry]) :=
    .repository [("scopeName", .string "source.t")]
      [("patterns", .array [.object [("include", .string "#quote")]])] (.swap quoteEntry numberEntry [])
  have hnames : (ofDocument (quoteDocument [numberEntry, quoteEntry]) 1000).toOption.map (·.names) =
      some [("number", 2), ("quote", 3)] := by
    decide +kernel
  have hnames' : (ofDocument (quoteDocument [quoteEntry, numberEntry]) 1000).toOption.map (·.names) =
      some [("quote", 0), ("number", 3)] := by
    decide +kernel
  obtain ⟨repository, repository', hcompile, hcompile', hscans⟩ :=
    scan_reordered hkeys haccepted hreordered
  rw [hcompile] at hnames
  rw [hcompile'] at hnames'
  exact ⟨hkeys, haccepted, hreordered, repository, repository', hcompile, hcompile',
    Option.some.inj hnames, Option.some.inj hnames',
    hscans {} "'12" {} {} (.new repository) (.new repository')⟩

end Repository

end ScopeScanner
