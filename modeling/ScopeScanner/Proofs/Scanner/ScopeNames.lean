import ScopeScanner.Proofs.Scanner.Ends
import ScopeScanner.Proofs.Scanner.Extent
import ScopeScanner.Proofs.Scanner.MadeEnds
import ScopeScanner.Proofs.Scanner.Rooting

/-!
# Where scopes come from

A scan makes no scopes up: it takes them from the rules of its repository and from the stack that it
starts with. So what holds of each of these holds of the scopes of all tokens.

* **`Repository.compile_gives`**: the scopes of a compiled grammar are words. None is empty, and there is
  no white space in them.
* **`LineScan.Covers.growsWith`**, **`LineScan.Step.scopes`**: a step covers its match with scopes of
  rules and of the stack, and puts scopes of rules on the stack.
* **`Repository.scan_scopes`**: so it is along a whole scan, groups that are scanned again included.
* **`Repository.Loaded.scan_words`**: all tokens of an accepted grammar have scopes, and these are words.
-/

namespace ScopeScanner

open Emission (Grows Yields)

/-! ## What rules give -/

/-- Captures give scopes of some kind to the groups of a match. -/
def CaptureMap.Gives (Good : String → Prop) (captures : CaptureMap) : Prop :=
  ∀ entry ∈ captures, ∀ scope ∈ entry.2.scopes, Good scope

theorem CaptureMap.Gives.insert {Good : String → Prop} {captures : CaptureMap}
    (h : captures.Gives Good) (number : Nat) {capture : Capture}
    (hcapture : ∀ scope ∈ capture.scopes, Good scope) :
    (CaptureMap.insert number capture captures).Gives Good := by
  induction captures with
  | nil => exact List.forall_mem_cons.mpr ⟨hcapture, h⟩
  | cons entry rest ih =>
    obtain ⟨hentry, hrest⟩ := List.forall_mem_cons.mp h
    rw [CaptureMap.insert]
    split
    · exact List.forall_mem_cons.mpr ⟨hcapture, h⟩
    · split
      · exact List.forall_mem_cons.mpr ⟨hcapture, hrest⟩
      · exact List.forall_mem_cons.mpr ⟨hentry, ih hrest⟩

/-- What a rule does gives scopes of some kind: to the groups of its matches, and to what it spans. -/
inductive RuleKind.Gives (Good : String → Prop) : RuleKind → Prop where
  | simple (pattern : Pattern) {captures : CaptureMap} (hcaptures : captures.Gives Good) :
      Gives Good (.simple pattern captures)
  | region {region : Region} (hopening : region.openingCaptures.Gives Good)
      (hclosing : region.closingCaptures.Gives Good)
      (hcontent : ∀ scope ∈ region.contentScopes, Good scope) : Gives Good (.region region)
  | group (patterns : List RuleRef) : Gives Good (.group patterns)
  | link (target : RuleRef) : Gives Good (.link target)

/-- A rule gives scopes of some kind only. -/
structure Rule.Gives (Good : String → Prop) (rule : Rule) : Prop where
  scopes : ∀ scope ∈ rule.scopes, Good scope
  kind : rule.kind.Gives Good

theorem Rule.Gives.captures {Good : String → Prop} {rule : Rule} (h : rule.Gives Good) :
    rule.captures.Gives Good := by
  have hkind := h.kind
  rw [Rule.captures]
  generalize rule.kind = kind at hkind
  cases hkind with
  | simple _ hcaptures => exact hcaptures
  | region hopening _ _ => exact hopening
  | group _ => exact List.forall_mem_nil _
  | link _ => exact List.forall_mem_nil _

/-- The rules of a repository give scopes of some kind only. -/
def Repository.Gives (Good : String → Prop) (repository : Repository) : Prop :=
  ∀ id rule, repository.rule? id = some rule → rule.Gives Good

/-! ## Words -/

namespace Text

/-- A text that is not empty and holds no white space. -/
def IsWord (text : String) : Prop :=
  text.toList ≠ [] ∧ ∀ c ∈ text.toList, Unicode.isBlank c = false

/-- A part that has been read up to its end is a word. -/
theorem isWord_of_part {part : List Char} (hne : ¬part.isEmpty = true)
    (hpart : ∀ c ∈ part, Unicode.isBlank c = false) : IsWord (String.ofList part.reverse) := by
  rw [IsWord, String.toList_ofList]
  refine ⟨fun hnil => hne ?_, fun c hmem => hpart c (List.mem_reverse.mp hmem)⟩
  rw [List.reverse_eq_nil_iff.mp hnil]
  rfl

theorem isWord_of_mem_wordsFrom {part chars : List Char}
    (hpart : ∀ c ∈ part, Unicode.isBlank c = false) {word : String}
    (h : word ∈ wordsFrom part chars) : IsWord word := by
  induction chars generalizing part with
  | nil =>
    rw [wordsFrom] at h
    split at h
    · cases h
    · next hne =>
      obtain rfl := List.mem_singleton.mp h
      exact isWord_of_part hne hpart
  | cons c rest ih =>
    rw [wordsFrom] at h
    split at h
    · split at h
      · exact ih (List.forall_mem_nil _) h
      · next hne =>
        rcases List.mem_cons.mp h with rfl | h
        · exact isWord_of_part hne hpart
        · exact ih (List.forall_mem_nil _) h
    · next hblank =>
      exact ih (List.forall_mem_cons.mpr ⟨Bool.eq_false_iff.mpr hblank, hpart⟩) h

/-- The parts of a text between white space are words. -/
theorem isWord_of_mem_words {text word : String} (h : word ∈ words text) : IsWord word :=
  isWord_of_mem_wordsFrom (List.forall_mem_nil _) h

end Text

namespace Compile

theorem isWord_of_mem_scopesOf (name : Option String) :
    ∀ scope ∈ scopesOf name, Text.IsWord scope := by
  cases name with
  | none => exact List.forall_mem_nil _
  | some name => exact fun scope => Text.isWord_of_mem_words

/-- Compiling makes rules that give words. -/
theorem makes_gives (budget : Nat) :
    Makes (fun _ _ => True) budget (CaptureMap.Gives Text.IsWord) fun _ rule =>
      rule.Gives Text.IsWord where
  nothing := List.forall_mem_nil _
  insert _ number name _ hcaptures := hcaptures.insert number (isWord_of_mem_scopesOf name)
  link _ _ name target := ⟨isWord_of_mem_scopesOf name, .link target⟩
  group _ _ name patterns := ⟨isWord_of_mem_scopesOf name, .group patterns⟩
  simple _ _ name _ pattern _ _ _ hcaptures := ⟨isWord_of_mem_scopesOf name, .simple pattern hcaptures⟩
  region _ _ name contentName _ _ _ _ _ _ _ hopening hclosing hcontent :=
    ⟨isWord_of_mem_scopesOf name,
      .region hopening hclosing (hcontent ▸ isWord_of_mem_scopesOf contentName)⟩

end Compile

/-- **The scopes of a compiled grammar are words.** -/
theorem Repository.compile_gives {grammar : Grammar} {budget : Nat} {repository : Repository}
    (h : compile grammar budget = .ok repository) : repository.Gives Text.IsWord :=
  compile_made (Compile.makes_gives budget) (grammar.all_of_forall fun _ _ => trivial) h

/-! ## Stacks -/

namespace ScopeStack

variable {stack stack' : ScopeStack}

theorem mem_scopes {scope : String} :
    scope ∈ stack.scopes ↔ scope ∈ stack.bottom.scopes ∨ ∃ frame ∈ stack.regions, scope ∈ frame.scopes := by
  simp [scopes, frames]

/-- Regions that leave take their scopes with them. -/
theorem scopes_subset (hbottom : stack'.bottom = stack.bottom) (hregions : stack'.regions ⊆ stack.regions) :
    stack'.scopes ⊆ stack.scopes := by
  intro scope hmem
  rw [mem_scopes, hbottom] at hmem
  exact mem_scopes.mpr (hmem.imp_right fun ⟨frame, hframe, hscope⟩ => ⟨frame, hregions hframe, hscope⟩)

theorem scopes_push (stack : ScopeStack) (frame : Frame) :
    (stack.push frame).scopes = stack.scopes ++ frame.scopes := by
  simp [scopes, frames, push]

theorem delimiterScopes_subset (stack : ScopeStack) : stack.delimiterScopes ⊆ stack.scopes := by
  obtain ⟨bottom, regions⟩ := stack
  cases regions with
  | nil =>
    intro scope hmem
    exact mem_scopes.mpr (Or.inl (List.mem_append_left _ hmem))
  | cons top rest =>
    show ({ bottom, regions := rest } : ScopeStack).scopes ++ top.nameScopes ⊆
      (({ bottom, regions := rest } : ScopeStack).push top).scopes
    rw [scopes_push]
    exact List.append_subset.mpr ⟨List.subset_append_left _ _,
      List.subset_append_of_subset_right _ (List.subset_append_left _ _)⟩

/-- Forgetting anchors leaves the scopes as they are. -/
theorem scopes_clearAnchors (stack : ScopeStack) : stack.clearAnchors.scopes = stack.scopes := by
  simp only [scopes, frames, clearAnchors, List.flatMap_cons, ← List.map_reverse, List.flatMap_map]
  rfl

end ScopeStack

/-! ## Scans -/

/-- One emission comes from another by covering the line with scopes of some kind, whatever the places and
the remarks. -/
abbrev Emission.GrowsWith (Good : String → Prop) : Emission → Emission → Prop :=
  Grows (fun _ scopes => ∀ scope ∈ scopes, Good scope) fun _ => True

/-- Scanning the text of a group covers it with scopes of some kind, if the stack has such scopes. -/
def Reenter.Gives (Good : String → Prop) (reenter : Reenter) : Prop :=
  ∀ (line : Line) (start : Nat) (stack : ScopeStack) (emission : Emission),
    (∀ scope ∈ stack.scopes, Good scope) →
      emission.GrowsWith Good (reenter line start stack emission)

namespace LineScan

variable {scan : LineScan} {Good : String → Prop}

theorem Applies.gives (hgives : scan.repository.Gives Good) {stack : ScopeStack}
    (hstack : ∀ scope ∈ stack.scopes, Good scope) {pattern : Pattern} {captures : CaptureMap}
    {scopes : List String} (h : scan.Applies stack pattern captures scopes) :
    captures.Gives Good ∧ ∀ scope ∈ scopes, Good scope := by
  cases h with
  | closing hclosing =>
    refine ⟨?_, fun scope hmem => hstack scope (stack.delimiterScopes_subset hmem)⟩
    rw [closingCaptures, Repository.kind?]
    cases hrule : scan.repository.rule? stack.top.rule with
    | none => exact List.forall_mem_nil _
    | some rule =>
      have hkind := (hgives _ _ hrule).kind
      rw [Option.map_some]
      split
      · next region hregion =>
        rw [Option.some.inj hregion] at hkind
        cases hkind with
        | region _ hclosing _ => exact hclosing
      · exact List.forall_mem_nil _
  | rule hrule hpattern =>
    have hrule := hgives _ _ hrule
    exact ⟨hrule.captures, List.forall_mem_append.mpr ⟨hstack, hrule.scopes⟩⟩

/-- **A step covers its match with scopes of rules and of the stack.** -/
theorem Covers.growsWith (hgives : scan.repository.Gives Good)
    (hreenter : ∀ f, scan.reenter = some f → f.Gives Good) {state : Drive}
    (hstack : ∀ scope ∈ state.scene.stack.scopes, Good scope) {scene : Scene} {stop : Nat}
    {pattern : Pattern} {groups : Groups} {captures : CaptureMap} {scopes : List String}
    (h : scan.Covers state scene stop pattern groups captures scopes) :
    state.scene.emission.GrowsWith Good scene.emission := by
  obtain ⟨hcaptures, hscopes⟩ := h.applies.gives hgives hstack
  have happroached : state.scene.emission.GrowsWith Good (scan.approached state groups).emission :=
    .produce _ _ (.learn _ (.refl _)) hstack
  rcases h.emission with ⟨hsame, _⟩ | ⟨session, hcovered⟩
  · rw [hsame]
    exact happroached
  · rw [hcovered]
    refine .learn session (happroached.trans ?_)
    have hyields : Yields (fun _ => True) (fun _ scopes => ∀ scope ∈ scopes, Good scope) (fun _ => True)
        (scan.approached state groups).emission
        (resolveCaptures scan.reenter scan.line groups captures scopes
          (scan.approached state groups).emission) := by
      refine resolveCaptures_yields
        (fun _ scopes _ (hscopes : ∀ scope ∈ scopes, Good scope) => hscopes) ?_ ?_ hscopes _
      · exact fun entry hmem scopes hscopes =>
          List.forall_mem_append.mpr ⟨hscopes, hcaptures entry hmem⟩
      · intro entry hmem span _ f rule hf _ scopes hscopes emission _ _
        refine ⟨hreenter f hf _ _ _ _ ?_, trivial⟩
        simpa [ScopeStack.scopes, ScopeStack.frames, Frame.scopes] using hscopes
    exact (hyields trivial).1

/-- **A step puts scopes of rules on the stack.** -/
theorem Step.scopes (hgives : scan.repository.Gives Good) {state : Drive}
    (hstack : ∀ scope ∈ state.scene.stack.scopes, Good scope) {scene : Scene} {stop : Nat}
    {forced unwind : Bool} (hstep : scan.Step state (.matched scene stop forced unwind)) :
    ∀ scope ∈ scene.stack.scopes, Good scope := by
  cases hstep with
  | close pattern groups hclosing hfinds =>
    rw [closed_stack]
    have hsubset : ({ state.scene.stack with regions := state.scene.stack.regions.tail } :
        ScopeStack).scopes ⊆ state.scene.stack.scopes :=
      ScopeStack.scopes_subset rfl (List.tail_subset _)
    exact fun scope hmem => hstack scope (hsubset hmem)
  | simple id rule pattern captures groups hid hrule hkind hfinds => exact hstack
  | refuse id rule region groups hid hrule hkind hfinds hrefuses => exact hstack
  | enter id rule region groups hid hrule hkind hfinds hrefuses =>
    obtain ⟨hscopes, hregion⟩ := hgives _ _ hrule
    rw [hkind] at hregion
    cases hregion with
    | region _ _ hcontent =>
      show ∀ scope ∈ (ScopeStack.push _ _).scopes, Good scope
      rw [ScopeStack.scopes_push]
      exact List.forall_mem_append.mpr ⟨hstack, List.forall_mem_append.mpr ⟨hscopes, hcontent⟩⟩

/-- A scan that has been given scopes of some kind, and has covered the line with such. -/
structure Named (Good : String → Prop) (origin : Emission) (scene : Scene) : Prop where
  stack : ∀ scope ∈ scene.stack.scopes, Good scope
  grows : origin.GrowsWith Good scene.emission

namespace Named

variable {origin : Emission}

theorem leave {scene : Scene} (h : Named Good origin scene) (cursor : Nat) :
    Named Good origin (scan.leave cursor scene) := by
  have hstack := h.stack
  refine ⟨(leave_stack scan cursor scene).symm ▸ hstack, ?_⟩
  rw [LineScan.leave]
  split
  · exact .produce _ _ (.remark _ h.grows trivial) hstack
  · exact .produce _ _ h.grows hstack

/-- What follows a step drops regions, and may cover a character. -/
theorem settle {scene : Scene} (h : Named Good origin scene) (state : Drive) (stop : Nat)
    (forced unwind : Bool) :
    Named Good origin (scan.settle state scene stop forced unwind).scene := by
  obtain ⟨count, hbottom, hregions⟩ := scan.settle_stack state scene stop forced unwind
  have hstack : ∀ scope ∈ (scan.settle state scene stop forced unwind).scene.stack.scopes, Good scope :=
    fun scope hmem => h.stack scope
      (ScopeStack.scopes_subset hbottom (hregions ▸ List.drop_subset _ _) hmem)
  refine ⟨hstack, ?_⟩
  rcases scan.settle_emission state scene stop forced unwind with ⟨hsame, _⟩ | ⟨hforced, _⟩
  · rw [hsame]
    exact h.grows
  · rw [hforced]
    exact .produce _ _ h.grows hstack

end Named

/-- The scan of a line covers it with scopes of rules and of the stack. -/
theorem drive_named (hgives : scan.repository.Gives Good)
    (hreenter : ∀ f, scan.reenter = some f → f.Gives Good) (state : Drive)
    (hstack : ∀ scope ∈ state.scene.stack.scopes, Good scope) :
    Named Good state.scene.emission (scan.drive state) := by
  refine drive_induct (fun last => Named Good state.scene.emission last.scene) ?_ ?_ ?_ state
    ⟨hstack, .refl _⟩
  · exact fun last h _ => h
  · intro last scene h _ hstep
    rw [hstep.unmatched_emission]
    have hlooked : Named Good state.scene.emission (scan.looked last.scene) := ⟨h.stack, .learn _ h.grows⟩
    exact hlooked.leave last.cursor
  · intro last scene stop forced unwind h _ hstep
    obtain ⟨pattern, groups, captures, scopes, hcovers⟩ := hstep.covers
    have hmatched : Named Good state.scene.emission scene :=
      ⟨hstep.scopes hgives h.stack, h.grows.trans (hcovers.growsWith hgives hreenter h.stack)⟩
    exact hmatched.settle last stop forced unwind

end LineScan

/-- The text of a group is covered with scopes of rules and of the stack, however deep groups are entered. -/
theorem reentry_gives {repository : Repository} {Good : String → Prop} (hgives : repository.Gives Good)
    (stallLimit offset levels : Nat) :
    ∀ f, reentry repository stallLimit offset levels = some f → f.Gives Good := by
  induction levels with
  | zero => intro f hf; cases hf
  | succ levels ih =>
    intro f hf
    cases hf
    intro line start stack emission hstack
    dsimp only
    rw [scanLine_eq]
    exact (LineScan.drive_named hgives ih (.begin start none stack emission) hstack).grows

namespace Repository

variable {repository : Repository} {Good : String → Prop} (hgives : repository.Gives Good)
include hgives

/-- **The next line** leaves scopes of rules and of the stack. -/
theorem scanNextLine_scopes (stallLimit : Nat) {progress : ScanProgress}
    (hstack : ∀ scope ∈ progress.stack.scopes, Good scope)
    (htokens : progress.emission.sink.ScopesIn fun scopes => ∀ scope ∈ scopes, Good scope)
    (chars : List Char) :
    let next := repository.scanNextLine stallLimit progress chars
    (∀ scope ∈ next.stack.scopes, Good scope) ∧
      next.emission.sink.ScopesIn fun scopes => ∀ scope ∈ scopes, Good scope := by
  dsimp only
  rw [scanNextLine_eq]
  have hnamed := @LineScan.drive_named (repository.lineScan stallLimit progress chars) Good hgives
    (reentry_gives hgives stallLimit progress.offset maxReentry) (progress.lineStart chars)
    (progress.stack.scopes_clearAnchors.symm ▸ hstack)
  exact ⟨hnamed.stack, hnamed.grows.scopesIn htokens fun _ _ hscopes => hscopes⟩

theorem foldl_scopes (stallLimit : Nat) (lines : List (List Char)) {progress : ScanProgress}
    (hstack : ∀ scope ∈ progress.stack.scopes, Good scope)
    (htokens : progress.emission.sink.ScopesIn fun scopes => ∀ scope ∈ scopes, Good scope) :
    let reached := lines.foldl (repository.scanNextLine stallLimit) progress
    (∀ scope ∈ reached.stack.scopes, Good scope) ∧
      reached.emission.sink.ScopesIn fun scopes => ∀ scope ∈ scopes, Good scope := by
  induction lines generalizing progress with
  | nil => exact ⟨hstack, htokens⟩
  | cons chars rest ih =>
    obtain ⟨hstack', htokens'⟩ := scanNextLine_scopes hgives stallLimit hstack htokens chars
    exact ih hstack' htokens'

/-- A stack without regions has the scopes of the rule for the grammar. -/
theorem fresh_scopes : ∀ scope ∈ (ScopeStack.fresh repository).scopes, Good scope := by
  intro scope hmem
  rcases ScopeStack.mem_scopes.mp hmem with hmem | ⟨frame, hframe, _⟩
  · rw [Frame.scopes, ScopeStack.fresh, List.append_nil] at hmem
    cases hroot : repository.rule? repository.root with
    | none =>
      rw [hroot] at hmem
      cases hmem
    | some rule =>
      rw [hroot] at hmem
      exact (hgives _ _ hroot).scopes scope hmem
  · cases hframe

/-- **Scopes come from rules and from the stack to start with.** What holds of all scopes that these give
holds of the scopes of all tokens, and of those of the stack at the end. -/
theorem scan_scopes (settings : ScannerSettings) (session : Session) (text : String)
    {state : Option ScopeStack}
    (hstate : ∀ scope ∈ (state.getD (.fresh repository)).scopes, Good scope) :
    let output := (repository.scan settings session text state).1
    (∀ scope ∈ output.endState.scopes, Good scope) ∧
      ∀ token ∈ output.tokens, ∀ scope ∈ token.scopes, Good scope := by
  have hnone : (ScanProgress.begin settings session
      (state.getD (.fresh repository))).emission.sink.ScopesIn fun scopes =>
        ∀ scope ∈ scopes, Good scope := by
    intro token hmem
    simp [ScanProgress.begin] at hmem
  exact foldl_scopes hgives settings.stallLimit (Text.lines text.toList) hstate hnone

omit hgives

/-- What an accepted grammar compiles to, whether it is read from a document or put together by hand. -/
inductive Loaded (repository : Repository) : Prop where
  | document {document : Document} {budget : Nat} (hkeys : document.distinctKeys = true)
      (h : ofDocument document budget = .ok repository)
  | grammar {grammar : Grammar} {budget : Nat} (h : ofGrammar grammar budget = .ok repository)

/-- A document is accepted if it compiles, and so is the grammar that it is read as. -/
theorem Loaded.exists_grammar (h : repository.Loaded) :
    ∃ grammar budget, ofGrammar grammar budget = .ok repository := by
  cases h with
  | grammar h => exact ⟨_, _, h⟩
  | @document document budget hkeys h =>
    have haccepted : Schema.violations document budget = [] := by
      by_contra hne
      rw [ofDocument, Grammar.validated_of_ne_nil hne] at h
      cases h
    obtain ⟨grammar, compiled, _, _, _, hdocument, hgrammar⟩ := ofGrammar_of_violations hkeys haccepted
    obtain rfl := Except.ok.inj (hdocument.symm.trans h)
    exact ⟨grammar, budget, hgrammar⟩

/-- **All tokens of an accepted grammar have scopes, and these are words.** -/
theorem Loaded.scan_words (h : repository.Loaded) (settings : ScannerSettings) (session : Session)
    (text : String) : ∀ token ∈ (repository.scan settings session text none).1.tokens,
      token.scopes ≠ [] ∧ ∀ scope ∈ token.scopes, Text.IsWord scope := by
  obtain ⟨grammar, budget, hgrammar⟩ := h.exists_grammar
  obtain ⟨haccepted, hcompile⟩ := ofGrammar_eq_ok hgrammar
  obtain ⟨rooted, hrooted, hscopes⟩ := ofGrammar_rootedIn haccepted
  obtain rfl := Except.ok.inj (hrooted.symm.trans hgrammar)
  have hgives := compile_gives hcompile
  have hfresh : ∀ scope ∈ ((none : Option ScopeStack).getD (.fresh rooted)).scopes, Text.IsWord scope :=
    fresh_scopes hgives
  intro token hmem
  exact ⟨(hscopes.tokens none .fresh settings session text token hmem).2,
    (scan_scopes hgives settings session text hfresh).2 token hmem⟩

end Repository

end ScopeScanner
