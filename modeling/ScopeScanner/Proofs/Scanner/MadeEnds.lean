import ScopeScanner.Grammar.Source
import ScopeScanner.Proofs.Grammar.Acceptance
import ScopeScanner.Proofs.Pattern.EndForm
import ScopeScanner.Proofs.Repository.Numbering
import ScopeScanner.Proofs.Scanner.Stalling

/-!
# Ends made of begins

A scan searches for the patterns of rules and for the ends of open regions. The former have been compiled
with the grammar. An end that is a template is compiled when its region begins, and if it does not compile
the region has no end.

* **`LineScan.Step.begun`**: a step keeps that every open region has begun with a match of its rule, and
  waits for the end that is made of this match (`ScopeStack.Begun`).
* **`LineScan.compiles_of_candidate`**: hence whatever competes at a step has been compiled.
* **`Repository.searches_compiled`**: so it is in all states of all scans. A region has no end only if its
  template does not compile with the texts of its begin. The checks of a grammar have made sure that it
  does if these texts are empty. Whatever they are, it does if the template is a sound form
  (`Regex.Form.isSound`), whose references stand where parts of it could stand.
-/

namespace ScopeScanner

/-- A pattern is what its source compiles to. -/
def Pattern.IsCompiled (budget : Nat) (pattern : Pattern) : Prop :=
  Pattern.compile pattern.source budget = .ok pattern

/-- A compiled pattern remembers its source. -/
theorem Pattern.isCompiled_of_compile {source : String} {budget : Nat} {pattern : Pattern}
    (h : Pattern.compile source budget = .ok pattern) : pattern.IsCompiled budget := by
  have hsource : pattern.source = source := by
    rw [compile] at h
    split at h
    · cases h
    · split at h
      · split at h
        · cases h
        · cases h
          rfl
      · cases h
        rfl
  rw [IsCompiled, hsource, h]

namespace EndPattern

variable {closing : EndPattern} {budget : Nat} {groups : Groups} {line : Line}

/-- There is no end only where a template does not compile. -/
theorem made?_eq_none_iff : closing.made? budget groups line = none ↔
    ∃ ending, closing = .template ending ∧
      ∀ pattern, Pattern.compile (ending.instantiate (groups.texts line)) budget ≠ .ok pattern := by
  cases closing with
  | fixed pattern => simp [made?]
  | template ending =>
    rw [made?]
    cases hcompile : Pattern.compile (ending.instantiate (groups.texts line)) budget with
    | error fault => simp [Except.toOption, hcompile]
    | ok pattern => simp [Except.toOption, hcompile]

/-- An end is what the end in the grammar compiles to, or the template with the texts of the begin. -/
theorem isCompiled_of_made? {ends : String}
    (hclosing : Compile.closingPattern budget ends = .ok closing) {pattern : Pattern}
    (h : closing.made? budget groups line = some pattern) : pattern.IsCompiled budget := by
  cases closing with
  | template ending =>
    rw [made?] at h
    cases hcompile : Pattern.compile (ending.instantiate (groups.texts line)) budget with
    | error fault =>
      rw [hcompile] at h
      cases h
    | ok compiled =>
      rw [hcompile] at h
      obtain rfl := Option.some.inj h
      exact Pattern.isCompiled_of_compile hcompile
  | fixed fixed =>
    obtain rfl := Option.some.inj h
    rw [Compile.closingPattern] at hclosing
    split at hclosing
    · cases hclosing
    · cases hcompile : Pattern.compile ends budget with
      | error fault =>
        rw [hcompile] at hclosing
        cases hclosing
      | ok compiled =>
        rw [hcompile] at hclosing
        cases hclosing
        exact Pattern.isCompiled_of_compile hcompile

end EndPattern

/-- So is the pattern by which a rule competes. -/
theorem Compile.FromSources.isCompiled {Holds : TextKind → String → Prop} {budget : Nat} {rule : Rule}
    (h : FromSources Holds budget rule.kind) {pattern : Pattern}
    (hpattern : rule.pattern? = some pattern) : pattern.IsCompiled budget := by
  rw [Rule.pattern?] at hpattern
  generalize rule.kind = kind at h hpattern
  cases h with
  | simple captures hsource hcompile =>
    rw [← Option.some.inj hpattern]
    exact Pattern.isCompiled_of_compile hcompile
  | region hbegins hends hopening hclosing =>
    rw [← Option.some.inj hpattern]
    exact Pattern.isCompiled_of_compile hopening
  | group patterns => cases hpattern
  | link target => cases hpattern

/-! ## Regions that have begun -/

/-- A region has begun with a match of its rule on a line, and waits for the end that is made of this
match. -/
structure Frame.BegunBy (repository : Repository) (frame : Frame) (region : Region) (line : Line)
    (groups : Groups) : Prop where
  kind : repository.kind? frame.rule = some (.region region)
  found : ∃ position atAnchor, region.opening.findAt line position atAnchor = .ok (some groups)
  closing : frame.closing = region.closing.made? repository.budget groups line

/-- The bottom waits for no end, and each region has begun on one of some lines. -/
structure ScopeStack.Begun (repository : Repository) (Lines : Line → Prop) (stack : ScopeStack) :
    Prop where
  bottom : stack.bottom.closing = none
  regions : ∀ frame ∈ stack.regions, ∃ region line groups, Lines line ∧
    frame.BegunBy repository region line groups

namespace ScopeStack.Begun

variable {repository : Repository} {Lines : Line → Prop} {stack : ScopeStack}

/-- A stack without regions. -/
theorem plain {bottom : Frame} (h : bottom.closing = none) : Begun repository Lines { bottom } :=
  ⟨h, by simp⟩

theorem push (h : stack.Begun repository Lines) {frame : Frame} {region : Region} {line : Line}
    {groups : Groups} (hline : Lines line) (hframe : frame.BegunBy repository region line groups) :
    (stack.push frame).Begun repository Lines where
  bottom := h.bottom
  regions := List.forall_mem_cons.mpr ⟨⟨region, line, groups, hline, hframe⟩, h.regions⟩

/-- Regions may leave. -/
theorem subset (h : stack.Begun repository Lines) {stack' : ScopeStack}
    (hbottom : stack'.bottom = stack.bottom) (hregions : stack'.regions ⊆ stack.regions) :
    stack'.Begun repository Lines where
  bottom := hbottom ▸ h.bottom
  regions := fun frame hmem => h.regions frame (hregions hmem)

theorem clearAnchors (h : stack.Begun repository Lines) :
    stack.clearAnchors.Begun repository Lines where
  bottom := h.bottom
  regions := by
    intro frame hmem
    obtain ⟨other, hother, rfl⟩ := List.mem_map.mp hmem
    obtain ⟨region, line, groups, hline, hkind, hfound, hclosing⟩ := h.regions other hother
    exact ⟨region, line, groups, hline, hkind, hfound, hclosing⟩

/-- What the innermost frame waits for, a region waits for. -/
theorem top_mem (h : stack.Begun repository Lines) {pattern : Pattern}
    (hclosing : stack.top.closing = some pattern) : stack.top ∈ stack.regions := by
  obtain ⟨bottom, regions⟩ := stack
  cases regions with
  | nil =>
    have hbottom : bottom.closing = none := h.bottom
    rw [ScopeStack.top, List.headD_nil, hbottom] at hclosing
    cases hclosing
  | cons frame rest => exact List.mem_cons_self

end ScopeStack.Begun

namespace LineScan

variable {scan : LineScan} {Lines : Line → Prop} {state : Drive}

/-- **A step leaves regions that have begun.** -/
theorem Step.begun (hscan : scan.KeepsSound) (hnumbered : Compile.Numbered scan.repository.rules)
    (hline : Lines scan.line) (hsound : state.scene.Sound scan.repository)
    (h : state.scene.stack.Begun scan.repository Lines) {scene : Scene} {stop : Nat}
    {forced unwind : Bool} (hstep : scan.Step state (.matched scene stop forced unwind)) :
    scene.stack.Begun scan.repository Lines := by
  cases hstep with
  | close pattern groups hclosing hfinds =>
    rw [closed_stack]
    exact h.subset rfl (List.tail_subset _)
  | simple id rule pattern captures groups hid hrule hkind hfinds => exact h
  | refuse id rule region groups hid hrule hkind hfinds hrefuses => exact h
  | enter id rule region groups hid hrule hkind hfinds hrefuses =>
    have happroached : (scan.approached state groups).Sound scan.repository :=
      (hsound.rules state.scene.stack.top.rule).2
    -- a sound session gives the end that would be made anew
    rw [entered_stack_of_sound hscan happroached]
    refine h.push hline ⟨?_, ⟨_, _, hfinds⟩, rfl⟩
    show scan.repository.kind? rule.id = _
    rw [hnumbered id rule hrule, Repository.kind?, hrule, Option.map_some, hkind]

/-- What follows a step drops regions at most. -/
theorem settle_begun {scene : Scene} (h : scene.stack.Begun scan.repository Lines) (stop : Nat)
    (forced unwind : Bool) :
    (scan.settle state scene stop forced unwind).scene.stack.Begun scan.repository Lines := by
  obtain ⟨count, hbottom, hregions⟩ := scan.settle_stack state scene stop forced unwind
  exact h.subset hbottom (hregions ▸ List.drop_subset _ _)

/-- A scan in a sound session, with regions that have begun. -/
structure Going (scan : LineScan) (Lines : Line → Prop) (state : Drive) : Prop where
  sound : state.scene.Sound scan.repository
  begun : state.scene.stack.Begun scan.repository Lines

namespace Going

variable (hscan : scan.KeepsSound) (hnumbered : Compile.Numbered scan.repository.rules)
  (hline : Lines scan.line)
include hscan hnumbered hline

/-- What a step and what follows it leave is a scan that goes on. -/
theorem settle (h : scan.Going Lines state) {scene : Scene} {stop : Nat} {forced unwind : Bool}
    (hresponse : scan.respond state = .matched scene stop forced unwind) :
    scan.Going Lines (scan.settle state scene stop forced unwind) := by
  have hbegun := (hresponse ▸ respond_step scan state).begun hscan hnumbered hline h.sound h.begun
  exact ⟨settle_sound hscan h.sound (respond_sound hscan h.sound hresponse) stop forced unwind,
    settle_begun hbegun stop forced unwind⟩

theorem reaches (h : scan.Going Lines state) {last : Drive} (hreaches : scan.Reaches state last) :
    scan.Going Lines last := by
  induction hreaches with
  | refl state => exact h
  | step hinside hresponse hrest ih => exact ih (h.settle hscan hnumbered hline hresponse)

/-- The scan of a line ends in a sound session, with regions that have begun. -/
theorem drive (h : scan.Going Lines state) :
    (scan.drive state).Sound scan.repository ∧
      (scan.drive state).stack.Begun scan.repository Lines := by
  refine ⟨drive_sound hscan h.sound, ?_⟩
  refine drive_induct_of_sound hscan (fun state => state.scene.stack.Begun scan.repository Lines)
    (fun scene => scene.stack.Begun scan.repository Lines) (fun _ hbegun _ => hbegun) ?_ ?_ state
    h.begun h.sound
  · intro state scene hbegun _ _ hstep
    rw [hstep.unmatched_stack.2]
    exact hbegun
  · intro state scene stop forced unwind hbegun hsound _ hstep
    exact settle_begun (hstep.begun hscan hnumbered hline hsound hbegun) stop forced unwind

end Going

/-- **Whatever competes has been compiled.** -/
theorem compiles_of_candidate {Holds : TextKind → String → Prop}
    (hrules : ∀ id rule, scan.repository.rule? id = some rule →
      Compile.FromSources Holds scan.repository.budget rule.kind)
    {stack : ScopeStack} (h : stack.Begun scan.repository Lines) {rules : List RuleId}
    {candidate : Candidate} (hmem : candidate ∈ scan.candidates stack rules) :
    candidate.pattern.IsCompiled scan.repository.budget := by
  rcases mem_candidates hmem with ⟨_, hclosing⟩ | ⟨id, _, rule, hrule, hpattern, _⟩
  · obtain ⟨region, line, groups, _, hbegun⟩ := h.regions _ (h.top_mem hclosing)
    obtain ⟨rule, hrule, hkind⟩ := Option.map_eq_some_iff.mp hbegun.kind
    rw [hbegun.closing] at hclosing
    have hsources := hrules _ rule hrule
    rw [hkind] at hsources
    cases hsources with
    | region _ _ _ hends => exact EndPattern.isCompiled_of_made? hends hclosing
  · exact (hrules id rule hrule).isCompiled hpattern

/-- All regions have begun with matches of their rules, and whatever competes has been compiled. -/
structure SearchesCompiled (scan : LineScan) (Lines : Line → Prop) (state : Drive) : Prop where
  begun : state.scene.stack.Begun scan.repository Lines
  compiled : ∀ candidate ∈ scan.candidates state.scene.stack (scan.offered state.scene),
    candidate.pattern.IsCompiled scan.repository.budget

/-- It is so in all states that a scan gets to. -/
theorem Going.searchesCompiled {Holds : TextKind → String → Prop} (h : scan.Going Lines state)
    (hscan : scan.KeepsSound) (hnumbered : Compile.Numbered scan.repository.rules)
    (hrules : ∀ id rule, scan.repository.rule? id = some rule →
      Compile.FromSources Holds scan.repository.budget rule.kind)
    (hline : Lines scan.line) {last : Drive} (hreaches : scan.Reaches state last) :
    scan.SearchesCompiled Lines last := by
  have hbegun := (h.reaches hscan hnumbered hline hreaches).begun
  exact ⟨hbegun, fun candidate hmem => compiles_of_candidate hrules hbegun hmem⟩

end LineScan

namespace Repository

variable {grammar : Grammar} {budget : Nat} {repository : Repository} {Lines : Line → Prop}

/-- The scan of a line starts with the regions of the line before. -/
theorem lineStart_going (stallLimit : Nat) {progress : ScanProgress}
    (hsound : progress.emission.session.Sound repository) (h : progress.stack.Begun repository Lines)
    (chars : List Char) :
    (repository.lineScan stallLimit progress chars).Going Lines (progress.lineStart chars) :=
  ⟨hsound, h.clearAnchors⟩

/-- One more line leaves regions that have begun, in a sound session. -/
theorem scanNextLine_begun (hnumbered : Compile.Numbered repository.rules) (stallLimit : Nat)
    {progress : ScanProgress} (hsound : progress.emission.session.Sound repository)
    (h : progress.stack.Begun repository Lines) {chars : List Char}
    (hline : Lines (Line.ofChars (terminated chars))) :
    let next := repository.scanNextLine stallLimit progress chars
    next.emission.session.Sound repository ∧ next.stack.Begun repository Lines := by
  dsimp only
  rw [scanNextLine_eq]
  exact (lineStart_going stallLimit hsound h chars).drive
    (repository.lineScan_keepsSound stallLimit progress chars) hnumbered hline

/-- Line after line, all regions have begun. -/
theorem foldl_begun (hnumbered : Compile.Numbered repository.rules) (stallLimit : Nat)
    (lines : List (List Char)) {progress : ScanProgress}
    (hsound : progress.emission.session.Sound repository) (h : progress.stack.Begun repository Lines)
    (hlines : ∀ chars ∈ lines, Lines (Line.ofChars (terminated chars))) :
    let reached := lines.foldl (repository.scanNextLine stallLimit) progress
    reached.emission.session.Sound repository ∧ reached.stack.Begun repository Lines := by
  induction lines generalizing progress with
  | nil => exact ⟨hsound, h⟩
  | cons chars rest ih =>
    obtain ⟨hfirst, hrest⟩ := List.forall_mem_cons.mp hlines
    obtain ⟨hsound', h'⟩ := repository.scanNextLine_begun hnumbered stallLimit hsound h hfirst
    exact ih hsound' h' hrest

/-- A grammar that is compiled has been accepted. -/
theorem ofGrammar_eq_ok (h : ofGrammar grammar budget = .ok repository) :
    Schema.violations grammar.toDocument budget = [] ∧ compile grammar budget = .ok repository := by
  rw [ofGrammar] at h
  split at h
  · next haccepted =>
    refine ⟨haccepted, ?_⟩
    cases hcompile : compile grammar budget with
    | error fault =>
      rw [hcompile] at h
      cases h
    | ok compiled =>
      rw [hcompile] at h
      cases h
      rfl
  · cases h

/-- The rules of an accepted grammar have been compiled from accepted texts. -/
theorem ofGrammar_fromSources (h : ofGrammar grammar budget = .ok repository) :
    ∀ id rule, repository.rule? id = some rule →
      Compile.FromSources (Schema.Accepted (grammar.context repository.budget)) repository.budget
        rule.kind := by
  obtain ⟨haccepted, hcompile⟩ := ofGrammar_eq_ok h
  have hall := Grammar.all_of_violations haccepted
  rw [← (compile_compiled hall hcompile).2] at hall
  exact fun id rule hrule => compile_fromSources hall hcompile hrule

/-- The end of an accepted region compiles with empty texts: that is what the checks have tried. -/
theorem template_compiles_of_empty (h : ofGrammar grammar budget = .ok repository) {id : RuleId}
    {region : Region} {ending : EndTemplate} (hkind : repository.kind? id = some (.region region))
    (hending : region.closing = .template ending) {texts : List (Option (List Char))}
    (hempty : ∀ group, 1 ≤ group → group ≤ 9 → texts[group]?.join.getD [] = []) :
    ∃ pattern, Pattern.compile (ending.instantiate texts) repository.budget = .ok pattern := by
  obtain ⟨rule, hrule, hkind⟩ := Option.map_eq_some_iff.mp hkind
  have hsources := ofGrammar_fromSources h id rule hrule
  rw [hkind] at hsources
  cases hsources with
  | region _ hends _ hclosing =>
    obtain ⟨closing, hcompiled, hprobe⟩ := hends
    obtain rfl : closing = region.closing := Except.ok.inj (hcompiled.symm.trans hclosing)
    rw [ending.instantiate_of_empty hempty]
    exact hprobe ending hending

/-- **What scans search for has been compiled.** Take any scan over an accepted grammar that starts with a
fresh stack, or with one on which all regions have begun, and any line of it. In all states that the scan
gets to there, and in those of the scans of groups, all patterns that compete have been compiled, and each
region has begun with a match of its rule and waits for the end that is made of this match. It has no end
only if its end is a template that does not compile with the texts of the groups. If these texts are empty
it does compile. Whatever they are, a template that is a sound form compiles, unless it takes too much
room or nests too deep. -/
theorem searches_compiled (haccepted : ofGrammar grammar budget = .ok repository) {session : Session}
    (hsession : session.Sound repository) {state : Option ScopeStack}
    (hstate : (state.getD (.fresh repository)).Begun repository Lines) (settings : ScannerSettings)
    (before : List (List Char)) (chars : List Char)
    (hlines : ∀ other ∈ before ++ [chars], Lines (Line.ofChars (terminated other))) :
    let progress := before.foldl (repository.scanNextLine settings.stallLimit)
      (.begin settings session (state.getD (.fresh repository)))
    (progress.emission.session.Sound repository ∧ progress.stack.Begun repository Lines) ∧
    (let scan := repository.lineScan settings.stallLimit progress chars
      ∀ last, scan.Reaches (progress.lineStart chars) last → scan.SearchesCompiled Lines last) ∧
    (∀ (offset levels : Nat) (line : Line) (start : Nat) (bottom : Frame) (emission : Emission),
      Lines line → bottom.closing = none → emission.session.Sound repository →
        let scan : LineScan := {
          repository, stallLimit := settings.stallLimit, line, offset
          reenter := reentry repository settings.stallLimit offset levels }
        ∀ last, scan.Reaches (.begin start none { bottom } emission) last →
          scan.SearchesCompiled Lines last) ∧
    (∀ frame region line groups, Frame.BegunBy repository frame region line groups →
      (frame.closing = none ↔ ∃ ending, region.closing = .template ending ∧ ∀ pattern,
        Pattern.compile (ending.instantiate (groups.texts line)) repository.budget ≠ .ok pattern)) ∧
    (∀ id region ending, repository.kind? id = some (.region region) →
      region.closing = .template ending → ∀ texts : List (Option (List Char)),
        (∀ group, 1 ≤ group → group ≤ 9 → texts[group]?.join.getD [] = []) →
          ∃ pattern, Pattern.compile (ending.instantiate texts) repository.budget = .ok pattern) ∧
    ∀ (form : Regex.Form BeginGroup) (texts : List (Option (List Char))), form.isSound = true →
      let source := (EndTemplate.ofForm form).instantiate texts
      (∃ pattern, Pattern.compile source repository.budget = .ok pattern) ∨
        Pattern.compileRegex source.toList = .error .tooLarge ∨
        Pattern.compileRegex source.toList = .error .nestedTooDeep := by
  dsimp only
  have hnumbered := compile_numbered (ofGrammar_eq_ok haccepted).2
  have hsources := ofGrammar_fromSources haccepted
  obtain ⟨hbefore, hlast⟩ := List.forall_mem_append.mp hlines
  have hchars : Lines (Line.ofChars (terminated chars)) := hlast chars List.mem_cons_self
  have hstart : (ScanProgress.begin settings session (state.getD (.fresh repository))).stack.Begun
      repository Lines := hstate
  obtain ⟨hsound, hbegun⟩ :=
    repository.foldl_begun hnumbered settings.stallLimit before hsession hstart hbefore
  refine ⟨⟨hsound, hbegun⟩, fun last hreaches => ?_, ?_, fun frame region line groups hframe => ?_,
    fun id region ending hkind hending texts hempty =>
      template_compiles_of_empty haccepted hkind hending hempty,
    fun form texts hsound => EndTemplate.form_compiles hsound texts repository.budget⟩
  · exact (lineStart_going settings.stallLimit hsound hbegun chars).searchesCompiled
      (repository.lineScan_keepsSound settings.stallLimit _ chars) hnumbered hsources hchars hreaches
  · intro offset levels line start bottom emission hline hbottom hsound last hreaches
    have hgoing : LineScan.Going {
        repository, stallLimit := settings.stallLimit, line, offset
        reenter := reentry repository settings.stallLimit offset levels } Lines
        (.begin start none { bottom } emission) := ⟨hsound, .plain hbottom⟩
    exact hgoing.searchesCompiled
      (reentry_keepsSound repository settings.stallLimit offset levels line) hnumbered hsources hline
      hreaches
  · rw [hframe.closing]
    exact EndPattern.made?_eq_none_iff

/-- A region that ends with a letter from `a` up to the one that it has begun with. The reference stands
inside brackets, where no form has a hole. -/
def rangeGrammar : Grammar where
  scopeName := "source.t"
  patterns := [{ reference := some "#x" }]
  repository := [("x", { opening := some "(A)", closing := some "[a-\\1]", name := some "region" })]

theorem rangeGrammar_open :
    (match ofGrammar rangeGrammar 1000 with
      | .ok repository =>
        match repository.kind? 0 with
        | some (.region region) =>
          match region.closing, region.opening.findAt (Line.ofString "A\n") 0 false with
          | .template ending, .ok (some groups) =>
            let source := ending.instantiate (groups.texts (Line.ofString "A\n"))
            let finish := (Text.lines "A".toList).foldl (repository.scanNextLineWithin 32 8)
              (.begin {} {} (.fresh repository))
            (Pattern.compile source 1000).toOption.isNone &&
              decide (finish.stack.regions.map Frame.closing = [none])
          | _, _ => false
        | _ => false
      | .error _ => false) = true := by
  decide +kernel

/-- The checks accept a grammar that has a region without an end: the template compiles with empty texts,
but an `A` in place of the reference makes a range whose bounds are in the wrong order. -/
theorem rangeGrammar_lacks_end :
    ∃ repository region ending groups, ofGrammar rangeGrammar 1000 = .ok repository ∧
      repository.kind? 0 = some (.region region) ∧ region.closing = .template ending ∧
      region.opening.findAt (Line.ofString "A\n") 0 false = .ok (some groups) ∧
      (∀ pattern, Pattern.compile (ending.instantiate (groups.texts (Line.ofString "A\n"))) 1000 ≠
        .ok pattern) ∧
      (repository.scan {} {} "A" none).1.endState.regions.map Frame.closing = [none] := by
  have hopen := rangeGrammar_open
  split at hopen
  · next repository hgrammar =>
    split at hopen
    · next region hkind =>
      split at hopen
      · next ending groups hclosing hfound =>
        simp only [scanNextLineWithin_eq, Bool.and_eq_true, decide_eq_true_eq] at hopen
        obtain ⟨hfails, hregions⟩ := hopen
        refine ⟨repository, region, ending, groups, hgrammar, hkind, hclosing, hfound, ?_, hregions⟩
        intro pattern hcompile
        rw [hcompile] at hfails
        cases hfails
      · cases hopen
    · cases hopen
  · cases hopen

/-- The end of a document in a text: its name at the start of a line, as a whole word, in front of a
semicolon or the end of the line. -/
def documentEnd : Regex.Form BeginGroup where
  first := [
    .atom .lineStart none,
    .atom (.set 's' (by decide)) (some ⟨.star, .more⟩),
    .hole { number := 1 },
    .atom (.boundary false) none,
    .parens (.ahead false) [.atom (.plain ';' (by decide)) none] [[.atom .lineEnd none]] none]

/-- Documents that begin with their names. -/
def documentGrammar : Grammar where
  scopeName := "source.t"
  patterns := [{
    opening := some "<<([A-Z]+)"
    closing := some (EndTemplate.ofForm documentEnd).source
    name := some "document" }]

theorem documentGrammar_open :
    (match ofGrammar documentGrammar 1000 with
      | .ok repository =>
        let first := repository.scanNextLineWithin 32 8 (.begin {} {} (.fresh repository))
          ['<', '<', 'E', '\n']
        decide (first.stack.regions.map (Option.map Pattern.source ∘ Frame.closing) =
          [some "^\\s*E\\b(?=;|$)"])
      | .error _ => false) = true := by
  decide +kernel

/-- A document that has begun on the first line of a text waits for its name on the second. -/
theorem searches_compiled_document :
    ∃ repository, ofGrammar documentGrammar 1000 = .ok repository ∧ Session.Sound repository {} ∧
      let lines := [['<', '<', 'E', '\n'], ['x', '\n']]
      let Lines := (· ∈ Text.matchedLines lines)
      let first := repository.scanNextLine 32 (.begin {} {} (.fresh repository)) ['<', '<', 'E', '\n']
      (ScopeStack.fresh repository).Begun repository Lines ∧
      first.stack.regions.map (Option.map Pattern.source ∘ Frame.closing) = [some "^\\s*E\\b(?=;|$)"] ∧
      first.stack.Begun repository Lines ∧
      (repository.lineScan 32 first ['x', '\n']).SearchesCompiled Lines (first.lineStart ['x', '\n']) ∧
      documentEnd.isSound = true ∧
      ∃ pattern, Pattern.compile ((EndTemplate.ofForm documentEnd).instantiate [none, some ['E']])
        repository.budget = .ok pattern := by
  have hopen := documentGrammar_open
  split at hopen
  · next repository hgrammar =>
    simp only [scanNextLineWithin_eq, decide_eq_true_eq] at hopen
    have hfresh : (ScopeStack.fresh repository).Begun repository
        (· ∈ Text.matchedLines [['<', '<', 'E', '\n'], ['x', '\n']]) := .plain rfl
    obtain ⟨⟨_, hbegun⟩, hline, _, _, _, hforms⟩ := searches_compiled hgrammar (.new repository)
      (show (Option.getD none (ScopeStack.fresh repository)).Begun repository _ from hfresh) {}
      [['<', '<', 'E', '\n']] ['x', '\n'] (fun other hmem => List.mem_map_of_mem hmem)
    have hwithin : (Pattern.compileRegex ((EndTemplate.ofForm documentEnd).instantiate
        [none, some ['E']]).toList).isOk = true := by
      decide +kernel
    refine ⟨repository, hgrammar, .new repository, hfresh, hopen, hbegun, hline _ (.refl _), rfl, ?_⟩
    -- the limits of the engine are not reached
    rcases hforms documentEnd [none, some ['E']] rfl with hcompiles | hlarge | hdeep
    · exact hcompiles
    · rw [hlarge] at hwithin
      cases hwithin
    · rw [hdeep] at hwithin
      cases hwithin
  · cases hopen

end Repository

end ScopeScanner
