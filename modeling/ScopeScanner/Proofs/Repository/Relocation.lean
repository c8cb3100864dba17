import ScopeScanner.Repository.Basic

/-!
# Compiling onto another row

Rules refer to each other by their positions in the row. What a rule is compiled to depends on the row
that is there only by its length: compiled onto another row, it gives the same block of rules, renumbered
(`Compile.Relocates`).

* `Compile.Relocates.bind`: this holds of one thing compiled after the other if it holds of both.
* **`Compile.rule_relocates`**, with the lists and maps of rules inside a rule by mutual recursion.
-/

namespace ScopeScanner

/-! ## Renumbering -/

/-- The reference with the position it may hold renumbered. -/
def RuleRef.renumbered (move : RuleId → RuleId) : RuleRef → RuleRef
  | named name => .named name
  | root => .root
  | inline id => .inline (move id)

/-- The capture with the position of its rule renumbered. -/
def Capture.renumbered (move : RuleId → RuleId) (capture : Capture) : Capture where
  scopes := capture.scopes
  rule := capture.rule.map move

/-- The captures with the positions of their rules renumbered. -/
def CaptureMap.renumbered (move : RuleId → RuleId) (captures : CaptureMap) : CaptureMap :=
  captures.map fun entry => (entry.1, entry.2.renumbered move)

/-- The region with all positions that it holds renumbered. -/
def Region.renumbered (move : RuleId → RuleId) (region : Region) : Region :=
  { region with
    openingCaptures := region.openingCaptures.renumbered move
    closingCaptures := region.closingCaptures.renumbered move
    patterns := region.patterns.map (RuleRef.renumbered move) }

/-- What a rule does, with all positions renumbered. -/
def RuleKind.renumbered (move : RuleId → RuleId) : RuleKind → RuleKind
  | simple pattern captures => .simple pattern (captures.renumbered move)
  | .region inside => .region (inside.renumbered move)
  | group patterns => .group (patterns.map (RuleRef.renumbered move))
  | link target => .link (target.renumbered move)

/-- The rule with all positions renumbered, its own included. -/
def Rule.renumbered (move : RuleId → RuleId) (rule : Rule) : Rule :=
  { rule with id := move rule.id, kind := rule.kind.renumbered move }

@[simp] theorem RuleRef.renumbered_id : RuleRef.renumbered id = id := by
  funext reference
  cases reference with
  | named name => rfl
  | root => rfl
  | inline id => rfl

@[simp] theorem CaptureMap.renumbered_id (captures : CaptureMap) : captures.renumbered id = captures := by
  simp [renumbered, Capture.renumbered]

@[simp] theorem RuleKind.renumbered_id (kind : RuleKind) : kind.renumbered id = kind := by
  cases kind with
  | simple => simp [renumbered]
  | region => simp [renumbered, Region.renumbered]
  | group => simp [renumbered]
  | link => simp [renumbered]

@[simp] theorem rule_renumbered_id : Rule.renumbered id = id := by
  funext rule
  unfold Rule.renumbered
  rw [RuleKind.renumbered_id]
  rfl

theorem CaptureMap.renumbered_insert (move : RuleId → RuleId) (number : Nat) (capture : Capture)
    (captures : CaptureMap) : (captures.insert number capture).renumbered move =
      (captures.renumbered move).insert number (capture.renumbered move) := by
  induction captures with
  | nil => rfl
  | cons entry rest ih =>
    have hcons (first : Nat × Capture) (rest : CaptureMap) : renumbered move (first :: rest) =
        (first.1, first.2.renumbered move) :: rest.renumbered move := rfl
    rw [insert, hcons, insert]
    split
    · rfl
    · split
      · rfl
      · rw [hcons, ih]

namespace Compile

theorem renumbered_parseReference (move : RuleId → RuleId) (text : String) :
    (parseReference text).renumbered move = parseReference text := by
  rw [parseReference]
  split
  · rfl
  · rfl

/-! ## Relocation -/

/-- What is compiled depends on the row that is there only by its length. The row grows by a block of
rules; on another row it grows by the same block, renumbered, whatever becomes of the positions before
the block. What is compiled may hold positions itself: it is given for each renumbering of them. -/
def Relocates {α : Type} (renumbered : (RuleId → RuleId) → α → α)
    (compile : (RuleId → RuleId) → Array Rule → Except PatternError (α × Array Rule)) : Prop :=
  ∀ rules result next, compile id rules = .ok (result, next) → ∃ block, next = rules ++ block ∧
    ∀ (move : RuleId → RuleId) (rules' : Array Rule),
      (∀ i < block.size, move (rules.size + i) = rules'.size + i) →
        compile move rules' =
          .ok (renumbered move result, rules' ++ block.map (Rule.renumbered move))

namespace Relocates

variable {α β : Type} {renumbered : (RuleId → RuleId) → α → α}
  {renumbered' : (RuleId → RuleId) → β → β}
  {compile compile' : (RuleId → RuleId) → Array Rule → Except PatternError (α × Array Rule)}

theorem congr (h : Relocates renumbered compile)
    (heq : ∀ move rules, compile' move rules = compile move rules) :
    Relocates renumbered compile' := by
  obtain rfl : compile' = compile := by
    funext move rules
    exact heq move rules
  exact h

/-- What does not compile has nothing to relocate. -/
theorem fault (error : PatternError) : Relocates renumbered fun _ _ => .error error :=
  fun _ _ _ h => by cases h

theorem done (result : α) (hid : renumbered id result = result) :
    Relocates renumbered fun move rules => .ok (renumbered move result, rules) := by
  rintro rules _ _ ⟨⟩
  refine ⟨#[], by simp, fun move rules' _ => ?_⟩
  simp [hid]

/-- One rule is added; the result is made of its position. -/
theorem push (key : Option String) (scopes : List String) (kind : RuleKind) (result : RuleId → α)
    (hresult : ∀ move id, renumbered move (result id) = result (move id)) :
    Relocates renumbered fun move rules =>
      .ok (result (Compile.push key scopes (kind.renumbered move) rules).1,
        (Compile.push key scopes (kind.renumbered move) rules).2) := by
  rintro rules _ _ ⟨⟩
  refine ⟨#[⟨rules.size, key, scopes, kind⟩], by simp [Compile.push], fun move rules' hmove => ?_⟩
  have hlast : move rules.size = rules'.size := hmove 0 (by simp)
  simp [Compile.push, hresult, hlast, Rule.renumbered]

theorem bind {further : (RuleId → RuleId) → α × Array Rule → Except PatternError (β × Array Rule)}
    (hid : ∀ result, renumbered id result = result) (hfirst : Relocates renumbered compile)
    (hfurther : ∀ result, Relocates renumbered' fun move rules =>
      further move (renumbered move result, rules)) :
    Relocates renumbered' fun move rules => compile move rules >>= further move := by
  intro rules result next h
  dsimp only [Bind.bind, Except.bind] at h ⊢
  cases hstart : compile id rules with
  | error error =>
    rw [hstart] at h
    cases h
  | ok compiled =>
    rw [hstart] at h
    obtain ⟨block, hblock, hmoved⟩ := hfirst rules _ _ hstart
    have hrest : further id (renumbered id compiled.1, compiled.2) = .ok (result, next) := by
      rw [hid]
      exact h
    obtain ⟨block', rfl, hmoved'⟩ := hfurther compiled.1 compiled.2 result next hrest
    refine ⟨block ++ block', by rw [hblock, Array.append_assoc], fun move rules' hmove => ?_⟩
    rw [Array.size_append] at hmove
    rw [hmoved move rules' fun i hi => hmove i (by omega)]
    -- the second block starts behind the first one, in both rows
    refine (hmoved' move _ fun i hi => ?_).trans ?_
    · rw [hblock, Array.size_append, Array.size_append, Array.size_map, Nat.add_assoc, Nat.add_assoc]
      exact hmove _ (by omega)
    · rw [Array.map_append, Array.append_assoc]

end Relocates

/-! ## Compiling rules and lists of rules -/

section Kinds

variable {budget : Nat} {patterns : List RuleSpec} (key : Option String) (scopes : List String)

theorem group_relocates (hlist : Relocates (fun move => List.map (RuleRef.renumbered move))
      fun _ => ruleList budget patterns) :
    Relocates (fun move id => move id) (fun _ rules => do
      let (references, rules) ← ruleList budget patterns rules
      return push key scopes (.group references) rules) := by
  refine .bind (by simp) hlist fun references => ?_
  exact .push key scopes (.group references) (fun id => id) fun _ _ => rfl

theorem simple_relocates {captures : List (String × CaptureSpec RuleSpec)}
    (hcaptures : Relocates CaptureMap.renumbered fun _ => captureMap budget captures [])
    (pattern : Pattern) :
    Relocates (fun move id => move id) (fun _ rules => do
      let (captures, rules) ← captureMap budget captures [] rules
      return push key scopes (.simple pattern captures) rules) := by
  refine .bind CaptureMap.renumbered_id hcaptures fun captures => ?_
  exact .push key scopes (.simple pattern captures) (fun id => id) fun _ _ => rfl

/-- The captures of the begin come first in the row, then those of the end, then the rules inside. -/
theorem region_relocates {firsts lasts : List (String × CaptureSpec RuleSpec)}
    (hfirst : Relocates CaptureMap.renumbered fun _ => captureMap budget firsts [])
    (hlast : Relocates CaptureMap.renumbered fun _ => captureMap budget lasts [])
    (hlist : Relocates (fun move => List.map (RuleRef.renumbered move))
      fun _ => ruleList budget patterns)
    (opening : Pattern) (closing : EndPattern) (contentScopes : List String) (closingLast : Bool) :
    Relocates (fun move id => move id) (fun _ rules => do
      let (first, rules) ← captureMap budget firsts [] rules
      let (last, rules) ← captureMap budget lasts [] rules
      let (references, rules) ← ruleList budget patterns rules
      let region : Region := {
        opening, closing, openingCaptures := first, closingCaptures := last,
        patterns := references, contentScopes, closingLast }
      return push key scopes (.region region) rules) := by
  refine .bind CaptureMap.renumbered_id hfirst fun first => ?_
  refine .bind CaptureMap.renumbered_id hlast fun last => ?_
  refine .bind (by simp) hlist fun references => ?_
  exact .push key scopes (.region {
    opening, closing, openingCaptures := first, closingCaptures := last,
    patterns := references, contentScopes, closingLast }) (fun id => id) fun _ _ => rfl

end Kinds

mutual

/-- **A rule is compiled onto any row to the same rules**, renumbered. -/
theorem rule_relocates (budget : Nat) : ∀ (key : Option String) (spec : RuleSpec),
    Relocates (fun move id => move id) fun _ => rule budget key spec
  | key, ⟨reference, pattern, opening, closing, name, contentName, captures, openingCaptures,
      closingCaptures, patterns, closingLast, comment⟩ => by
    have hgroup := group_relocates key (scopesOf name) (ruleList_relocates budget patterns)
    -- what a rule says is looked for in the order in which it counts: a reference comes first
    cases reference with
    | some text =>
      refine (Relocates.push key (scopesOf name) (.link (parseReference text)) (fun id => id)
        fun _ _ => rfl).congr fun move rules => ?_
      rw [rule, RuleKind.renumbered, renumbered_parseReference]
      rfl
    | none =>
    cases pattern with
    | some source =>
      cases hcompiled : Pattern.compile source budget with
      | error error =>
        refine (Relocates.fault error).congr fun move rules => ?_
        rw [rule, hcompiled]
        rfl
      | ok pattern =>
        have hsimple := simple_relocates key (scopesOf name) (captureMap_relocates budget captures [])
          pattern
        refine hsimple.congr fun move rules => ?_
        rw [rule, hcompiled]
        rfl
    | none =>
    -- without both a begin and an end the rule is a list
    cases opening with
    | none =>
      refine hgroup.congr fun move rules => ?_
      rw [rule]
      nofun
    | some begins =>
    cases closing with
    | none =>
      refine hgroup.congr fun move rules => ?_
      rw [rule]
      nofun
    | some ends =>
    -- the end is compiled before the begin, so its fault is the one that is reported
    cases hcloses : closingPattern budget ends with
    | error error =>
      refine (Relocates.fault error).congr fun move rules => ?_
      rw [rule, hcloses]
      rfl
    | ok closing =>
    cases hopens : Pattern.compile begins budget with
    | error error =>
      refine (Relocates.fault error).congr fun move rules => ?_
      rw [rule, hcloses]
      dsimp only [Bind.bind, Except.bind]
      rw [hopens]
    | ok opening =>
      -- either end has captures of its own, or those that both ends share
      have hshared := captureMap_relocates budget captures []
      have hown (own : List (String × CaptureSpec RuleSpec))
          (howns : Relocates CaptureMap.renumbered fun _ => captureMap budget own []) :
          Relocates CaptureMap.renumbered fun _ =>
            captureMap budget (if own.isEmpty then captures else own) [] := by
        split
        · exact hshared
        · exact howns
      have hregion := region_relocates key (scopesOf name)
        (hown openingCaptures (captureMap_relocates budget openingCaptures []))
        (hown closingCaptures (captureMap_relocates budget closingCaptures []))
        (ruleList_relocates budget patterns) opening closing (scopesOf contentName) closingLast
      refine hregion.congr fun move rules => ?_
      rw [rule, hcloses]
      dsimp only [Bind.bind, Except.bind]
      rw [hopens]
      cases openingCaptures.isEmpty <;> cases closingCaptures.isEmpty <;> rfl

/-- A list of rules is compiled to the same references, renumbered. -/
theorem ruleList_relocates (budget : Nat) : ∀ specs : List RuleSpec,
    Relocates (fun move => List.map (RuleRef.renumbered move)) fun _ => ruleList budget specs
  | [] => .done [] rfl
  | spec :: rest => by
    -- what is left to do once the first rule has become a reference
    have hafter (reference : RuleRef) : Relocates (fun move => List.map (RuleRef.renumbered move))
        fun move rules => do
          let (references, rules) ← ruleList budget rest rules
          return (reference.renumbered move :: references, rules) := by
      refine .bind (by simp) (ruleList_relocates budget rest) fun references => ?_
      exact .done (reference :: references) (by simp)
    have hinline : Relocates (fun move => List.map (RuleRef.renumbered move)) fun _ rules => do
        let (id, rules) ← rule budget none spec rules
        let (references, rules) ← ruleList budget rest rules
        return (.inline id :: references, rules) :=
      .bind (fun _ => rfl) (rule_relocates budget none spec) fun id => hafter (.inline id)
    cases hreference : spec.reference with
    | none =>
      refine hinline.congr fun move rules => ?_
      rw [ruleList, hreference]
      rfl
    | some text =>
      cases hname : spec.name with
      | some name =>
        refine hinline.congr fun move rules => ?_
        rw [ruleList, hreference, hname]
        rfl
      | none =>
        refine (hafter (parseReference text)).congr fun move rules => ?_
        rw [ruleList, hreference, hname, renumbered_parseReference]
        rfl

/-- A map of captures is compiled to the same captures, renumbered, after those that are there. -/
theorem captureMap_relocates (budget : Nat) : ∀ (entries : List (String × CaptureSpec RuleSpec))
    (done : CaptureMap), Relocates CaptureMap.renumbered fun move =>
      captureMap budget entries (done.renumbered move)
  | [], done => .done done (CaptureMap.renumbered_id done)
  | (key, ⟨name, patterns⟩) :: rest, done => by
    cases hnumber : groupNumber? key with
    | none =>
      -- a key that is no number is passed over
      refine (captureMap_relocates budget rest done).congr fun move rules => ?_
      rw [captureMap, hnumber]
    | some number =>
      have hafter (nested : Option RuleId) : Relocates CaptureMap.renumbered fun move =>
          captureMap budget rest ((done.renumbered move).insert number
            { scopes := scopesOf name, rule := nested.map move }) := by
        refine (captureMap_relocates budget rest
          (done.insert number { scopes := scopesOf name, rule := nested })).congr fun move rules => ?_
        rw [CaptureMap.renumbered_insert]
        rfl
      cases hpatterns : patterns.isEmpty with
      | true =>
        refine (hafter none).congr fun move rules => ?_
        rw [captureMap, hnumber, hpatterns]
        rfl
      | false =>
        have hgroup : Relocates (fun move => Option.map move) (fun _ rules => do
            let (references, rules) ← ruleList budget patterns rules
            let (id, rules) := push none [] (.group references) rules
            pure (some id, rules)) := by
          refine .bind (by simp) (ruleList_relocates budget patterns) fun references => ?_
          exact .push none [] (.group references) some fun _ _ => rfl
        have hnested : Relocates CaptureMap.renumbered (fun move rules => do
            let (nested, rules) ← (do
              let (references, rules) ← ruleList budget patterns rules
              let (id, rules) := push none [] (.group references) rules
              pure (some id, rules))
            captureMap budget rest ((done.renumbered move).insert number
              { scopes := scopesOf name, rule := nested }) rules) :=
          .bind (by simp) hgroup hafter
        refine hnested.congr fun move rules => ?_
        rw [captureMap, hnumber, hpatterns]
        cases ruleList budget patterns rules <;> rfl

end

end Compile

end ScopeScanner
