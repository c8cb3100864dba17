import ScopeScanner.Grammar.Encode
import ScopeScanner.Grammar.Schema
import ScopeScanner.Proofs.Document.Distinct
import ScopeScanner.Proofs.Repository.Compilation

/-!
# What an accepted document holds

A document without violations is taken apart here once, so that no later proof has to look at the order
of the checks again:

* **`Schema.acceptedField_of_checkRule`**: each field of an accepted rule is of its kind, its text
  compiles or refers to a rule, and what is below it has been accepted as well.
* **`Grammar.all_of_violations`**: if the document that a grammar is written as is accepted, all texts
  of the grammar are.
-/

namespace ScopeScanner

namespace Schema

/-- A text that the checks accept. -/
def Accepted (context : Context) : TextKind → String → Prop
  | .reference, text => text = "$self" ∨ text = "$base" ∨
      ∃ name, text.toList = '#' :: name ∧ String.ofList name ∈ context.rules
  | .regex, source => ∃ pattern, Pattern.compile source context.budget = .ok pattern
  | .closing, source => ∃ closing, Compile.closingPattern context.budget source = .ok closing ∧
      ∀ ending, closing = .template ending →
        ∃ probe, Pattern.compile (ending.instantiate []) context.budget = .ok probe

/-- An accepted end compiles, or is a template. -/
theorem Accepted.closing_compiles {context : Context} {source : String}
    (h : Accepted context .closing source) :
    ∃ closing, Compile.closingPattern context.budget source = .ok closing := by
  obtain ⟨closing, hclosing, _⟩ := h
  exact ⟨closing, hclosing⟩

/-! ## Checks that find nothing -/

theorem problemIf_eq_nil {condition : Bool} {path : String} {found : Problem}
    (h : problemIf condition path found = []) : condition = false := by
  cases condition with
  | true => cases h
  | false => rfl

theorem checkText_eq_nil {path : String} {value : Document} {further : String → List Violation}
    (h : checkText path (some value) further = []) :
    ∃ text, value = .string text ∧ further text = [] := by
  cases value with
  | string text => exact ⟨text, rfl, h⟩
  | _ => cases h

theorem checkRegex_eq_nil {context : Context} {path source : String}
    (h : checkRegex context path source = []) : Accepted context .regex source := by
  rw [checkRegex] at h
  split at h
  · next pattern hpattern => exact ⟨pattern, hpattern⟩
  · cases h

theorem checkClosing_eq_nil {context : Context} {path source : String}
    (h : checkClosing context path source = []) : Accepted context .closing source := by
  rw [checkClosing] at h
  rw [Accepted, Compile.closingPattern]
  cases htemplate : EndTemplate.ofSource? source with
  | some ending =>
    rw [htemplate] at h
    refine ⟨.template ending, rfl, fun other hother => ?_⟩
    obtain rfl := EndPattern.template.inj hother
    exact checkRegex_eq_nil h
  | none =>
    rw [htemplate] at h
    obtain ⟨pattern, hpattern⟩ := checkRegex_eq_nil h
    exact ⟨.fixed pattern, by rw [hpattern]; rfl, nofun⟩

theorem checkReference_eq_nil {context : Context} {path text : String}
    (h : checkReference context path text = []) : Accepted context .reference text := by
  rw [checkReference] at h
  split at h
  · next hroot =>
    simp only [Bool.or_eq_true, decide_eq_true_eq] at hroot
    exact hroot.imp_right Or.inl
  · split at h
    · next name hname =>
      have hknown := problemIf_eq_nil h
      exact Or.inr (Or.inr ⟨name, hname, by simpa using hknown⟩)
    · cases h

theorem checkKeys_eq_nil {path : String} {known : List String} {entries : List (String × Document)}
    (h : checkKeys path known entries = []) : ∀ entry ∈ entries, entry.1 ∈ known := by
  intro entry hmem
  have hentry := problemIf_eq_nil (List.flatMap_eq_nil_iff.mp h entry hmem)
  simpa using hentry

/-! ## Rules -/

/-- The keys of a rule whose values are texts. -/
def ruleTextKeys : List String :=
  ["include", "match", "begin", "end", "name", "contentName", "comment"]

/-- The keys of a rule whose values are maps of captures. -/
def ruleCaptureKeys : List String :=
  ["captures", "beginCaptures", "endCaptures"]

theorem mem_ruleKeys_of_text : ∀ key ∈ ruleTextKeys, key ∈ ruleKeys := by decide

theorem mem_ruleKeys_of_captures : ∀ key ∈ ruleCaptureKeys, key ∈ ruleKeys := by decide

/-- A field of a rule that the checks accept. -/
structure AcceptedField (context : Context) (path key : String) (value : Document) : Prop where
  known : key ∈ ruleKeys
  text : key ∈ ruleTextKeys → ∃ text, value = .string text ∧
    (key = "include" → Accepted context .reference text) ∧
    (key = "match" ∨ key = "begin" → Accepted context .regex text) ∧
    (key = "end" → Accepted context .closing text)
  captures : key ∈ ruleCaptureKeys → ∃ entries, value = .object entries ∧
    checkCaptures context (Pointer.key path key) entries = []
  patterns : key = "patterns" → ∃ items, value = .array items ∧
    checkRules context (Pointer.key path key) 0 items = []
  flag : key = "applyEndPatternLast" → ∃ flag, value = .bool flag

/-- The violations below one field of a rule. -/
def belowField (context : Context) (path key : String) (value : Document) : List Violation :=
  match key with
  | "captures" | "beginCaptures" | "endCaptures" =>
    match value with
    | .object entries => checkCaptures context (Pointer.key path key) entries
    | _ => problem (Pointer.key path key) .notObject
  | "patterns" =>
    match value with
    | .array items => checkRules context (Pointer.key path key) 0 items
    | _ => problem (Pointer.key path key) .notRuleArray
  | _ => []

theorem checkBelow_cons (context : Context) (path key : String) (value : Document)
    (rest : List (String × Document)) :
    checkBelow context path ((key, value) :: rest) =
      (key, belowField context path key value) :: checkBelow context path rest := by
  rw [checkBelow.eq_def]
  refine congrArg (fun found => (key, found) :: checkBelow context path rest) ?_
  unfold belowField
  split <;> cases value <;> simp_all

theorem checkBelow_eq_map (context : Context) (path : String) (entries : List (String × Document)) :
    checkBelow context path entries =
      entries.map fun entry => (entry.1, belowField context path entry.1 entry.2) := by
  induction entries with
  | nil => rfl
  | cons entry rest ih =>
    obtain ⟨key, value⟩ := entry
    rw [List.map_cons, checkBelow_cons, ih]

section Rule

variable {context : Context} {path : String} {entries : List (String × Document)}

/-- A field that is checked on its own has no violations below it. -/
theorem belowField_eq_nil (hkeys : (entries.map (·.1)).Nodup) {key : String} {value : Document}
    (hmem : (key, value) ∈ entries)
    (h : ((checkBelow context path entries).lookup key).getD [] = []) :
    belowField context path key value = [] := by
  have hbelow : (checkBelow context path entries).lookup key =
      some (belowField context path key value) := by
    rw [checkBelow_eq_map]
    apply lookup_of_mem
    · rw [List.map_map]
      exact hkeys
    · exact List.mem_map.mpr ⟨(key, value), hmem, rfl⟩
  rwa [hbelow] at h

/-- What the checks of a rule's own keys have found to be right, key by key. -/
structure CleanKeys (context : Context) (path : String) (entries : List (String × Document)) :
    Prop where
  known : checkKeys path ruleKeys entries = []
  name : checkText (Pointer.key path "name") (entries.lookup "name") = []
  contentName : checkText (Pointer.key path "contentName") (entries.lookup "contentName") = []
  comment : checkText (Pointer.key path "comment") (entries.lookup "comment") = []
  reference : (entries.lookup "include").isSome = true →
    checkText (Pointer.key path "include") (entries.lookup "include")
      (checkReference context (Pointer.key path "include")) = []
  pattern : checkText (Pointer.key path "match") (entries.lookup "match")
    (checkRegex context (Pointer.key path "match")) = []
  opening : checkText (Pointer.key path "begin") (entries.lookup "begin")
    (checkRegex context (Pointer.key path "begin")) = []
  closing : checkText (Pointer.key path "end") (entries.lookup "end")
    (checkClosing context (Pointer.key path "end")) = []
  flag : ∀ value, entries.lookup "applyEndPatternLast" = some value → ∃ flag, value = .bool flag

/-- Nothing that is said about which keys go together is needed here: a rule with keys that do not is
refused, but it would be read. -/
theorem cleanKeys_of_checkRuleKeys (h : checkRuleKeys context path entries = []) :
    CleanKeys context path entries := by
  simp only [checkRuleKeys, List.append_eq_nil_iff, and_assoc] at h
  obtain ⟨hknown, hname, hcontent, hcomment, hinclude, _, _, _, _, _, _, hmatch, hbegin, hend,
    hflag⟩ := h
  refine ⟨hknown, hname, hcontent, hcomment, ?_, hmatch, hbegin, hend, ?_⟩
  · intro hsome
    rw [if_pos hsome] at hinclude
    exact (List.append_eq_nil_iff.mp hinclude).2
  · intro value hvalue
    rw [hvalue] at hflag
    cases value with
    | bool flag => exact ⟨flag, rfl⟩
    | _ => cases hflag

/-- The texts of an accepted rule. -/
theorem acceptedText_of_cleanKeys (hkeys : (entries.map (·.1)).Nodup) {key : String}
    {value : Document} (hmem : (key, value) ∈ entries)
    (h : CleanKeys context path entries) (hkey : key ∈ ruleTextKeys) :
    ∃ text, value = .string text ∧
      (key = "include" → Accepted context .reference text) ∧
      (key = "match" ∨ key = "begin" → Accepted context .regex text) ∧
      (key = "end" → Accepted context .closing text) := by
  have hlookup := lookup_of_mem hkeys hmem
  simp only [ruleTextKeys, List.mem_cons, List.not_mem_nil, or_false] at hkey
  rcases hkey with rfl | rfl | rfl | rfl | rfl | rfl | rfl
  · have hinclude := h.reference (by rw [hlookup]; rfl)
    rw [hlookup] at hinclude
    obtain ⟨text, htext, hfurther⟩ := checkText_eq_nil hinclude
    exact ⟨text, htext, fun _ => checkReference_eq_nil hfurther, by simp, by simp⟩
  · obtain ⟨text, htext, hfurther⟩ := checkText_eq_nil (hlookup ▸ h.pattern)
    exact ⟨text, htext, by simp, fun _ => checkRegex_eq_nil hfurther, by simp⟩
  · obtain ⟨text, htext, hfurther⟩ := checkText_eq_nil (hlookup ▸ h.opening)
    exact ⟨text, htext, by simp, fun _ => checkRegex_eq_nil hfurther, by simp⟩
  · obtain ⟨text, htext, hfurther⟩ := checkText_eq_nil (hlookup ▸ h.closing)
    exact ⟨text, htext, by simp, by simp, fun _ => checkClosing_eq_nil hfurther⟩
  · obtain ⟨text, htext, _⟩ := checkText_eq_nil (hlookup ▸ h.name)
    exact ⟨text, htext, by simp, by simp, by simp⟩
  · obtain ⟨text, htext, _⟩ := checkText_eq_nil (hlookup ▸ h.contentName)
    exact ⟨text, htext, by simp, by simp, by simp⟩
  · obtain ⟨text, htext, _⟩ := checkText_eq_nil (hlookup ▸ h.comment)
    exact ⟨text, htext, by simp, by simp, by simp⟩

/-- The maps of captures of an accepted rule. -/
theorem acceptedCaptures_of_belowField {key : String} {value : Document}
    (h : belowField context path key value = []) (hkey : key ∈ ruleCaptureKeys) :
    ∃ entries, value = .object entries ∧
      checkCaptures context (Pointer.key path key) entries = [] := by
  simp only [ruleCaptureKeys, List.mem_cons, List.not_mem_nil, or_false] at hkey
  rcases hkey with rfl | rfl | rfl
  all_goals
    cases value with
    | object entries => exact ⟨entries, rfl, h⟩
    | _ => cases h

/-- **Each field of an accepted rule is accepted.** -/
theorem acceptedField_of_checkRule (hkeys : (entries.map (·.1)).Nodup)
    (h : checkRule context path (.object entries) = []) (key : String) (value : Document)
    (hmem : (key, value) ∈ entries) : AcceptedField context path key value := by
  rw [checkRule] at h
  simp only [List.append_eq_nil_iff, and_assoc] at h
  obtain ⟨hrule, hcaptures, hopening, hclosing, hpatterns⟩ := h
  -- what is wrong below a rule is noted by key, and looked up in a fixed order
  have hbelow (hkey : key ∈ ruleCaptureKeys ∨ key = "patterns") :
      belowField context path key value = [] := by
    apply belowField_eq_nil hkeys hmem
    simp only [ruleCaptureKeys, List.mem_cons, List.not_mem_nil, or_false] at hkey
    rcases hkey with (rfl | rfl | rfl) | rfl
    · exact hcaptures
    · exact hopening
    · exact hclosing
    · exact hpatterns
  have hclean := cleanKeys_of_checkRuleKeys hrule
  refine ⟨checkKeys_eq_nil hclean.known _ hmem, acceptedText_of_cleanKeys hkeys hmem hclean,
    ?_, ?_, ?_⟩
  · exact fun hkey => acceptedCaptures_of_belowField (hbelow (Or.inl hkey)) hkey
  · rintro rfl
    have hnil := hbelow (Or.inr rfl)
    cases value with
    | array items => exact ⟨items, rfl, hnil⟩
    | _ => cases hnil
  · rintro rfl
    exact hclean.flag value (lookup_of_mem hkeys hmem)

end Rule

/-! ## Lists of rules and maps of captures -/

/-- The items of an accepted list of rules are accepted. -/
theorem checkRules_eq_nil {context : Context} {path : String} {index : Nat} {items : List Document}
    (h : checkRules context path index items = []) :
    ∀ item ∈ items, ∃ below, checkRule context below item = [] := by
  induction items generalizing index with
  | nil => intro item hmem; cases hmem
  | cons first rest ih =>
    rw [checkRules] at h
    obtain ⟨hfirst, hrest⟩ := List.append_eq_nil_iff.mp h
    intro item hmem
    rcases List.mem_cons.mp hmem with rfl | hmem
    · exact ⟨_, hfirst⟩
    · exact ih hrest item hmem

/-- A field of a capture that the checks accept. -/
structure AcceptedCaptureField (context : Context) (path key : String) (value : Document) :
    Prop where
  known : key ∈ captureKeys
  name : key = "name" → ∃ text, value = .string text
  patterns : key = "patterns" → ∃ items, value = .array items ∧
    checkRules context (Pointer.key path key) 0 items = []

/-- The violations below one field of a capture. -/
def belowCaptureField (context : Context) (path key : String) (value : Document) : List Violation :=
  match key with
  | "patterns" =>
    match value with
    | .array items => checkRules context (Pointer.key path key) 0 items
    | _ => problem (Pointer.key path key) .notRuleArray
  | _ => []

theorem checkCaptureRules_eq_map (context : Context) (path : String)
    (entries : List (String × Document)) :
    checkCaptureRules context path entries =
      entries.map fun entry => (entry.1, belowCaptureField context path entry.1 entry.2) := by
  induction entries with
  | nil => rfl
  | cons entry rest ih =>
    obtain ⟨key, value⟩ := entry
    rw [List.map_cons, checkCaptureRules.eq_def, ← ih]
    refine congrArg (fun found => (key, found) :: checkCaptureRules context path rest) ?_
    unfold belowCaptureField
    split <;> cases value <;> simp_all

/-- The captures of an accepted map are objects with accepted fields. -/
theorem checkCaptures_eq_nil {context : Context} {path : String}
    {entries : List (String × Document)} (h : checkCaptures context path entries = []) :
    ∀ entry ∈ entries, ∃ below fields, entry.2 = .object fields ∧
      ((fields.map (·.1)).Nodup → ∀ field ∈ fields,
        AcceptedCaptureField context below field.1 field.2) := by
  induction entries with
  | nil => intro entry hmem; cases hmem
  | cons first rest ih =>
    obtain ⟨number, capture⟩ := first
    rw [checkCaptures.eq_def] at h
    dsimp only at h
    obtain ⟨hfirst, hrest⟩ := List.append_eq_nil_iff.mp h
    intro entry hmem
    rcases List.mem_cons.mp hmem with rfl | hmem
    · have hcapture := (List.append_eq_nil_iff.mp hfirst).2
      cases capture with
      | object fields =>
        refine ⟨Pointer.key path number, fields, rfl, ?_⟩
        rintro hkeys ⟨key, value⟩ hfield
        simp only [List.append_eq_nil_iff, and_assoc] at hcapture
        obtain ⟨hknown, hname, hpatterns⟩ := hcapture
        refine ⟨checkKeys_eq_nil hknown _ hfield, ?_, ?_⟩
        · rintro rfl
          rw [lookup_of_mem hkeys hfield] at hname
          obtain ⟨text, htext, _⟩ := checkText_eq_nil hname
          exact ⟨text, htext⟩
        · rintro rfl
          -- as for rules, what is wrong below is noted by key
          have hbelow : (checkCaptureRules context (Pointer.key path number) fields).lookup
              "patterns" =
                some (belowCaptureField context (Pointer.key path number) "patterns" value) := by
            rw [checkCaptureRules_eq_map]
            apply lookup_of_mem
            · rw [List.map_map]
              exact hkeys
            · exact List.mem_map.mpr ⟨("patterns", value), hfield, rfl⟩
          rw [hbelow] at hpatterns
          cases value with
          | array items => exact ⟨items, rfl, hpatterns⟩
          | _ => cases hpatterns
      | _ => cases hcapture
    · exact ih hrest entry hmem

end Schema

/-! ## Grammars as they are written -/

theorem mem_textField {key text : String} {value : Option String} (h : text ∈ value) :
    (key, Document.string text) ∈ textField key value := by
  rw [Option.mem_def] at h
  rw [h]
  exact List.mem_singleton_self _

theorem mem_arrayField {key : String} {items : List Document} (h : items ≠ []) :
    (key, Document.array items) ∈ arrayField key items := by
  rw [arrayField, if_neg (by simpa using h)]
  exact List.mem_singleton_self _

theorem mem_objectField {key : String} {entries : List (String × Document)} (h : entries ≠ []) :
    (key, Document.object entries) ∈ objectField key entries := by
  rw [objectField, if_neg (by simpa using h)]
  exact List.mem_singleton_self _

theorem textField_keys (key : String) (value : Option String) :
    ((textField key value).map (·.1)).Sublist [key] := by
  cases value with
  | none => exact List.nil_sublist _
  | some text => exact List.Sublist.refl _

theorem arrayField_keys (key : String) (items : List Document) :
    ((arrayField key items).map (·.1)).Sublist [key] := by
  rw [arrayField]
  split
  · exact List.nil_sublist _
  · exact List.Sublist.refl _

theorem objectField_keys (key : String) (entries : List (String × Document)) :
    ((objectField key entries).map (·.1)).Sublist [key] := by
  rw [objectField]
  split
  · exact List.nil_sublist _
  · exact List.Sublist.refl _

theorem flagField_keys (key : String) (value : Bool) :
    ((flagField key value).map (·.1)).Sublist [key] := by
  cases value with
  | false => exact List.nil_sublist _
  | true => exact List.Sublist.refl _

namespace Schema

variable {context : Context}

theorem ruleKeys_nodup : ruleKeys.Nodup := by
  simp [ruleKeys]

/-- A rule is written with each key once. -/
theorem ruleFields_nodup (reference pattern opening closing name contentName comment : Option String)
    (captures openingCaptures closingCaptures : List (String × Document)) (patterns : List Document)
    (closingLast : Bool) :
    ((textField "include" reference ++ textField "match" pattern ++ textField "begin" opening ++
      textField "end" closing ++ textField "name" name ++ textField "contentName" contentName ++
      objectField "captures" captures ++ objectField "beginCaptures" openingCaptures ++
      objectField "endCaptures" closingCaptures ++ arrayField "patterns" patterns ++
      flagField "applyEndPatternLast" closingLast ++ textField "comment" comment).map (·.1)).Nodup := by
  simp only [List.map_append]
  refine List.Sublist.nodup ?_ ruleKeys_nodup
  show List.Sublist _ (["include"] ++ ["match"] ++ ["begin"] ++ ["end"] ++ ["name"] ++
    ["contentName"] ++ ["captures"] ++ ["beginCaptures"] ++ ["endCaptures"] ++ ["patterns"] ++
    ["applyEndPatternLast"] ++ ["comment"])
  apply_rules [List.Sublist.append, textField_keys, objectField_keys, arrayField_keys,
    flagField_keys]

/-- What is accepted of a rule when the document that it is written as is. -/
structure AcceptedRule (context : Context) (rule : RuleSpec) : Prop where
  reference : ∀ text ∈ rule.reference, Accepted context .reference text
  pattern : ∀ text ∈ rule.pattern, Accepted context .regex text
  opening : ∀ text ∈ rule.opening, Accepted context .regex text
  closing : ∀ text ∈ rule.closing, Accepted context .closing text
  captures : ∀ captures ∈ [rule.captures, rule.openingCaptures, rule.closingCaptures],
    ∃ below, checkCaptures context below (captureDocuments captures) = []
  patterns : ∀ item ∈ ruleDocuments rule.patterns, ∃ below, checkRule context below item = []

theorem acceptedRule_of_checkRule {rule : RuleSpec} {path : String}
    (h : checkRule context path rule.toDocument = []) : AcceptedRule context rule := by
  obtain ⟨reference, pattern, opening, closing, name, contentName, captures, openingCaptures,
    closingCaptures, patterns, closingLast, comment⟩ := rule
  rw [RuleSpec.toDocument] at h
  have hfield := acceptedField_of_checkRule
    (ruleFields_nodup reference pattern opening closing name contentName comment
      (captureDocuments captures) (captureDocuments openingCaptures)
      (captureDocuments closingCaptures) (ruleDocuments patterns) closingLast) h
  simp only [List.mem_append, or_assoc] at hfield
  -- a map of captures that is not written holds nothing that could be wrong
  have hmap (key : String) (captures : List (String × CaptureSpec RuleSpec))
      (hkey : key ∈ ruleCaptureKeys)
      (hwritten : captureDocuments captures ≠ [] →
        AcceptedField context path key (.object (captureDocuments captures))) :
      ∃ below, checkCaptures context below (captureDocuments captures) = [] := by
    by_cases hempty : captureDocuments captures = []
    · rw [hempty]
      exact ⟨path, rfl⟩
    · obtain ⟨entries, hentries, hcheck⟩ := (hwritten hempty).captures hkey
      cases hentries
      exact ⟨_, hcheck⟩
  refine ⟨?_, ?_, ?_, ?_, ?_, ?_⟩
  · intro text ht
    obtain ⟨_, hvalue, haccepted, _⟩ :=
      (hfield "include" (.string text) (by simp only [mem_textField ht, true_or])).text
        (by simp [ruleTextKeys])
    cases hvalue
    exact haccepted rfl
  · intro text ht
    obtain ⟨_, hvalue, _, haccepted, _⟩ :=
      (hfield "match" (.string text) (by simp only [mem_textField ht, true_or, or_true])).text
        (by simp [ruleTextKeys])
    cases hvalue
    exact haccepted (Or.inl rfl)
  · intro text ht
    obtain ⟨_, hvalue, _, haccepted, _⟩ :=
      (hfield "begin" (.string text) (by simp only [mem_textField ht, true_or, or_true])).text
        (by simp [ruleTextKeys])
    cases hvalue
    exact haccepted (Or.inr rfl)
  · intro text ht
    obtain ⟨_, hvalue, _, _, haccepted⟩ :=
      (hfield "end" (.string text) (by simp only [mem_textField ht, true_or, or_true])).text
        (by simp [ruleTextKeys])
    cases hvalue
    exact haccepted rfl
  · intro written hmem
    simp only [List.mem_cons, List.not_mem_nil, or_false] at hmem
    rcases hmem with rfl | rfl | rfl
    · exact hmap "captures" _ (by simp [ruleCaptureKeys]) fun hne =>
        hfield "captures" _ (by simp only [mem_objectField hne, true_or, or_true])
    · exact hmap "beginCaptures" _ (by simp [ruleCaptureKeys]) fun hne =>
        hfield "beginCaptures" _ (by simp only [mem_objectField hne, true_or, or_true])
    · exact hmap "endCaptures" _ (by simp [ruleCaptureKeys]) fun hne =>
        hfield "endCaptures" _ (by simp only [mem_objectField hne, true_or, or_true])
  · by_cases hempty : ruleDocuments patterns = []
    · intro item hitem
      rw [show ruleDocuments patterns = [] from hempty] at hitem
      cases hitem
    · obtain ⟨items, hitems, hcheck⟩ :=
        (hfield "patterns" (.array (ruleDocuments patterns))
          (by simp only [mem_arrayField hempty, true_or, or_true])).patterns rfl
      cases hitems
      exact checkRules_eq_nil hcheck

/-- The rules of an accepted capture are accepted. -/
theorem checkRule_of_capture {path : String} {name : Option String} {patterns : List RuleSpec}
    (h : ((textField "name" name ++ arrayField "patterns" (ruleDocuments patterns)).map (·.1)).Nodup →
      ∀ field ∈ textField "name" name ++ arrayField "patterns" (ruleDocuments patterns),
        AcceptedCaptureField context path field.1 field.2) :
    ∀ item ∈ ruleDocuments patterns, ∃ below, checkRule context below item = [] := by
  intro item hitem
  have hkeys : ((textField "name" name ++
      arrayField "patterns" (ruleDocuments patterns)).map (·.1)).Nodup := by
    rw [List.map_append]
    exact ((textField_keys "name" name).append
      (arrayField_keys "patterns" (ruleDocuments patterns))).nodup (by simp)
  have hwritten := h hkeys ("patterns", .array (ruleDocuments patterns))
    (List.mem_append_right _ (mem_arrayField (List.ne_nil_of_mem hitem)))
  obtain ⟨items, hitems, hcheck⟩ := hwritten.patterns rfl
  cases hitems
  exact checkRules_eq_nil hcheck item hitem

mutual

/-- The texts of a rule are accepted if the document that the rule is written as is. -/
theorem all_of_checkRule : ∀ (rule : RuleSpec) (path : String),
    checkRule context path rule.toDocument = [] → rule.All (Accepted context)
  | ⟨_, _, _, _, _, _, captures, openingCaptures, closingCaptures, patterns, _, _⟩ => by
    -- taken only now: matching on the hypothesis would unfold the checks of the whole rule
    intro path h
    have haccepted := acceptedRule_of_checkRule h
    obtain ⟨_, hcaptures⟩ := haccepted.captures captures (by simp)
    obtain ⟨_, hopening⟩ := haccepted.captures openingCaptures (by simp)
    obtain ⟨_, hclosing⟩ := haccepted.captures closingCaptures (by simp)
    exact ⟨haccepted.reference, haccepted.pattern, haccepted.opening, haccepted.closing,
      allCaptures_of_check captures (checkCaptures_eq_nil hcaptures),
      allCaptures_of_check openingCaptures (checkCaptures_eq_nil hopening),
      allCaptures_of_check closingCaptures (checkCaptures_eq_nil hclosing),
      allRules_of_check patterns haccepted.patterns⟩

theorem allRules_of_check : ∀ rules : List RuleSpec,
    (∀ item ∈ ruleDocuments rules, ∃ below, checkRule context below item = []) →
      AllRules (Accepted context) rules
  | [] => fun _ => trivial
  | rule :: rest => by
    intro h
    obtain ⟨below, hrule⟩ := h rule.toDocument List.mem_cons_self
    exact ⟨all_of_checkRule rule below hrule,
      allRules_of_check rest fun item hitem => h item (List.mem_cons_of_mem _ hitem)⟩

theorem allCaptures_of_check : ∀ captures : List (String × CaptureSpec RuleSpec),
    (∀ entry ∈ captureDocuments captures, ∃ below fields, entry.2 = .object fields ∧
      ((fields.map (·.1)).Nodup → ∀ field ∈ fields,
        AcceptedCaptureField context below field.1 field.2)) →
      AllCaptures (Accepted context) captures
  | [] => fun _ => trivial
  | (_, ⟨_, patterns⟩) :: rest => by
    intro h
    obtain ⟨below, fields, hcapture, hfields⟩ := h _ List.mem_cons_self
    cases hcapture
    exact ⟨allRules_of_check patterns (checkRule_of_capture hfields),
      allCaptures_of_check rest fun entry hentry => h entry (List.mem_cons_of_mem _ hentry)⟩

end

/-! ## Grammars -/

/-- The keys of a grammar whose values are texts, but for the scope name. -/
def grammarTextKeys : List String :=
  ["firstLineMatch", "foldingStartMarker", "foldingStopMarker", "keyEquivalent", "uuid", "name"]

theorem mem_grammarKeys_of_text : ∀ key ∈ grammarTextKeys, key ∈ grammarKeys := by decide

/-- The entries of the repository of a grammar document. -/
def repositoryEntries (entries : List (String × Document)) : List (String × Document) :=
  match entries.lookup "repository" with
  | some (.object repository) => repository
  | _ => []

/-- What the checks of a grammar document know about it. -/
def contextOf (entries : List (String × Document)) (budget : Nat) : Context where
  rules := (repositoryEntries entries).map (·.1)
  budget

/-- A field of a grammar that the checks accept. -/
structure AcceptedGrammarField (context : Context) (key : String) (value : Document) : Prop where
  known : key ∈ grammarKeys
  text : key ∈ grammarTextKeys → ∃ text, value = .string text ∧
    (key = "firstLineMatch" → Accepted context .regex text)
  scopeName : key = "scopeName" → ∃ text, value = .string text
  fileTypes : key = "fileTypes" → ∃ items, value = .array items ∧
    ∀ item ∈ items, ∃ text, item = .string text
  patterns : key = "patterns" → ∃ items, value = .array items ∧
    ∀ item ∈ items, ∃ below, checkRule context below item = []
  repository : key = "repository" → ∃ entries, value = .object entries ∧
    context.rules = entries.map (·.1) ∧
    ∀ entry ∈ entries, ∃ below, checkRule context below entry.2 = []

/-- The items of an accepted list of file types are texts. -/
theorem checkFileTypes_eq_nil {value : Document} (h : checkFileTypes (some value) = []) :
    ∃ items, value = .array items ∧ ∀ item ∈ items, ∃ text, item = .string text := by
  cases value with
  | array items =>
    refine ⟨items, rfl, ?_⟩
    intro item hitem
    obtain ⟨index, hindex, rfl⟩ := List.getElem_of_mem hitem
    have hzip : (items[index], index) ∈ items.zipIdx := by
      rw [List.mem_zipIdx_iff_getElem?]
      exact List.getElem?_eq_getElem hindex
    have hnone := problemIf_eq_nil (List.flatMap_eq_nil_iff.mp h _ hzip)
    revert hnone
    dsimp only
    cases items[index] with
    | string text => exact fun _ => ⟨text, rfl⟩
    | _ => intro hnone; cases hnone
  | _ => cases h

/-- **Each field of an accepted grammar is accepted.** -/
theorem acceptedField_of_violations {document : Document} {budget : Nat}
    (h : violations document budget = []) : ∃ entries, document = .object entries ∧
      (entries.lookup "scopeName").isSome = true ∧
      ((entries.map (·.1)).Nodup → ∀ field ∈ entries,
        AcceptedGrammarField (contextOf entries budget) field.1 field.2) := by
  cases document with
  | object entries =>
    simp only [violations, List.append_eq_nil_iff, and_assoc] at h
    obtain ⟨hknown, hrepository, hscope, htexts, hline, htypes, hpatterns, hrules⟩ := h
    refine ⟨entries, rfl, ?_, ?_⟩
    · cases hlookup : entries.lookup "scopeName" with
      | some value => rfl
      | none =>
        rw [hlookup] at hscope
        cases hscope
    · rintro hkeys ⟨key, value⟩ hmem
      have hlookup := lookup_of_mem hkeys hmem
      refine ⟨checkKeys_eq_nil hknown _ hmem, ?_, ?_, ?_, ?_, ?_⟩
      · intro hkey
        by_cases hfirst : key = "firstLineMatch"
        · subst hfirst
          rw [hlookup] at hline
          obtain ⟨text, htext, hfurther⟩ := checkText_eq_nil hline
          exact ⟨text, htext, fun _ => checkRegex_eq_nil hfurther⟩
        · have hcheck : checkText (Pointer.key "" key) (entries.lookup key) = [] := by
            apply List.flatMap_eq_nil_iff.mp htexts key
            have hother := (List.mem_cons.mp hkey).resolve_left hfirst
            simp only [List.mem_cons, List.not_mem_nil, or_false] at hother ⊢
            rcases hother with rfl | rfl | rfl | rfl | rfl
            all_goals simp
          rw [hlookup] at hcheck
          obtain ⟨text, htext, _⟩ := checkText_eq_nil hcheck
          exact ⟨text, htext, fun hline => absurd hline hfirst⟩
      · rintro rfl
        rw [hlookup] at hscope
        cases value with
        | string text => exact ⟨text, rfl⟩
        | _ => cases hscope
      · rintro rfl
        rw [hlookup] at htypes
        exact checkFileTypes_eq_nil htypes
      · rintro rfl
        rw [hlookup] at hpatterns
        cases value with
        | array items => exact ⟨items, rfl, checkRules_eq_nil hpatterns⟩
        | _ => cases hpatterns
      · rintro rfl
        rw [hlookup] at hrepository
        cases value with
        | object repository =>
          have hentries : repositoryEntries entries = repository := by
            rw [repositoryEntries, hlookup]
          refine ⟨repository, rfl, by rw [contextOf, hentries], ?_⟩
          rw [hlookup] at hrules
          intro entry hentry
          refine ⟨Pointer.key "/repository" entry.1, ?_⟩
          rw [contextOf, hentries]
          exact List.flatMap_eq_nil_iff.mp hrules entry hentry
        | _ => cases hrepository
  | _ => cases h

end Schema

namespace Grammar

theorem grammarKeys_nodup : grammarKeys.Nodup := by
  simp [grammarKeys]

/-- The fields that a grammar is written with. -/
theorem toDocument_fields (grammar : Grammar) : ∃ entries, grammar.toDocument = .object entries ∧
    (entries.map (·.1)).Nodup ∧
    ("repository", Document.object (grammar.repository.map fun entry =>
      (entry.1, entry.2.toDocument))) ∈ entries ∧
    ("patterns", Document.array (ruleDocuments grammar.patterns)) ∈ entries ∧
    ∀ text ∈ grammar.firstLineMatch, ("firstLineMatch", Document.string text) ∈ entries := by
  refine ⟨_, rfl, ?_, ?_, ?_, ?_⟩
  · simp only [List.map_append]
    refine List.Sublist.nodup ?_ grammarKeys_nodup
    show List.Sublist _ (["fileTypes"] ++ ["firstLineMatch"] ++ ["foldingStartMarker"] ++
      ["foldingStopMarker"] ++ ["keyEquivalent"] ++ ["repository"] ++ ["uuid"] ++ ["patterns"] ++
      ["name"] ++ ["scopeName"])
    apply_rules [List.Sublist.append, textField_keys, arrayField_keys, List.Sublist.refl]
  · simp
  · simp
  · intro text ht
    simp only [List.mem_append, mem_textField ht, true_or, or_true]

/-- What the checks know about the document that a grammar is written as. -/
def context (grammar : Grammar) (budget : Nat) : Schema.Context where
  rules := grammar.repository.map (·.1)
  budget

/-- **The texts of a grammar are accepted if the document that the grammar is written as is.** -/
theorem all_of_violations {grammar : Grammar} {budget : Nat}
    (h : Schema.violations grammar.toDocument budget = []) :
    grammar.All (Schema.Accepted (grammar.context budget)) := by
  obtain ⟨entries, hentries, _, hfields⟩ := Schema.acceptedField_of_violations h
  obtain ⟨written, hwritten, hkeys, hrepository, hpatterns, hline⟩ := grammar.toDocument_fields
  -- the repository and the list of rules are written even if they are empty
  obtain rfl : written = entries := by
    rw [hwritten] at hentries
    exact Document.object.inj hentries
  have haccepted := hfields hkeys
  obtain ⟨repository, hobject, hrules, hchecked⟩ := (haccepted _ hrepository).repository rfl
  obtain rfl := Document.object.inj hobject
  have hcontext : Schema.contextOf written budget = grammar.context budget := by
    have hnames : (Schema.contextOf written budget).rules = (grammar.context budget).rules := by
      rw [hrules, List.map_map]
      rfl
    show Schema.Context.mk (Schema.contextOf written budget).rules budget = _
    rw [hnames]
    rfl
  rw [hcontext] at haccepted hchecked
  refine ⟨?_, ?_, ?_⟩
  · obtain ⟨items, hitems, hchecks⟩ := (haccepted _ hpatterns).patterns rfl
    obtain rfl := Document.array.inj hitems
    exact Schema.allRules_of_check grammar.patterns hchecks
  · intro entry hentry
    obtain ⟨below, hcheck⟩ := hchecked _ (List.mem_map_of_mem hentry)
    exact Schema.all_of_checkRule entry.2 below hcheck
  · intro text ht
    obtain ⟨_, hvalue, hregex⟩ := (haccepted _ (hline text ht)).text
      (by simp [Schema.grammarTextKeys])
    cases hvalue
    exact hregex rfl

end Grammar

end ScopeScanner
