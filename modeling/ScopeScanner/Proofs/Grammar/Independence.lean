import Mathlib.Data.List.Nodup
import ScopeScanner.Proofs.Grammar.Pointing
import ScopeScanner.Proofs.Grammar.Reordering

/-!
# Rules are checked independently

The violations of a grammar document come from its rules one by one. What a rule is does not matter to
the checks of anything else, so the violations at a rule and below it stand between others that do not
depend on the rule (`Schema.Frames`). This holds for the steps from a node to one below it, and hence for
every rule that is checked (`Schema.RuleAt`), by induction on the place where it is:

* **`Schema.frames_of_ruleAt`**: a grammar document is a frame around each of its rules.
* **`Schema.violations_independent`**: so another value in the place of a rule changes nothing among the
  violations outside of it, and those inside depend on nothing but the rule, its place and the names of
  the rules in the repository.
-/

namespace ScopeScanner

namespace Schema

open Pointer (Step Within)

/-! ## Rules in a document -/

/-- A rule is checked as part of another one: as an item of its list of rules, or of the list of rules of
one of its captures. -/
inductive RuleBelow : Document → List Step → Document → Prop where
  | here (rule : Document) : RuleBelow rule [] rule
  | pattern {entries : List (String × Document)} {items : List Document} {index : Nat}
      {item rule : Document} {place : List Step}
      (hitems : entries.lookup "patterns" = some (.array items)) (hitem : items[index]? = some item)
      (hbelow : RuleBelow item place rule) :
      RuleBelow (.object entries) (.key "patterns" :: .item index :: place) rule
  | capture {entries captures fields : List (String × Document)} {items : List Document}
      {key number : String} {index : Nat} {item rule : Document} {place : List Step}
      (hkey : key ∈ ruleCaptureKeys) (hcaptures : entries.lookup key = some (.object captures))
      (hnumber : captures.lookup number = some (.object fields))
      (hitems : fields.lookup "patterns" = some (.array items)) (hitem : items[index]? = some item)
      (hbelow : RuleBelow item place rule) :
      RuleBelow (.object entries)
        (.key key :: .key number :: .key "patterns" :: .item index :: place) rule

/-- A rule is checked as part of a grammar document: below an item of its list of rules, or below an
entry of its repository. -/
inductive RuleAt : Document → List Step → Document → Prop where
  | pattern {entries : List (String × Document)} {items : List Document} {index : Nat}
      {item rule : Document} {place : List Step}
      (hitems : entries.lookup "patterns" = some (.array items)) (hitem : items[index]? = some item)
      (hbelow : RuleBelow item place rule) :
      RuleAt (.object entries) (.key "patterns" :: .item index :: place) rule
  | repository {entries rules : List (String × Document)} {name : String} {entry rule : Document}
      {place : List Step} (hrules : entries.lookup "repository" = some (.object rules))
      (hentry : rules.lookup name = some entry) (hbelow : RuleBelow entry place rule) :
      RuleAt (.object entries) (.key "repository" :: .key name :: place) rule

/-- The names of the rules in the repository of a document. -/
def repositoryNames : Document → List String
  | .object entries => (repositoryEntries entries).map (·.1)
  | _ => []

/-! ## The rule at a place -/

theorem RuleBelow.at? {whole rule : Document} {place : List Step} (h : RuleBelow whole place rule) :
    whole.at? place = some rule := by
  induction h with
  | here => rfl
  | pattern hitems hitem _ ih => simp [Document.at?, Document.next?, hitems, hitem, ih]
  | capture _ hcaptures hnumber hitems hitem _ ih =>
    simp [Document.at?, Document.next?, hcaptures, hnumber, hitems, hitem, ih]

theorem RuleAt.at? {document rule : Document} {place : List Step} (h : RuleAt document place rule) :
    document.at? place = some rule := by
  cases h with
  | pattern hitems hitem hbelow => simp [Document.at?, Document.next?, hitems, hitem, hbelow.at?]
  | repository hrules hentry hbelow => simp [Document.at?, Document.next?, hrules, hentry, hbelow.at?]

theorem distinctKeys_of_at? {document node : Document} {place : List Step}
    (h : document.at? place = some node) (hkeys : document.distinctKeys = true) :
    node.distinctKeys = true := by
  induction place generalizing document with
  | nil => exact Option.some.inj h ▸ hkeys
  | cons first rest ih =>
    obtain ⟨next, hnext, hrest⟩ := Option.bind_eq_some_iff.mp h
    refine ih hrest ?_
    cases document with
    | object entries =>
      cases first with
      | item i => cases hnext
      | key name => exact (value_of_lookup hnext (Nat.le_refl _) hkeys).2
    | array items =>
      cases first with
      | key name => cases hnext
      | item i => exact Document.distinctKeys_array.mp hkeys next (List.mem_of_getElem? hnext)
    | _ => cases first <;> cases hnext

/-- Putting back what is at a place changes nothing. -/
theorem replaceAt_self {document node : Document} {place : List Step}
    (h : document.at? place = some node) (hkeys : document.distinctKeys = true) :
    document.replaceAt place node = document := by
  induction place generalizing document with
  | nil => exact (Option.some.inj h).symm
  | cons first rest ih =>
    obtain ⟨next, hnext, hrest⟩ := Option.bind_eq_some_iff.mp h
    cases document with
    | object entries =>
      cases first with
      | item i => cases hnext
      | key name =>
        rw [Document.distinctKeys_object] at hkeys
        have hnext : entries.lookup name = some next := hnext
        have hentries : changeEntry entries name (·.replaceAt rest node) = entries := by
          rw [changeEntry]
          refine Eq.trans (List.map_congr_left fun entry hentry => ?_) entries.map_id
          by_cases hname : entry.1 = name
          · have hvalue : entry.2 = next := by
              subst hname
              exact Option.some.inj ((lookup_of_mem hkeys.1 hentry).symm.trans hnext)
            rw [if_pos hname, hvalue, ih hrest (hvalue ▸ hkeys.2 entry hentry), ← hvalue]
            rfl
          · rw [if_neg hname]
            rfl
        rw [Document.replaceAt, hentries]
    | array items =>
      cases first with
      | key name => cases hnext
      | item i =>
        rw [Document.distinctKeys_array] at hkeys
        have hnext : items[i]? = some next := hnext
        have hsame := ih hrest (hkeys next (List.mem_of_getElem? hnext))
        have hitems : items.modify i (·.replaceAt rest node) = items := by
          refine List.ext_getElem? fun j => ?_
          rw [List.getElem?_modify]
          by_cases hj : i = j
          · subst hj
            simp [hnext, hsame]
          · simp [hj]
        rw [Document.replaceAt, hitems]
    | _ => cases first <;> cases hnext

/-! ## Checks around a hole -/

/-- A violation that is found neither at what a pointer leads to nor below it. -/
def Outside (outer : String) (violation : Violation) : Prop :=
  ¬ Within outer violation.path

instance (outer : String) (violation : Violation) : Decidable (Outside outer violation) :=
  inferInstanceAs (Decidable (¬ _))

/-- The checks `whole` of a document with a hole find what the checks `inner` find in the hole, between
violations outside of it that do not depend on what is in the hole. -/
def Frames (outer : String) (inner whole : Document → List Violation) : Prop :=
  ∃ before after, (∀ violation ∈ before ++ after, Outside outer violation) ∧
    ∀ new, whole new = before ++ inner new ++ after

section Frames

variable {outer : String} {inner whole : Document → List Violation}

theorem Frames.refl (outer : String) (inner : Document → List Violation) :
    Frames outer inner inner :=
  ⟨[], [], by simp, by simp⟩

/-- More is checked before and behind. -/
theorem Frames.append {front back : List Violation} (h : Frames outer inner whole)
    (hfront : ∀ violation ∈ front, Outside outer violation)
    (hback : ∀ violation ∈ back, Outside outer violation) :
    Frames outer inner fun new => front ++ whole new ++ back := by
  obtain ⟨before, after, houtside, hwhole⟩ := h
  refine ⟨front ++ before, after ++ back, fun violation hviolation => ?_, fun new => ?_⟩
  · simp only [List.mem_append, or_assoc] at hviolation
    rcases hviolation with h | h | h | h
    · exact hfront violation h
    · exact houtside violation (List.mem_append_left _ h)
    · exact houtside violation (List.mem_append_right _ h)
    · exact hback violation h
  · simp only [hwhole, List.append_assoc]

/-- With what is found in the hole taken out, the frame is left. -/
theorem Frames.filter_outside (h : Frames outer inner whole) {new new' : Document}
    (hnew : ∀ violation ∈ inner new, Within outer violation.path)
    (hnew' : ∀ violation ∈ inner new', Within outer violation.path) :
    (whole new).filter (Outside outer ·) = (whole new').filter (Outside outer ·) := by
  obtain ⟨before, after, -, hwhole⟩ := h
  have hgone (found : List Violation) (hfound : ∀ violation ∈ found, Within outer violation.path) :
      found.filter (Outside outer ·) = [] := by
    rw [List.filter_eq_nil_iff]
    intro violation hviolation houtside
    exact (of_decide_eq_true houtside) (hfound violation hviolation)
  rw [hwhole, hwhole]
  simp only [List.filter_append, hgone _ hnew, hgone _ hnew']

/-- With the frame taken away, what is found in the hole is left. -/
theorem Frames.filter_within (h : Frames outer inner whole) {new : Document}
    (hnew : ∀ violation ∈ inner new, Within outer violation.path) :
    (whole new).filter (Within outer ·.path) = inner new := by
  obtain ⟨before, after, houtside, hwhole⟩ := h
  have hgone (found : List Violation) (hfound : ∀ violation ∈ found, violation ∈ before ++ after) :
      found.filter (Within outer ·.path) = [] := by
    rw [List.filter_eq_nil_iff]
    intro violation hviolation hwithin
    exact houtside violation (hfound violation hviolation) (of_decide_eq_true hwithin)
  have hkept : (inner new).filter (Within outer ·.path) = inner new :=
    List.filter_eq_self.mpr fun violation hviolation => decide_eq_true (hnew violation hviolation)
  rw [hwhole, List.filter_append, List.filter_append, hkept,
    hgone before fun _ => List.mem_append_left after, hgone after fun _ => List.mem_append_right before,
    List.nil_append, List.append_nil]

/-- One of several parts has the hole. -/
theorem Frames.flatMap {α : Type} {parts : List α} (hparts : parts.Nodup) {part : α}
    (hpart : part ∈ parts) {check : Document → α → List Violation}
    (h : Frames outer inner fun new => check new part)
    (hothers : ∀ other ∈ parts, other ≠ part →
      (∀ new new', check new other = check new' other) ∧
        ∀ new, ∀ violation ∈ check new other, Outside outer violation) :
    Frames outer inner fun new => parts.flatMap (check new) := by
  obtain ⟨front, back, rfl⟩ := List.append_of_mem hpart
  -- the part with the hole is none of those around it
  have hmem (other : α) (hother : other ∈ front ++ back) :
      other ∈ front ++ part :: back ∧ other ≠ part := by
    rw [List.nodup_middle, List.nodup_cons] at hparts
    refine ⟨?_, fun heq => hparts.1 (heq ▸ hother)⟩
    rcases List.mem_append.mp hother with h | h
    · exact List.mem_append_left _ h
    · exact List.mem_append_right _ (List.mem_cons_of_mem _ h)
  have hsame (list : List α) (hlist : ∀ other ∈ list, other ∈ front ++ back) (new : Document) :
      list.flatMap (check new) = list.flatMap (check .null) := by
    rw [List.flatMap_def, List.flatMap_def]
    refine congrArg List.flatten (List.map_congr_left fun other hother => ?_)
    obtain ⟨hin, hne⟩ := hmem other (hlist other hother)
    exact (hothers other hin hne).1 new .null
  have houtside (list : List α) (hlist : ∀ other ∈ list, other ∈ front ++ back) :
      ∀ violation ∈ list.flatMap (check .null), Outside outer violation := by
    intro violation hviolation
    obtain ⟨other, hother, hfound⟩ := List.mem_flatMap.mp hviolation
    obtain ⟨hin, hne⟩ := hmem other (hlist other hother)
    exact (hothers other hin hne).2 .null violation hfound
  have hfront : ∀ other ∈ front, other ∈ front ++ back := fun _ => List.mem_append_left back
  have hback : ∀ other ∈ back, other ∈ front ++ back := fun _ => List.mem_append_right front
  obtain ⟨before, after, hkept, hwhole⟩ := h.append (houtside front hfront) (houtside back hback)
  refine ⟨before, after, hkept, fun new => Eq.trans ?_ (hwhole new)⟩
  show (front ++ part :: back).flatMap (check new) = _
  rw [List.flatMap_append, List.flatMap_cons, hsame front hfront new, hsame back hback new]
  exact (List.append_assoc _ _ _).symm

end Frames

/-! ## What lies outside -/

variable {context : Context} {path : String} {violation : Violation}

/-- A violation in another branch is outside. -/
theorem outside_of_sibling {step other : Step} (hne : step.text ≠ other.text) {node : Document}
    (h : PointsInto node (Pointer.step path other) violation) (place : List Step) :
    Outside (Pointer.along path (step :: place)) violation := by
  intro hwithin
  obtain ⟨below, _, _, hpath⟩ := h
  have hpath : violation.path = Pointer.along path (other :: below) := hpath
  rw [hpath] at hwithin
  have hbegins := Pointer.texts_of_within hwithin
  rw [List.map_cons, List.map_cons, List.cons_prefix_cons] at hbegins
  exact hne hbegins.1

/-- A violation at a node or right below it is outside of what is further below. -/
theorem outside_of_atOrUnder {entries : List (String × Document)}
    (h : AtOrUnder path entries violation) (step next : Step) (place : List Step) :
    Outside (Pointer.along path (step :: next :: place)) violation := by
  intro hwithin
  rcases h with hhere | ⟨key, _, hunder⟩
  · have hpath : violation.path = Pointer.along path [] := hhere
    rw [hpath] at hwithin
    have hlength := (Pointer.texts_of_within hwithin).length_le
    simp at hlength
  · have hpath : violation.path = Pointer.along path [.key key] := hunder
    rw [hpath] at hwithin
    have hlength := (Pointer.texts_of_within hwithin).length_le
    simp at hlength

/-! ## Frames around lists of rules and maps of captures -/

theorem isSome_lookup_of_keys {entries entries' : List (String × Document)}
    (h : entries'.map (·.1) = entries.map (·.1)) (key : String) :
    (entries'.lookup key).isSome = (entries.lookup key).isSome := by
  have hkey (list : List (String × Document)) :
      (list.lookup key).isSome = true ↔ key ∈ list.map (·.1) := by
    induction list with
    | nil => simp
    | cons entry rest ih =>
      obtain ⟨name, value⟩ := entry
      by_cases hname : key = name
      · simp [hname]
      · simp [hname, List.lookup_cons, beq_false_of_ne hname, ih]
  rw [Bool.eq_iff_iff, hkey, hkey, h]

theorem checkKeys_of_keys {known : List String} {entries entries' : List (String × Document)}
    (h : entries'.map (·.1) = entries.map (·.1)) :
    checkKeys path known entries' = checkKeys path known entries := by
  have hkeys (list : List (String × Document)) : checkKeys path known list =
      (list.map (·.1)).flatMap fun key => problemIf (!known.contains key) path (.unknownKey key) := by
    rw [checkKeys, List.flatMap_map]
  rw [hkeys, hkeys, h]

/-- The checks of a rule's own keys do not look below its captures, and of its list of rules they only
notice whether it is empty. -/
theorem checkRuleKeys_of_parts {entries entries' : List (String × Document)}
    (hkeys : entries'.map (·.1) = entries.map (·.1))
    (hothers : ∀ key, key ∉ rulePartKeys → entries'.lookup key = entries.lookup key)
    (hrules : checkRuleKeys.lacksRules (entries'.lookup "patterns") =
      checkRuleKeys.lacksRules (entries.lookup "patterns")) :
    checkRuleKeys context path entries' = checkRuleKeys context path entries := by
  have hsome := isSome_lookup_of_keys hkeys
  simp only [checkRuleKeys, checkKeys_of_keys hkeys, hsome, hrules,
    hothers "name" (by decide), hothers "contentName" (by decide), hothers "comment" (by decide),
    hothers "include" (by decide), hothers "match" (by decide), hothers "begin" (by decide),
    hothers "end" (by decide), hothers "applyEndPatternLast" (by decide)]

/-- A list of rules around one of them. -/
theorem frames_rules {items : List Document} (hkeys : (Document.array items).distinctKeys = true)
    {index : Nat} {item : Document} (hitem : items[index]? = some item) {place : List Step}
    {inner : Document → List Violation}
    (h : Frames (Pointer.along path (.item index :: place)) inner fun new =>
      checkRule context (Pointer.index path index) (item.replaceAt place new)) :
    Frames (Pointer.along path (.item index :: place)) inner fun new =>
      checkRules context path 0 (items.modify index (·.replaceAt place new)) := by
  rw [Document.distinctKeys_array] at hkeys
  -- each item is checked at its index, whether it is the changed one or not
  let check (new : Document) (entry : Document × Nat) : List Violation :=
    checkRule context (Pointer.index path entry.2)
      (if entry.2 = index then entry.1.replaceAt place new else entry.1)
  have hchecks (new : Document) : checkRules context path 0 (items.modify index (·.replaceAt place new)) =
      items.zipIdx.flatMap (check new) := by
    rw [checkRules_eq, List.flatMap_def, List.flatMap_def]
    refine congrArg List.flatten (List.ext_getElem? fun i => ?_)
    simp only [List.getElem?_map, List.getElem?_zipIdx, List.getElem?_modify]
    cases items[i]? with
    | none => rfl
    | some other => by_cases hi : index = i <;> simp [check, hi, eq_comm]
  have hnodup : items.zipIdx.Nodup := by
    refine List.Nodup.of_map (·.2) ?_
    rw [List.zipIdx_map_snd]
    exact List.nodup_range'
  have hmem : (item, index) ∈ items.zipIdx := List.mem_zipIdx_iff_getElem?.mpr hitem
  simp only [hchecks]
  refine Frames.flatMap hnodup hmem ?_ ?_
  · simpa [check] using h
  · rintro ⟨other, i⟩ hother hne
    have hget : items[i]? = some other := List.mem_zipIdx_iff_getElem?.mp hother
    have hi : i ≠ index := by
      rintro rfl
      exact hne (by rw [Option.some.inj (hget.symm.trans hitem)])
    refine ⟨fun new new' => by simp [check, hi], fun new violation hviolation => ?_⟩
    simp only [check, if_neg hi] at hviolation
    have hpoints := rule_points other _ (hkeys other (List.mem_of_getElem? hget)) violation hviolation
    have htexts : (Step.item index).text ≠ (Step.item i).text := fun htext =>
      hi (Pointer.item_of_text htext).symm
    exact outside_of_sibling htexts hpoints place

/-- What is checked under the key of a list of rules, around one of them. -/
theorem frames_patterns (path : String) {items : List Document} (hkeys : (Document.array items).distinctKeys = true)
    {index : Nat} {item : Document} (hitem : items[index]? = some item) {place : List Step}
    {inner : Document → List Violation}
    (h : Frames (Pointer.along path (.key "patterns" :: .item index :: place)) inner fun new =>
      checkRule context (Pointer.along path [.key "patterns", .item index])
        (item.replaceAt place new)) :
    Frames (Pointer.along path (.key "patterns" :: .item index :: place)) inner fun new =>
      belowCaptureField context path "patterns"
        ((Document.array items).replaceAt (.item index :: place) new) :=
  frames_rules hkeys hitem h

/-- A capture around a rule of its list. -/
theorem frames_capture {fields : List (String × Document)} {items : List Document}
    (hitems : fields.lookup "patterns" = some (.array items)) {index : Nat} {place : List Step}
    {inner : Document → List Violation}
    (h : Frames (Pointer.along path (.key "patterns" :: .item index :: place)) inner fun new =>
      belowCaptureField context path "patterns"
        ((Document.array items).replaceAt (.item index :: place) new)) :
    Frames (Pointer.along path (.key "patterns" :: .item index :: place)) inner fun new =>
      checkCapture context path
        ((Document.object fields).replaceAt (.key "patterns" :: .item index :: place) new) := by
  have hchecks (new : Document) : checkCapture context path
        ((Document.object fields).replaceAt (.key "patterns" :: .item index :: place) new) =
      (checkKeys path captureKeys fields ++
          checkText (Pointer.key path "name") (fields.lookup "name")) ++
        belowCaptureField context path "patterns"
          ((Document.array items).replaceAt (.item index :: place) new) ++ [] := by
    have hobject : (Document.object fields).replaceAt (.key "patterns" :: .item index :: place) new =
        .object (changeEntry fields "patterns" (·.replaceAt (.item index :: place) new)) := rfl
    rw [hobject, checkCapture_object, checkKeys_of_keys (keys_changeEntry _ _ _),
      lookup_changeEntry_of_ne _ _ _ (by decide), lookup_changeEntry, hitems, List.append_nil]
    rfl
  simp only [hchecks]
  refine h.append (fun violation hviolation => ?_) (by simp)
  have hplace : AtOrUnder path fields violation := by
    rcases List.mem_append.mp hviolation with hown | hname
    · exact Or.inl (path_of_mem_checkKeys hown)
    · exact Or.inr ⟨"name", path_of_mem_checkText (fun _ hnone => by cases hnone) hname⟩
  exact outside_of_atOrUnder hplace _ _ place

/-- A map of captures around what is below one of them. -/
theorem frames_captures (path : String) {captures : List (String × Document)}
    (hkeys : (Document.object captures).distinctKeys = true) {number : String} {value : Document}
    (hnumber : captures.lookup number = some value) (next : Step) (place : List Step)
    {inner : Document → List Violation}
    (h : Frames (Pointer.along path (.key number :: next :: place)) inner fun new =>
      checkCapture context (Pointer.key path number) (value.replaceAt (next :: place) new)) :
    Frames (Pointer.along path (.key number :: next :: place)) inner fun new =>
      checkCaptures context path (changeEntry captures number (·.replaceAt (next :: place) new)) := by
  rw [Document.distinctKeys_object] at hkeys
  let check (new : Document) (entry : String × Document) : List Violation :=
    problemIf (!isGroupNumber entry.1) (Pointer.key path entry.1) .captureKeyNotNumber ++
      checkCapture context (Pointer.key path entry.1)
        (if entry.1 = number then entry.2.replaceAt (next :: place) new else entry.2)
  have hchecks (new : Document) :
      checkCaptures context path (changeEntry captures number (·.replaceAt (next :: place) new)) =
        captures.flatMap (check new) := by
    rw [checkCaptures_eq, changeEntry, List.flatMap_map, List.flatMap_def, List.flatMap_def]
    refine congrArg List.flatten (List.map_congr_left fun entry _ => ?_)
    by_cases hentry : entry.1 = number <;> simp [check, hentry]
  have hmem : (number, value) ∈ captures := (lookup_eq_some_iff_mem hkeys.1).mp hnumber
  simp only [hchecks]
  refine Frames.flatMap (hkeys.1.of_map _) hmem ?_ ?_
  · -- the key of the capture itself is looked at above the hole
    have hnotNumber : ∀ violation ∈ problemIf (!isGroupNumber number) (Pointer.key path number)
        .captureKeyNotNumber, Outside (Pointer.along path (.key number :: next :: place)) violation := by
      intro violation hviolation
      have hplace : AtOrUnder path captures violation :=
        Or.inr ⟨number, by rw [hnumber]; rfl, path_of_mem_problemIf hviolation⟩
      exact outside_of_atOrUnder hplace _ _ place
    have hnothing : ∀ violation ∈ ([] : List Violation),
        Outside (Pointer.along path (.key number :: next :: place)) violation := by simp
    simpa [check] using h.append hnotNumber hnothing
  · rintro ⟨key, other⟩ hother hne
    have hlookup : captures.lookup key = some other := (lookup_eq_some_iff_mem hkeys.1).mpr hother
    have hkey : key ≠ number := by
      rintro rfl
      exact hne (by rw [Option.some.inj (hlookup.symm.trans hnumber)])
    refine ⟨fun new new' => by simp [check, hkey], fun new violation hviolation => ?_⟩
    simp only [check, if_neg hkey] at hviolation
    have htexts : (Step.key number).text ≠ (Step.key key).text := fun htext =>
      hkey (Pointer.key_of_text htext).symm
    have hpoints : PointsInto other (Pointer.key path key) violation := by
      rcases List.mem_append.mp hviolation with hnot | hcapture
      · exact .here (path_of_mem_problemIf hnot)
      · exact pointsInto_of_mem_checkCapture (fun below path _ => rule_points below path)
          (Nat.le_refl _) (hkeys.2 _ hother) hcapture
    exact outside_of_sibling htexts hpoints _

/-! ## Frames around parts of rules -/

/-- A rule around what is further below the value of one of its keys. -/
theorem frames_rule {entries : List (String × Document)}
    (hkeys : (Document.object entries).distinctKeys = true) {key : String}
    (hkey : key ∈ rulePartKeys) {value : Document} (hvalue : entries.lookup key = some value)
    {next : Step} {place : List Step} {inner : Document → List Violation}
    (hrules : ∀ new, key = "patterns" →
      checkRuleKeys.lacksRules (some (value.replaceAt (next :: place) new)) =
        checkRuleKeys.lacksRules (some value))
    (h : Frames (Pointer.along path (.key key :: next :: place)) inner fun new =>
      belowField context path key (value.replaceAt (next :: place) new)) :
    Frames (Pointer.along path (.key key :: next :: place)) inner fun new =>
      checkRule context path
        ((Document.object entries).replaceAt (.key key :: next :: place) new) := by
  let changed (new : Document) : List (String × Document) :=
    changeEntry entries key (·.replaceAt (next :: place) new)
  have hlookup (new : Document) : (changed new).lookup key =
      some (value.replaceAt (next :: place) new) := by
    rw [lookup_changeEntry, hvalue]
    rfl
  have hothers (new : Document) (other : String) (hne : other ≠ key) :
      (changed new).lookup other = entries.lookup other :=
    lookup_changeEntry_of_ne _ _ _ hne
  have hown (new : Document) :
      checkRuleKeys context path (changed new) = checkRuleKeys context path entries := by
    refine checkRuleKeys_of_parts (keys_changeEntry _ _ _) (fun other hother => ?_) ?_
    · exact hothers new other fun heq => hother (heq ▸ hkey)
    · by_cases hpatterns : key = "patterns"
      · subst hpatterns
        rw [hlookup, hvalue]
        exact hrules new rfl
      · rw [hothers new _ (Ne.symm hpatterns)]
  have hchecks (new : Document) : checkRule context path
        ((Document.object entries).replaceAt (.key key :: next :: place) new) =
      checkRuleKeys context path entries ++
        rulePartKeys.flatMap (rulePart context path (changed new)) ++ [] := by
    have hobject : (Document.object entries).replaceAt (.key key :: next :: place) new =
        .object (changed new) := rfl
    rw [hobject, checkRule_object, hown, List.append_nil]
  simp only [hchecks]
  refine Frames.append ?_ (fun violation hviolation =>
    outside_of_atOrUnder (atOrUnder_of_mem_checkRuleKeys hviolation) _ _ place) (by simp)
  refine Frames.flatMap (by decide) hkey ?_ ?_
  · simpa only [rulePart, hlookup, Option.elim_some] using h
  · intro other hother hne
    refine ⟨fun new new' => by rw [rulePart, rulePart, hothers new _ hne, hothers new' _ hne], ?_⟩
    intro new violation hviolation
    rw [rulePart, hothers new _ hne] at hviolation
    cases hfound : entries.lookup other with
    | none =>
      rw [hfound] at hviolation
      cases hviolation
    | some found =>
      rw [hfound] at hviolation
      obtain ⟨_, hdistinct⟩ := value_of_lookup hfound (Nat.le_refl _) hkeys
      have hpoints : PointsInto found (Pointer.key path other) violation :=
        pointsInto_of_mem_belowField (fun below path _ => rule_points below path) (Nat.le_refl _)
          hdistinct hother hviolation
      have htexts : (Step.key key).text ≠ (Step.key other).text := fun htext =>
        hne (Pointer.key_of_text htext).symm
      exact outside_of_sibling htexts hpoints _

/-- Changing an item leaves a list of rules empty or not empty. -/
theorem lacksRules_replaceAt (items : List Document) (index : Nat) (place : List Step)
    (new : Document) :
    checkRuleKeys.lacksRules (some ((Document.array items).replaceAt (.item index :: place) new)) =
      checkRuleKeys.lacksRules (some (.array items)) := by
  show (items.modify index (·.replaceAt place new)).isEmpty = items.isEmpty
  rw [Bool.eq_iff_iff, List.isEmpty_iff_length_eq_zero, List.isEmpty_iff_length_eq_zero,
    List.length_modify]

theorem belowField_captures {key : String} (hkey : key ∈ ruleCaptureKeys) (path : String)
    (entries : List (String × Document)) :
    belowField context path key (.object entries) =
      checkCaptures context (Pointer.key path key) entries := by
  simp only [ruleCaptureKeys, List.mem_cons, List.not_mem_nil, or_false] at hkey
  rcases hkey with rfl | rfl | rfl <;> rfl

/-- **A rule is a frame around each rule that is checked as part of it.** By induction on the place of
the inner rule. -/
theorem frames_of_ruleBelow {whole rule : Document} {place : List Step}
    (h : RuleBelow whole place rule) (hkeys : whole.distinctKeys = true) (path : String) :
    Frames (Pointer.along path place) (checkRule context (Pointer.along path place)) fun new =>
      checkRule context path (whole.replaceAt place new) := by
  induction h generalizing path with
  | here rule => exact .refl _ _
  | @pattern entries items index item rule place hitems hitem hbelow ih =>
    obtain ⟨_, hlist⟩ := value_of_lookup hitems (Nat.le_refl _) hkeys
    have hinner := ih ((Document.distinctKeys_array.mp hlist) item (List.mem_of_getElem? hitem))
      (Pointer.along path [.key "patterns", .item index])
    exact frames_rule hkeys (by decide) hitems (fun new _ => lacksRules_replaceAt items index place new)
      (frames_patterns path hlist hitem hinner)
  | @capture entries captures fields items key number index item rule place hkey hcaptures hnumber
      hitems hitem hbelow ih =>
    obtain ⟨_, hmap⟩ := value_of_lookup hcaptures (Nat.le_refl _) hkeys
    obtain ⟨_, hcapture⟩ := value_of_lookup hnumber (Nat.le_refl _) hmap
    obtain ⟨_, hlist⟩ := value_of_lookup hitems (Nat.le_refl _) hcapture
    have hinner := ih ((Document.distinctKeys_array.mp hlist) item (List.mem_of_getElem? hitem))
      (Pointer.along path [.key key, .key number, .key "patterns", .item index])
    have hpart : key ∈ rulePartKeys := List.mem_append_left ["patterns"] hkey
    -- from the inside out: its list, the capture, and the map of captures
    have hlistFrame := frames_patterns (Pointer.key (Pointer.key path key) number) hlist hitem hinner
    have hcaptureFrame := frames_capture hitems hlistFrame
    have hmapFrame := frames_captures (Pointer.key path key) hmap hnumber (.key "patterns")
      (.item index :: place) hcaptureFrame
    refine frames_rule hkeys hpart hcaptures ?_ ?_
    · rintro new rfl
      exact absurd hkey (by decide)
    · have hbelowField (new : Document) : belowField context path key
          ((Document.object captures).replaceAt (.key number :: .key "patterns" :: .item index :: place)
            new) = _ :=
        belowField_captures hkey path _
      simp only [hbelowField]
      exact hmapFrame

/-! ## Frames around rules of a document -/

/-- The checks of a grammar's own keys do not look below its list of rules or its repository. -/
theorem checkGrammarKeys_of_keys {entries entries' : List (String × Document)}
    (hkeys : entries'.map (·.1) = entries.map (·.1))
    (hothers : ∀ key, key ∉ ["patterns", "repository"] → entries'.lookup key = entries.lookup key)
    (hrepository : checkRepositoryKind (entries'.lookup "repository") =
      checkRepositoryKind (entries.lookup "repository")) :
    checkGrammarKeys context entries' = checkGrammarKeys context entries := by
  simp only [checkGrammarKeys, checkKeys_of_keys hkeys, hrepository, List.flatMap_cons, List.flatMap_nil,
    hothers "scopeName" (by decide), hothers "name" (by decide), hothers "uuid" (by decide),
    hothers "keyEquivalent" (by decide), hothers "foldingStartMarker" (by decide),
    hothers "foldingStopMarker" (by decide), hothers "firstLineMatch" (by decide),
    hothers "fileTypes" (by decide)]

section Document

variable {entries : List (String × Document)} {budget : Nat}

/-- What is wrong with a grammar's own keys is outside of its rules. -/
theorem outside_of_mem_checkGrammarKeys (h : violation ∈ checkGrammarKeys context entries)
    {key : String} (hkey : key ≠ "fileTypes") (next : Step) (place : List Step) :
    Outside (Pointer.ofPlace (.key key :: next :: place)) violation := by
  rcases path_of_mem_checkGrammarKeys h with hown | ⟨types, index, item, _, hitem, hpath⟩
  · exact outside_of_atOrUnder hown _ _ _
  · have hpoints : PointsInto types (Pointer.key "" "fileTypes") violation :=
      .further hitem (.here hpath)
    exact outside_of_sibling (fun htext => hkey (Pointer.key_of_text htext)) hpoints _

/-- A document around a rule of its list of rules. -/
theorem frames_of_patterns (hkeys : (Document.object entries).distinctKeys = true)
    {items : List Document} (hitems : entries.lookup "patterns" = some (.array items)) {index : Nat}
    {item : Document} (hitem : items[index]? = some item) {place : List Step}
    {inner : Document → List Violation}
    (h : Frames (Pointer.ofPlace (.key "patterns" :: .item index :: place)) inner fun new =>
      checkRule (contextOf entries budget) (Pointer.ofPlace [.key "patterns", .item index])
        (item.replaceAt place new)) :
    Frames (Pointer.ofPlace (.key "patterns" :: .item index :: place)) inner fun new =>
      violations
        ((Document.object entries).replaceAt (.key "patterns" :: .item index :: place) new) budget := by
  obtain ⟨_, hlist⟩ := value_of_lookup hitems (Nat.le_refl _) hkeys
  have hchecks (new : Document) : violations
        ((Document.object entries).replaceAt (.key "patterns" :: .item index :: place) new) budget =
      checkGrammarKeys (contextOf entries budget) entries ++
        checkRules (contextOf entries budget) (Pointer.key "" "patterns") 0
          (items.modify index (·.replaceAt place new)) ++
        checkRepository (contextOf entries budget) (repositoryEntries entries) := by
    let changed := changeEntry entries "patterns" (·.replaceAt (.item index :: place) new)
    have hothers (key : String) (hne : key ≠ "patterns") :
        changed.lookup key = entries.lookup key :=
      lookup_changeEntry_of_ne _ _ _ hne
    have hrules : changed.lookup "patterns" =
        some (.array (items.modify index (·.replaceAt place new))) := by
      rw [lookup_changeEntry, hitems]
      rfl
    have hrepository : repositoryEntries changed = repositoryEntries entries := by
      rw [repositoryEntries, repositoryEntries, hothers _ (by decide)]
    have hcontext : contextOf changed budget = contextOf entries budget := by
      rw [contextOf, contextOf, hrepository]
    have hown : checkGrammarKeys (contextOf entries budget) changed =
        checkGrammarKeys (contextOf entries budget) entries := by
      refine checkGrammarKeys_of_keys (keys_changeEntry _ _ _) (fun key hkey => ?_) ?_
      · exact hothers key fun heq => hkey (by simp [heq])
      · rw [hothers _ (by decide)]
    show violations (.object changed) budget = _
    rw [violations_object, hcontext, hown, hrules, hrepository]
    rfl
  simp only [hchecks]
  refine Frames.append (frames_rules hlist hitem h) ?_ ?_
  · exact fun violation hviolation =>
      outside_of_mem_checkGrammarKeys hviolation (by decide) _ _
  · intro violation hviolation
    obtain ⟨entry, hentry, _⟩ := List.mem_flatMap.mp hviolation
    have hlookup := lookup_of_mem_repositoryEntries hentry
    obtain ⟨_, hdistinct⟩ := value_of_lookup hlookup (Nat.le_refl _) hkeys
    have hpoints := pointsInto_of_mem_checkRepository hdistinct hviolation
    exact outside_of_sibling (fun htext => absurd (Pointer.key_of_text htext) (by decide)) hpoints _

/-- A document around a rule of its repository. -/
theorem frames_of_repository (hkeys : (Document.object entries).distinctKeys = true)
    {rules : List (String × Document)} (hrules : entries.lookup "repository" = some (.object rules))
    {name : String} {entry : Document} (hentry : rules.lookup name = some entry) {place : List Step}
    {inner : Document → List Violation}
    (h : Frames (Pointer.ofPlace (.key "repository" :: .key name :: place)) inner fun new =>
      checkRule (contextOf entries budget) (Pointer.ofPlace [.key "repository", .key name])
        (entry.replaceAt place new)) :
    Frames (Pointer.ofPlace (.key "repository" :: .key name :: place)) inner fun new =>
      violations
        ((Document.object entries).replaceAt (.key "repository" :: .key name :: place) new) budget := by
  obtain ⟨_, hmap⟩ := value_of_lookup hrules (Nat.le_refl _) hkeys
  rw [Document.distinctKeys_object] at hmap
  have hnames : repositoryEntries entries = rules := by rw [repositoryEntries, hrules]
  let check (new : Document) (other : String × Document) : List Violation :=
    checkRule (contextOf entries budget) (Pointer.key "/repository" other.1)
      (if other.1 = name then other.2.replaceAt place new else other.2)
  have hchecks (new : Document) : violations
        ((Document.object entries).replaceAt (.key "repository" :: .key name :: place) new) budget =
      (checkGrammarKeys (contextOf entries budget) entries ++
        checkPatterns (contextOf entries budget) (entries.lookup "patterns")) ++
        rules.flatMap (check new) ++ [] := by
    let changed := changeEntry entries "repository" (·.replaceAt (.key name :: place) new)
    have hothers (key : String) (hne : key ≠ "repository") :
        changed.lookup key = entries.lookup key :=
      lookup_changeEntry_of_ne _ _ _ hne
    have hreplaced : changed.lookup "repository" =
        some (.object (changeEntry rules name (·.replaceAt place new))) := by
      rw [lookup_changeEntry, hrules]
      rfl
    have hrepository : repositoryEntries changed =
        changeEntry rules name (·.replaceAt place new) := by
      rw [repositoryEntries, hreplaced]
    have hcontext : contextOf changed budget = contextOf entries budget := by
      rw [contextOf, contextOf, hrepository, hnames, keys_changeEntry]
    have hown : checkGrammarKeys (contextOf entries budget) changed =
        checkGrammarKeys (contextOf entries budget) entries := by
      refine checkGrammarKeys_of_keys (keys_changeEntry _ _ _) (fun key hkey => ?_) ?_
      · exact hothers key fun heq => hkey (by simp [heq])
      · rw [hreplaced, hrules]
        rfl
    have hbelow : checkRepository (contextOf entries budget)
        (changeEntry rules name (·.replaceAt place new)) = rules.flatMap (check new) := by
      rw [checkRepository, changeEntry, List.flatMap_map]
      refine congrArg List.flatten (List.map_congr_left fun other _ => ?_)
      by_cases hother : other.1 = name <;> simp [check, hother]
    show violations (.object changed) budget = _
    rw [violations_object, hcontext, hown, hothers _ (by decide), hrepository, hbelow,
      List.append_nil]
  have hnothing : ∀ violation ∈ ([] : List Violation),
      Outside (Pointer.ofPlace (.key "repository" :: .key name :: place)) violation := by simp
  simp only [hchecks]
  refine Frames.append ?_ ?_ hnothing
  · refine Frames.flatMap (hmap.1.of_map _) ((lookup_eq_some_iff_mem hmap.1).mp hentry) ?_ ?_
    · have hhole : Frames (Pointer.ofPlace (.key "repository" :: .key name :: place)) inner fun new =>
          checkRule (contextOf entries budget) (Pointer.key "/repository" name)
            (entry.replaceAt place new) := h
      simpa [check] using hhole
    · rintro ⟨key, other⟩ hother hne
      have hkey : key ≠ name := by
        rintro rfl
        exact hne (by rw [Option.some.inj ((lookup_of_mem hmap.1 hother).symm.trans hentry)])
      refine ⟨fun new new' => by simp [check, hkey], fun new violation hviolation => ?_⟩
      simp only [check, if_neg hkey] at hviolation
      have hpoints := rule_points other _ (hmap.2 _ hother) violation hviolation
      exact outside_of_sibling (fun htext => hkey (Pointer.key_of_text htext).symm) hpoints place
  · intro violation hviolation
    rcases List.mem_append.mp hviolation with hown | hpatterns
    · exact outside_of_mem_checkGrammarKeys hown (by decide) _ _
    · rcases path_of_mem_checkPatterns hkeys hpatterns with hhere | ⟨list, _, hpoints⟩
      · have hplace : AtOrUnder "" entries violation := Or.inl hhere
        exact outside_of_atOrUnder hplace _ _ _
      · exact outside_of_sibling (fun htext => absurd (Pointer.key_of_text htext) (by decide)) hpoints _

end Document

/-- **A grammar document is a frame around each of its rules.** -/
theorem frames_of_ruleAt {document rule : Document} {place : List Step}
    (h : RuleAt document place rule) (hkeys : document.distinctKeys = true) (budget : Nat) :
    Frames (Pointer.ofPlace place)
      (checkRule ⟨repositoryNames document, budget⟩ (Pointer.ofPlace place)) fun new =>
        violations (document.replaceAt place new) budget := by
  cases h with
  | @pattern entries items index item rule place hitems hitem hbelow =>
    obtain ⟨_, hlist⟩ := value_of_lookup hitems (Nat.le_refl _) hkeys
    have hdistinct := (Document.distinctKeys_array.mp hlist) item (List.mem_of_getElem? hitem)
    exact frames_of_patterns hkeys hitems hitem
      (frames_of_ruleBelow hbelow hdistinct (Pointer.ofPlace [.key "patterns", .item index]))
  | @repository entries rules name entry rule place hrules hentry hbelow =>
    obtain ⟨_, hmap⟩ := value_of_lookup hrules (Nat.le_refl _) hkeys
    obtain ⟨_, hdistinct⟩ := value_of_lookup hentry (Nat.le_refl _) hmap
    exact frames_of_repository hkeys hrules hentry
      (frames_of_ruleBelow hbelow hdistinct (Pointer.ofPlace [.key "repository", .key name]))

theorem within_of_mem_checkRule {document : Document} (hkeys : document.distinctKeys = true)
    (h : violation ∈ checkRule context path document) : Within path violation.path := by
  obtain ⟨place, _, _, hpath⟩ := rule_points document path hkeys violation h
  rw [hpath]
  exact Pointer.within_along path place

/-- The violations at a rule and below it are those of checking it alone. -/
theorem violations_within {document rule : Document} {place : List Step}
    (hkeys : document.distinctKeys = true) (hrule : RuleAt document place rule) (budget : Nat) :
    (violations document budget).filter (Within (Pointer.ofPlace place) ·.path) =
      checkRule ⟨repositoryNames document, budget⟩ (Pointer.ofPlace place) rule := by
  have hdistinct : rule.distinctKeys = true := distinctKeys_of_at? hrule.at? hkeys
  have hkept := (frames_of_ruleAt hrule hkeys budget).filter_within
    fun violation => within_of_mem_checkRule hdistinct
  rwa [replaceAt_self hrule.at? hkeys] at hkept

/-- **No violation hides another.** With any other value in the place of a rule, the violations that are
neither at the rule nor below it are the same, in the same order. Those that are there come from the rule,
its pointer and the names of the repository alone. -/
theorem violations_independent {document rule : Document} {place : List Step}
    (hkeys : document.distinctKeys = true) (hrule : RuleAt document place rule) (budget : Nat) :
    (∀ new : Document, new.distinctKeys = true →
      (violations (document.replaceAt place new) budget).filter (Outside (Pointer.ofPlace place) ·) =
        (violations document budget).filter (Outside (Pointer.ofPlace place) ·)) ∧
    (violations document budget).filter (Within (Pointer.ofPlace place) ·.path) =
      checkRule ⟨repositoryNames document, budget⟩ (Pointer.ofPlace place) rule ∧
    ∀ (other : Document) (place' : List Step), other.distinctKeys = true → RuleAt other place' rule →
      Pointer.ofPlace place' = Pointer.ofPlace place →
      (∀ name, name ∈ repositoryNames other ↔ name ∈ repositoryNames document) →
      (violations other budget).filter (Within (Pointer.ofPlace place) ·.path) =
        (violations document budget).filter (Within (Pointer.ofPlace place) ·.path) := by
  have hdistinct : rule.distinctKeys = true := distinctKeys_of_at? hrule.at? hkeys
  refine ⟨fun new hnew => ?_, violations_within hkeys hrule budget, ?_⟩
  · have hframe := (frames_of_ruleAt hrule hkeys budget).filter_outside
      (fun violation => within_of_mem_checkRule hnew)
      (fun violation => within_of_mem_checkRule hdistinct)
    rwa [replaceAt_self hrule.at? hkeys] at hframe
  · intro other place' hother hrule' hpath hnames
    have halike : Context.Alike ⟨repositoryNames other, budget⟩ ⟨repositoryNames document, budget⟩ :=
      ⟨hnames, rfl⟩
    rw [violations_within hkeys hrule, ← checkRule_congr halike rule, ← hpath]
    exact violations_within hother hrule' budget

/-- A grammar whose rules are wrong in several ways, the second and the eleventh among them. -/
def crowdedDocument : Document :=
  let unknown : Document := .object [("include", .string "#gone")]
  .object [("scopeName", .string "source.t"),
    ("patterns", .array ([.object [], unknown] ++ List.replicate 8 (.object [("match", .string "a")]) ++
      [.null])),
    ("repository", .object [("a/b", .object [("begin", .string "a"), ("captures",
      .object [("0", .object [("patterns", .array [unknown])])])])])]

theorem violations_independent_crowded :
    (violations crowdedDocument 1000).map Violation.path =
        ["/patterns/0", "/patterns/1/include", "/patterns/10", "/repository/a~1b",
          "/repository/a~1b/captures/0/patterns/0/include"] ∧
      (violations (crowdedDocument.replaceAt [.key "patterns", .item 1] .null) 1000).filter
          (Outside "/patterns/1" ·) =
        (violations crowdedDocument 1000).filter (Outside "/patterns/1" ·) ∧
      (violations (crowdedDocument.replaceAt [.key "patterns", .item 10] (.object [])) 1000).filter
          (Within "/patterns/1" ·.path) =
        (violations crowdedDocument 1000).filter (Within "/patterns/1" ·.path) := by
  have hkeys : crowdedDocument.distinctKeys = true := by decide +kernel
  have hrule : RuleAt crowdedDocument [.key "patterns", .item 1]
      (.object [("include", .string "#gone")]) := .pattern rfl rfl (.here _)
  have hrule' : RuleAt (crowdedDocument.replaceAt [.key "patterns", .item 10] (.object []))
      [.key "patterns", .item 1] (.object [("include", .string "#gone")]) :=
    .pattern rfl rfl (.here _)
  obtain ⟨houtside, -, hwithin⟩ := violations_independent hkeys hrule 1000
  exact ⟨by decide +kernel, houtside .null rfl,
    hwithin _ _ (by decide +kernel) hrule' rfl fun _ => Iff.rfl⟩

end Schema

end ScopeScanner
