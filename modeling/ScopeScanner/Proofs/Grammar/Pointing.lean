import ScopeScanner.Proofs.Document.Places
import ScopeScanner.Proofs.Grammar.Rewriting

/-!
# Where violations are found

The pointer of a violation leads to a node of the document that is checked. The checks put pointers
together as they go down, key by key and index by index, and each of them only speaks about the node it
looks at or about a value below that is there.

What is checked below a rule, a list of rules or a map of captures is one list put together of the parts
(`checkRule_object`, `checkRules_eq`, `checkCaptures_eq`), so a violation belongs to one part. The rules
below are smaller, and the argument is by the size of the document.

* **`Schema.violations_point`**: each violation of a document has a pointer that, read by itself, leads to
  a node of the document.
-/

namespace ScopeScanner

namespace Schema

open Pointer (Step)

variable {context : Context} {path : String} {violation : Violation}

/-! ## The parts of a check -/

/-- The keys of a rule below which there are rules, in the order in which they are checked. -/
def rulePartKeys : List String :=
  ["captures", "beginCaptures", "endCaptures", "patterns"]

/-- The violations below a rule, if there is something under the key. -/
def rulePart (context : Context) (path : String) (entries : List (String × Document)) (key : String) :
    List Violation :=
  (entries.lookup key).elim [] (belowField context path key)

/-- A rule is checked by its own keys and then by its parts. -/
theorem checkRule_object (context : Context) (path : String) (entries : List (String × Document)) :
    checkRule context path (.object entries) =
      checkRuleKeys context path entries ++ rulePartKeys.flatMap (rulePart context path entries) := by
  have hpart (key : String) : ((checkBelow context path entries).lookup key).getD [] =
      rulePart context path entries key := by
    rw [checkBelow_eq_map, lookup_map, rulePart]
    cases entries.lookup key <;> rfl
  rw [checkRule]
  simp [hpart, rulePartKeys]

/-- A list of rules is checked item by item. -/
theorem checkRules_eq (context : Context) (path : String) (index : Nat) (items : List Document) :
    checkRules context path index items =
      (items.zipIdx index).flatMap fun entry =>
        checkRule context (Pointer.index path entry.2) entry.1 := by
  induction items generalizing index with
  | nil => rfl
  | cons item rest ih => rw [checkRules, ih, List.zipIdx_cons, List.flatMap_cons]

/-- A map of captures is checked entry by entry. -/
theorem checkCaptures_eq (context : Context) (path : String) (entries : List (String × Document)) :
    checkCaptures context path entries = entries.flatMap fun entry =>
      problemIf (!isGroupNumber entry.1) (Pointer.key path entry.1) .captureKeyNotNumber ++
        checkCapture context (Pointer.key path entry.1) entry.2 := by
  induction entries with
  | nil => rfl
  | cons entry rest ih =>
    obtain ⟨key, value⟩ := entry
    rw [checkCaptures_cons, ih, List.flatMap_cons]

/-- A capture is checked by its keys, its name and its rules. -/
theorem checkCapture_object (context : Context) (path : String) (entries : List (String × Document)) :
    checkCapture context path (.object entries) =
      checkKeys path captureKeys entries ++
      checkText (Pointer.key path "name") (entries.lookup "name") ++
      (entries.lookup "patterns").elim [] (belowCaptureField context path "patterns") := by
  rw [checkCapture, checkCaptureRules_eq_map, lookup_map]
  cases entries.lookup "patterns" <;> rfl

/-! ## Checks of one node -/

theorem path_of_mem_problem {found : Problem} (h : violation ∈ problem path found) :
    violation.path = path := by
  rw [List.mem_singleton.mp h]

theorem path_of_mem_problemIf {condition : Bool} {found : Problem}
    (h : violation ∈ problemIf condition path found) : violation.path = path := by
  cases condition with
  | true => exact path_of_mem_problem h
  | false => cases h

theorem path_of_mem_checkKeys {known : List String} {entries : List (String × Document)}
    (h : violation ∈ checkKeys path known entries) : violation.path = path := by
  obtain ⟨entry, _, hentry⟩ := List.mem_flatMap.mp h
  exact path_of_mem_problemIf hentry

theorem path_of_mem_checkRegex {source : String} (h : violation ∈ checkRegex context path source) :
    violation.path = path := by
  rw [checkRegex] at h
  split at h
  · cases h
  · exact path_of_mem_problem h

theorem path_of_mem_checkClosing {source : String}
    (h : violation ∈ checkClosing context path source) : violation.path = path := by
  rw [checkClosing] at h
  split at h
  · exact path_of_mem_checkRegex h
  · exact path_of_mem_checkRegex h

theorem path_of_mem_checkReference {reference : String}
    (h : violation ∈ checkReference context path reference) : violation.path = path := by
  rw [checkReference] at h
  split at h
  · cases h
  · split at h
    · exact path_of_mem_problemIf h
    · exact path_of_mem_problem h

/-- What is wrong with a text is found where the text is. -/
theorem path_of_mem_checkText {value : Option Document} {further : String → List Violation}
    (hfurther : ∀ text, violation ∈ further text → violation.path = path)
    (h : violation ∈ checkText path value further) :
    value.isSome = true ∧ violation.path = path := by
  cases value with
  | none => cases h
  | some value =>
    refine ⟨rfl, ?_⟩
    cases value with
    | string text => exact hfurther text h
    | _ => exact path_of_mem_problem h

/-- A violation is found at a node, or at the value of one of the node's keys. -/
def AtOrUnder (path : String) (entries : List (String × Document)) (violation : Violation) : Prop :=
  violation.path = path ∨
    ∃ key, (entries.lookup key).isSome = true ∧ violation.path = Pointer.key path key

/-- The checks of a rule's own keys speak about the rule and about the values of its keys. -/
theorem atOrUnder_of_mem_checkRuleKeys {entries : List (String × Document)}
    (h : violation ∈ checkRuleKeys context path entries) : AtOrUnder path entries violation := by
  have under {key : String} {further : String → List Violation}
      (hfurther : ∀ text, violation ∈ further text → violation.path = Pointer.key path key)
      (hmem : violation ∈ checkText (Pointer.key path key) (entries.lookup key) further) :
      AtOrUnder path entries violation :=
    Or.inr ⟨key, path_of_mem_checkText hfurther hmem⟩
  have nothing {key : String} (text : String) (hmem : violation ∈ ([] : List Violation)) :
      violation.path = Pointer.key path key := by cases hmem
  simp only [checkRuleKeys, List.mem_append, or_assoc] at h
  rcases h with h | h | h | h | h | h | h | h | h | h | h | h | h | h | h
  · exact Or.inl (path_of_mem_checkKeys h)
  · exact under nothing h
  · exact under nothing h
  · exact under nothing h
  · -- a reference, and the keys that may not stand beside it
    split at h
    · rcases List.mem_append.mp h with h | h
      · obtain ⟨key, _, hkey⟩ := List.mem_flatMap.mp h
        exact Or.inl (path_of_mem_problemIf hkey)
      · exact under (fun _ => path_of_mem_checkReference) h
    · cases h
  · exact Or.inl (path_of_mem_problemIf h)
  · exact Or.inl (path_of_mem_problemIf h)
  · exact Or.inl (path_of_mem_problemIf h)
  · obtain ⟨key, _, hkey⟩ := List.mem_flatMap.mp h
    exact Or.inl (path_of_mem_problemIf hkey)
  · exact Or.inl (path_of_mem_problemIf h)
  · exact Or.inl (path_of_mem_problemIf h)
  · exact under (fun _ => path_of_mem_checkRegex) h
  · exact under (fun _ => path_of_mem_checkRegex) h
  · exact under (fun _ => path_of_mem_checkClosing) h
  · cases hflag : entries.lookup "applyEndPatternLast" with
    | none =>
      rw [hflag] at h
      cases h
    | some value =>
      refine Or.inr ⟨"applyEndPatternLast", by rw [hflag]; rfl, ?_⟩
      rw [hflag] at h
      cases value with
      | bool flag => cases h
      | _ => exact path_of_mem_problem h

/-! ## Pointers into a document -/

/-- A violation that is found below `path` has a pointer that leads on to a node of the document. -/
def PointsInto (document : Document) (path : String) (violation : Violation) : Prop :=
  ∃ place node, document.at? place = some node ∧ violation.path = Pointer.along path place

theorem PointsInto.here {document : Document} (h : violation.path = path) :
    PointsInto document path violation :=
  ⟨[], document, rfl, h⟩

theorem PointsInto.further {document next : Document} {step : Step}
    (hnext : document.next? step = some next)
    (h : PointsInto next (Pointer.step path step) violation) :
    PointsInto document path violation := by
  obtain ⟨place, node, hnode, hpath⟩ := h
  refine ⟨step :: place, node, ?_, hpath⟩
  rw [Document.at?, hnext]
  exact hnode

theorem AtOrUnder.pointsInto {entries : List (String × Document)}
    (h : AtOrUnder path entries violation) : PointsInto (.object entries) path violation := by
  rcases h with hhere | ⟨key, hkey, hpath⟩
  · exact .here hhere
  · obtain ⟨value, hvalue⟩ := Option.isSome_iff_exists.mp hkey
    have hnext : (Document.object entries).next? (.key key) = some value := hvalue
    exact .further hnext (.here hpath)

/-- All violations of rules below a size point into these rules. -/
def PointsBelow (context : Context) (size : Nat) : Prop :=
  ∀ (document : Document) (path : String), sizeOf document < size → document.distinctKeys = true →
    ∀ violation ∈ checkRule context path document, PointsInto document path violation

section Parts

variable {size : Nat} {value : Document}

/-- The violations of a list of rules point into it. -/
theorem pointsInto_of_mem_checkRules (hbelow : PointsBelow context size) {items : List Document}
    (hsize : sizeOf (Document.array items) ≤ size)
    (hkeys : (Document.array items).distinctKeys = true)
    (h : violation ∈ checkRules context path 0 items) : PointsInto (.array items) path violation := by
  rw [Document.distinctKeys_array] at hkeys
  rw [checkRules_eq] at h
  obtain ⟨⟨item, index⟩, hentry, hitem⟩ := List.mem_flatMap.mp h
  have hnext : (Document.array items).next? (.item index) = some item :=
    List.mem_zipIdx_iff_getElem?.mp hentry
  have hmem : item ∈ items := List.mem_of_getElem? hnext
  have hlt : sizeOf item < size := Nat.lt_of_lt_of_le (sizeOf_item_lt hmem) hsize
  exact .further hnext (hbelow item _ hlt (hkeys item hmem) _ hitem)

/-- The violations of what stands under the key of a list of rules. -/
theorem pointsInto_of_mem_rules (hbelow : PointsBelow context size) (hsize : sizeOf value ≤ size)
    (hkeys : value.distinctKeys = true)
    (h : violation ∈ belowCaptureField context path "patterns" value) :
    PointsInto value (Pointer.key path "patterns") violation := by
  cases value with
  | array items => exact pointsInto_of_mem_checkRules hbelow hsize hkeys h
  | _ => exact .here (path_of_mem_problem h)

/-- The value of a key is a part of the object. -/
theorem value_of_lookup {entries : List (String × Document)} {key : String}
    (hvalue : entries.lookup key = some value) (hsize : sizeOf (Document.object entries) ≤ size)
    (hkeys : (Document.object entries).distinctKeys = true) :
    sizeOf value < size ∧ value.distinctKeys = true := by
  rw [Document.distinctKeys_object] at hkeys
  have hmem := (lookup_eq_some_iff_mem hkeys.1).mp hvalue
  exact ⟨Nat.lt_of_lt_of_le (sizeOf_value_lt hmem) hsize, hkeys.2 _ hmem⟩

/-- The violations of a capture point into it. -/
theorem pointsInto_of_mem_checkCapture (hbelow : PointsBelow context size)
    (hsize : sizeOf value ≤ size) (hkeys : value.distinctKeys = true)
    (h : violation ∈ checkCapture context path value) : PointsInto value path violation := by
  cases value with
  | object entries =>
    rw [checkCapture_object, List.mem_append, List.mem_append, or_assoc] at h
    rcases h with h | h | h
    · exact .here (path_of_mem_checkKeys h)
    · exact AtOrUnder.pointsInto
        (Or.inr ⟨"name", path_of_mem_checkText (fun _ hnone => by cases hnone) h⟩)
    · cases hrules : entries.lookup "patterns" with
      | none =>
        rw [hrules] at h
        cases h
      | some rules =>
        rw [hrules] at h
        have hnext : (Document.object entries).next? (.key "patterns") = some rules := hrules
        obtain ⟨hlt, hdistinct⟩ := value_of_lookup hrules hsize hkeys
        exact .further hnext (pointsInto_of_mem_rules hbelow (Nat.le_of_lt hlt) hdistinct h)
  | _ => exact .here (path_of_mem_problem h)

/-- The violations of a map of captures point into it. -/
theorem pointsInto_of_mem_checkCaptures (hbelow : PointsBelow context size)
    {entries : List (String × Document)} (hsize : sizeOf (Document.object entries) ≤ size)
    (hkeys : (Document.object entries).distinctKeys = true)
    (h : violation ∈ checkCaptures context path entries) :
    PointsInto (.object entries) path violation := by
  rw [checkCaptures_eq] at h
  obtain ⟨⟨key, value⟩, hentry, hvalue⟩ := List.mem_flatMap.mp h
  have hnext : (Document.object entries).next? (.key key) = some value :=
    lookup_of_mem (Document.distinctKeys_object.mp hkeys).1 hentry
  obtain ⟨hlt, hdistinct⟩ := value_of_lookup hnext hsize hkeys
  rcases List.mem_append.mp hvalue with hnumber | hcapture
  · exact .further hnext (.here (path_of_mem_problemIf hnumber))
  · exact .further hnext
      (pointsInto_of_mem_checkCapture hbelow (Nat.le_of_lt hlt) hdistinct hcapture)

/-- The violations of one part of a rule point into the value of its key. -/
theorem pointsInto_of_mem_belowField (hbelow : PointsBelow context size) (hsize : sizeOf value ≤ size)
    (hkeys : value.distinctKeys = true) {key : String} (hpart : key ∈ rulePartKeys)
    (h : violation ∈ belowField context path key value) :
    PointsInto value (Pointer.key path key) violation := by
  have hsplit : key ∈ ruleCaptureKeys ++ ["patterns"] := hpart
  rcases List.mem_append.mp hsplit with hcaptures | hrules
  · simp only [ruleCaptureKeys, List.mem_cons, List.not_mem_nil, or_false] at hcaptures
    rcases hcaptures with rfl | rfl | rfl
    all_goals
      cases value with
      | object entries => exact pointsInto_of_mem_checkCaptures hbelow hsize hkeys h
      | _ => exact .here (path_of_mem_problem h)
  · obtain rfl := List.mem_singleton.mp hrules
    exact pointsInto_of_mem_rules hbelow hsize hkeys h

/-- The violations of a rule point into it. -/
theorem pointsInto_of_mem_checkRule {document : Document}
    (hbelow : PointsBelow context (sizeOf document)) (hkeys : document.distinctKeys = true)
    (h : violation ∈ checkRule context path document) : PointsInto document path violation := by
  cases document with
  | object entries =>
    rw [checkRule_object, List.mem_append] at h
    rcases h with hown | hpart
    · exact (atOrUnder_of_mem_checkRuleKeys hown).pointsInto
    · obtain ⟨key, hkey, hviolation⟩ := List.mem_flatMap.mp hpart
      rw [rulePart] at hviolation
      cases hvalue : entries.lookup key with
      | none =>
        rw [hvalue] at hviolation
        cases hviolation
      | some value =>
        rw [hvalue] at hviolation
        have hnext : (Document.object entries).next? (.key key) = some value := hvalue
        obtain ⟨hlt, hdistinct⟩ := value_of_lookup hvalue (Nat.le_refl _) hkeys
        exact .further hnext
          (pointsInto_of_mem_belowField hbelow (Nat.le_of_lt hlt) hdistinct hkey hviolation)
  | _ => exact .here (path_of_mem_problem h)

end Parts

/-- **The violations of a rule point into it**, by recursion on its size. -/
theorem rule_points (document : Document) (path : String) (hkeys : document.distinctKeys = true)
    (violation : Violation) (h : violation ∈ checkRule context path document) :
    PointsInto document path violation :=
  pointsInto_of_mem_checkRule
    (fun below path _ hkeys violation h => rule_points below path hkeys violation h) hkeys h
termination_by sizeOf document

/-! ## Grammar documents -/

/-- The check that the rules of a repository have names. -/
def checkRepositoryKind : Option Document → List Violation
  | none | some (.object _) => []
  | some _ => problem "/repository" .notObject

/-- The checks of a grammar's own keys, before its rules. -/
def checkGrammarKeys (context : Context) (entries : List (String × Document)) : List Violation :=
  checkKeys "" grammarKeys entries ++
  checkRepositoryKind (entries.lookup "repository") ++
  checkScopeName (entries.lookup "scopeName") ++
  (["name", "uuid", "keyEquivalent", "foldingStartMarker", "foldingStopMarker"].flatMap
    fun key => checkText (Pointer.key "" key) (entries.lookup key)) ++
  checkText "/firstLineMatch" (entries.lookup "firstLineMatch")
    (checkRegex context "/firstLineMatch") ++
  checkFileTypes (entries.lookup "fileTypes")

/-- The checks of the list of rules of a grammar. -/
def checkPatterns (context : Context) : Option Document → List Violation
  | some patterns => checkRuleList context "/patterns" patterns
  | none => problem "" (.missingKey "patterns")

/-- A grammar is checked by its own keys, its list of rules and its repository. -/
theorem violations_object (entries : List (String × Document)) (budget : Nat) :
    violations (.object entries) budget =
      checkGrammarKeys (contextOf entries budget) entries ++
        checkPatterns (contextOf entries budget) (entries.lookup "patterns") ++
        checkRepository (contextOf entries budget) (repositoryEntries entries) := by
  rfl

theorem path_of_mem_checkScopeName {value : Option Document}
    (h : violation ∈ checkScopeName value) :
    violation.path = "" ∨ value.isSome = true ∧ violation.path = Pointer.key "" "scopeName" := by
  cases value with
  | none => exact Or.inl (path_of_mem_problem h)
  | some value =>
    refine Or.inr ⟨rfl, ?_⟩
    cases value with
    | string scope => exact path_of_mem_problemIf h
    | _ => exact path_of_mem_problem h

/-- What is wrong with the file types is found at the list, or at one of its items. -/
theorem path_of_mem_checkFileTypes {value : Option Document}
    (h : violation ∈ checkFileTypes value) :
    ∃ types, value = some types ∧ (violation.path = Pointer.key "" "fileTypes" ∨
      ∃ index item, types.next? (.item index) = some item ∧
        violation.path = Pointer.along "" [.key "fileTypes", .item index]) := by
  cases value with
  | none => cases h
  | some types =>
    refine ⟨types, rfl, ?_⟩
    cases types with
    | array items =>
      obtain ⟨⟨item, index⟩, hentry, hitem⟩ := List.mem_flatMap.mp h
      exact Or.inr ⟨index, item, List.mem_zipIdx_iff_getElem?.mp hentry, path_of_mem_problemIf hitem⟩
    | _ => exact Or.inl (path_of_mem_problem h)

/-- The checks of a grammar's own keys speak about the grammar, about the values of its keys, and about
its file types. -/
theorem path_of_mem_checkGrammarKeys {entries : List (String × Document)}
    (h : violation ∈ checkGrammarKeys context entries) :
    AtOrUnder "" entries violation ∨ ∃ types index item, entries.lookup "fileTypes" = some types ∧
      types.next? (.item index) = some item ∧
      violation.path = Pointer.along "" [.key "fileTypes", .item index] := by
  simp only [checkGrammarKeys, List.mem_append, or_assoc] at h
  rcases h with h | h | h | h | h | h
  · exact Or.inl (Or.inl (path_of_mem_checkKeys h))
  · left; right
    refine ⟨"repository", ?_⟩
    cases hrepository : entries.lookup "repository" with
    | none =>
      rw [hrepository] at h
      cases h
    | some value =>
      rw [hrepository] at h
      refine ⟨rfl, ?_⟩
      cases value with
      | object rules => cases h
      | _ => exact path_of_mem_problem h
  · exact Or.inl ((path_of_mem_checkScopeName h).imp_right fun hkey => ⟨"scopeName", hkey⟩)
  · obtain ⟨key, _, hkey⟩ := List.mem_flatMap.mp h
    exact Or.inl (Or.inr ⟨key, path_of_mem_checkText (fun _ hnone => by cases hnone) hkey⟩)
  · exact Or.inl (Or.inr ⟨"firstLineMatch",
      path_of_mem_checkText (fun _ => path_of_mem_checkRegex) h⟩)
  · obtain ⟨types, htypes, hhere | ⟨index, item, hitem, hpath⟩⟩ := path_of_mem_checkFileTypes h
    · exact Or.inl (Or.inr ⟨"fileTypes", by rw [htypes]; rfl, hhere⟩)
    · exact Or.inr ⟨types, index, item, htypes, hitem, hpath⟩

/-- The repository of a grammar, if it has entries. -/
theorem lookup_of_mem_repositoryEntries {entries : List (String × Document)}
    {entry : String × Document} (h : entry ∈ repositoryEntries entries) :
    entries.lookup "repository" = some (.object (repositoryEntries entries)) := by
  cases hrepository : entries.lookup "repository" with
  | none =>
    rw [repositoryEntries, hrepository] at h
    cases h
  | some value =>
    cases value with
    | object rules => rw [repositoryEntries, hrepository]
    | _ =>
      rw [repositoryEntries, hrepository] at h
      cases h

/-- A list of rules of a grammar that is missing is missed at the grammar, and one that is there is
checked where it is. -/
theorem path_of_mem_checkPatterns {entries : List (String × Document)}
    (hkeys : (Document.object entries).distinctKeys = true)
    (h : violation ∈ checkPatterns context (entries.lookup "patterns")) :
    violation.path = "" ∨ ∃ rules, entries.lookup "patterns" = some rules ∧
      PointsInto rules (Pointer.key "" "patterns") violation := by
  cases hrules : entries.lookup "patterns" with
  | none =>
    rw [hrules] at h
    exact Or.inl (path_of_mem_problem h)
  | some rules =>
    rw [hrules] at h
    obtain ⟨_, hdistinct⟩ := value_of_lookup hrules (Nat.le_refl _) hkeys
    exact Or.inr ⟨rules, rfl, pointsInto_of_mem_rules (fun below path _ => rule_points below path)
      (Nat.le_refl _) hdistinct h⟩

/-- The violations of a repository point into it. -/
theorem pointsInto_of_mem_checkRepository {rules : List (String × Document)}
    (hkeys : (Document.object rules).distinctKeys = true)
    (h : violation ∈ checkRepository context rules) :
    PointsInto (.object rules) (Pointer.key "" "repository") violation := by
  rw [Document.distinctKeys_object] at hkeys
  obtain ⟨⟨name, rule⟩, hentry, hrule⟩ := List.mem_flatMap.mp h
  have hnext : (Document.object rules).next? (.key name) = some rule := lookup_of_mem hkeys.1 hentry
  exact .further hnext (rule_points rule _ (hkeys.2 _ hentry) violation hrule)

/-- The violations of a grammar document point into it. -/
theorem pointsInto_of_mem_violations {document : Document} (hkeys : document.distinctKeys = true)
    {budget : Nat} (h : violation ∈ violations document budget) :
    PointsInto document "" violation := by
  cases document with
  | object entries =>
    rw [violations_object, List.mem_append, List.mem_append, or_assoc] at h
    rcases h with hown | hpatterns | hrepository
    · rcases path_of_mem_checkGrammarKeys hown with hkey | ⟨types, index, item, htypes, hitem, hpath⟩
      · exact hkey.pointsInto
      · have hnext : (Document.object entries).next? (.key "fileTypes") = some types := htypes
        exact .further hnext (.further hitem (.here hpath))
    · rcases path_of_mem_checkPatterns hkeys hpatterns with hmissing | ⟨rules, hrules, hpoints⟩
      · exact .here hmissing
      · have hnext : (Document.object entries).next? (.key "patterns") = some rules := hrules
        exact .further hnext hpoints
    · obtain ⟨entry, hentry, _⟩ := List.mem_flatMap.mp hrepository
      have hlookup := lookup_of_mem_repositoryEntries hentry
      obtain ⟨_, hdistinct⟩ := value_of_lookup hlookup (Nat.le_refl _) hkeys
      have hnext : (Document.object entries).next? (.key "repository") =
          some (.object (repositoryEntries entries)) := hlookup
      exact .further hnext (pointsInto_of_mem_checkRepository hdistinct hrepository)
  | _ => exact .here (path_of_mem_problem h)

/-- **Violations point into the document.** The pointer of each violation, read as it stands, leads to a
node of the document. -/
theorem violations_point {document : Document} (hkeys : document.distinctKeys = true) (budget : Nat) :
    ∀ violation ∈ violations document budget, ∃ node, document.find? violation.path = some node := by
  intro violation hviolation
  obtain ⟨place, node, hnode, hpath⟩ := pointsInto_of_mem_violations hkeys hviolation
  refine ⟨node, ?_⟩
  rw [hpath]
  exact Document.find?_ofPlace hnode

/-- Rules under keys that look like pointers themselves, with a capture under a key that is no number. -/
def tildeDocument : Document :=
  let wrong (key : String) : Document :=
    .object [("match", .string "a"), ("captures", .object [(key, .object [("patterns", .array [
      .object [("include", .string "#~1")], .object [("name", .string "n")]])])])]
  .object [("scopeName", .string "source.t"), ("patterns", .array []),
    ("repository", .object [("a/~b", wrong "~0"), ("~1", wrong "/1/"), ("", .object [])])]

theorem violations_point_tildes :
    tildeDocument.distinctKeys = true ∧
      (violations tildeDocument 1000).map Violation.path =
        ["/repository/a~1~0b/captures/~00", "/repository/a~1~0b/captures/~00/patterns/1",
          "/repository/~01/captures/~11~1", "/repository/~01/captures/~11~1/patterns/1",
          "/repository/"] ∧
      ∀ violation ∈ violations tildeDocument 1000, ∃ node,
        tildeDocument.find? violation.path = some node := by
  have hkeys : tildeDocument.distinctKeys = true := by decide +kernel
  exact ⟨hkeys, by decide +kernel, violations_point hkeys 1000⟩

end Schema

end ScopeScanner
