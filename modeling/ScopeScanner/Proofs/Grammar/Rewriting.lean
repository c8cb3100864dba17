import ScopeScanner.Proofs.Grammar.Writing

/-!
# Accepted rules that are read and written again

A rule that was read from an accepted document is written with other entries than the document had:
empty maps and lists and flags that are not set are left out. The checks look at which keys are there, so
it has to be shown that they still find nothing:

* **`Schema.checkRuleKeys_of_fewer`**: the checks of a rule's keys allow fields that say nothing to be
  left out.
* **`Schema.rewritten_of_checkRule`**: an accepted rule is accepted again, at the same place.

As for reading, the argument is by the size of the document, with the rules below taken as given
(`Schema.RewrittenBelow`).
-/

namespace ScopeScanner

open Json (Tree treesOfDocuments treesOfEntries)

namespace Schema

/-! ## Entries by their keys -/

theorem lookup_map {α β : Type} (found : String → α → β) (entries : List (String × α))
    (key : String) :
    (entries.map fun entry => (entry.1, found entry.1 entry.2)).lookup key =
      (entries.lookup key).map (found key) := by
  induction entries with
  | nil => rfl
  | cons entry rest ih =>
    rw [List.map_cons, List.lookup_cons, List.lookup_cons, ih]
    by_cases h : key = entry.1
    · simp [h]
    · simp [beq_false_of_ne h]

/-- A key that stands with a text, or is not there, is written as it was read. -/
theorem lookup_text_written {entries written : List (String × Document)} {key : String}
    {content : Option String} (hread : content = (entries.lookup key).bind Document.string?)
    (htext : ∀ value, entries.lookup key = some value → ∃ text, value = .string text)
    (hwritten : ∀ value, written.lookup key = some value ↔
      ∃ text, content = some text ∧ value = .string text) :
    written.lookup key = entries.lookup key := by
  cases hfound : entries.lookup key with
  | none =>
    rw [Option.eq_none_iff_forall_not_mem]
    intro value hvalue
    obtain ⟨text, hsome, _⟩ := (hwritten value).mp hvalue
    rw [hread, hfound] at hsome
    cases hsome
  | some value =>
    obtain ⟨text, rfl⟩ := htext value hfound
    rw [hfound] at hread
    exact (hwritten _).mpr ⟨text, hread, rfl⟩

section Rule

variable {context : Context} {path : String} {entries written : List (String × Document)}

/-- The keys of a rule with rules below them. -/
def ruleNestedKeys : List String :=
  ruleCaptureKeys ++ ["patterns"]

/-- A rule is accepted if its own keys are, and what is below them. -/
theorem checkRule_object_eq_nil : checkRule context path (.object entries) = [] ↔
    checkRuleKeys context path entries = [] ∧ ∀ key ∈ ruleNestedKeys,
      ∀ value, entries.lookup key = some value → belowField context path key value = [] := by
  have hpart (key : String) : ((checkBelow context path entries).lookup key).getD [] = [] ↔
      ∀ value, entries.lookup key = some value → belowField context path key value = [] := by
    rw [checkBelow_eq_map, lookup_map]
    cases entries.lookup key <;> simp
  rw [checkRule]
  simp only [List.append_eq_nil_iff, hpart, and_assoc, ruleNestedKeys, ruleCaptureKeys,
    List.cons_append, List.nil_append, List.forall_mem_cons, List.not_mem_nil, false_imp_iff,
    implies_true, and_true]

theorem problemIf_of_imp {condition stronger : Bool} {found : Problem}
    (h : problemIf condition path found = []) (himp : stronger = true → condition = true) :
    problemIf stronger path found = [] := by
  rw [problemIf_eq_nil h] at himp
  rw [problemIf, if_neg (fun hstronger => Bool.false_ne_true (himp hstronger))]

/-- **The checks of a rule's keys allow entries to be left out**, as long as the texts stay and whether
there is a list of rules with something in it. -/
theorem checkRuleKeys_of_fewer (h : checkRuleKeys context path entries = [])
    (hknown : ∀ entry ∈ written, entry.1 ∈ ruleKeys)
    (htexts : ∀ key ∈ ruleTextKeys, written.lookup key = entries.lookup key)
    (hfewer : ∀ key, (written.lookup key).isSome = true → (entries.lookup key).isSome = true)
    (hrules : checkRuleKeys.lacksRules (written.lookup "patterns") =
      checkRuleKeys.lacksRules (entries.lookup "patterns"))
    (hflag : ∀ value, written.lookup "applyEndPatternLast" = some value →
      ∃ flag, value = .bool flag) : checkRuleKeys context path written = [] := by
  simp only [ruleTextKeys, List.forall_mem_cons, List.not_mem_nil, false_imp_iff, implies_true,
    and_true] at htexts
  obtain ⟨hinclude, hmatch, hbegin, hend, hname, hcontent, hcomment⟩ := htexts
  simp only [checkRuleKeys, List.append_eq_nil_iff, and_assoc, hinclude, hmatch, hbegin, hend, hname,
    hcontent, hcomment, hrules] at h ⊢
  obtain ⟨_, hnames, hcontents, hcomments, hreference, hpattern, hopened, hclosed, hregion,
    hcaptures, hnothing, hmatches, hbegins, hends, _⟩ := h
  refine ⟨?_, hnames, hcontents, hcomments, ?_, hpattern, hopened, hclosed, ?_, ?_, hnothing,
    hmatches, hbegins, hends, ?_⟩
  · refine List.flatMap_eq_nil_iff.mpr fun entry hentry => ?_
    rw [problemIf, if_neg (by simpa using hknown entry hentry)]
  · by_cases hsome : (entries.lookup "include").isSome = true
    · rw [if_pos hsome] at hreference ⊢
      obtain ⟨hcombined, htext⟩ := List.append_eq_nil_iff.mp hreference
      refine List.append_eq_nil_iff.mpr ⟨?_, htext⟩
      refine List.flatMap_eq_nil_iff.mpr fun key hkey => ?_
      exact problemIf_of_imp (List.flatMap_eq_nil_iff.mp hcombined key hkey) (hfewer key)
    · rw [if_neg hsome]
  · refine List.flatMap_eq_nil_iff.mpr fun key hkey => ?_
    refine problemIf_of_imp (List.flatMap_eq_nil_iff.mp hregion key hkey) fun hfound => ?_
    rw [Bool.and_eq_true] at hfound ⊢
    exact ⟨hfewer key hfound.1, hfound.2⟩
  · refine problemIf_of_imp hcaptures fun hfound => ?_
    rw [Bool.and_eq_true] at hfound ⊢
    exact ⟨hfewer "captures" hfound.1, hfound.2⟩
  · cases hfound : written.lookup "applyEndPatternLast" with
    | none => rfl
    | some value =>
      obtain ⟨flag, rfl⟩ := hflag value hfound
      rfl

end Rule

/-! ## Rules below -/

/-- A rule that is read from a document and accepted again in its place. -/
structure Rewritten (context : Context) (path : String) (document : Document) (rule : RuleSpec) :
    Prop where
  read : readRule none (.ofDocument document) = .ok rule
  accepted : checkRule context path rule.toDocument = []
  keys : rule.toDocument.distinctKeys = true

/-- All accepted rules below a size are read and accepted again. -/
def RewrittenBelow (context : Context) (size : Nat) : Prop :=
  ∀ (document : Document) (path : String), sizeOf document < size →
    document.distinctKeys = true → checkRule context path document = [] →
      ∃ rule, Rewritten context path document rule

section Parts

variable {context : Context} {path key : String} {size : Nat}

/-- The rules of a list are read and accepted again, each under its index. -/
theorem rules_rewritten {items : List Document} (hbelow : RewrittenBelow context size)
    (hsize : sizeOf (Document.array items) ≤ size)
    (hkeys : (Document.array items).distinctKeys = true) {index : Nat}
    (hitems : checkRules context path index items = []) :
    ∃ rules, readRulesIn none (treesOfDocuments items) = .ok rules ∧
      rules.length = items.length ∧ checkRules context path index (ruleDocuments rules) = [] ∧
      (Document.array (ruleDocuments rules)).distinctKeys = true := by
  rw [Document.distinctKeys_array] at hkeys
  have hsizes : ∀ item ∈ items, sizeOf item < size := by
    intro item hitem
    have hlt := sizeOf_item_lt hitem
    omega
  clear hsize
  induction items generalizing index with
  | nil => exact ⟨[], rfl, rfl, rfl, rfl⟩
  | cons item rest ih =>
    rw [checkRules] at hitems
    obtain ⟨hitem, hrest⟩ := List.append_eq_nil_iff.mp hitems
    obtain ⟨rule, hrule⟩ := hbelow item _ (hsizes item List.mem_cons_self)
      (hkeys item List.mem_cons_self) hitem
    obtain ⟨rules, hread, hlength, hchecked, hdistinct⟩ := ih
      (fun other hother => hkeys other (List.mem_cons_of_mem _ hother)) hrest
      (fun other hother => hsizes other (List.mem_cons_of_mem _ hother))
    refine ⟨rule :: rules, ?_, by rw [List.length_cons, List.length_cons, hlength], ?_, ?_⟩
    · rw [treesOfDocuments, readRulesIn, bind_of_ok hrule.read, bind_of_ok hread]
      rfl
    · rw [ruleDocuments, checkRules, hrule.accepted, hchecked]
      rfl
    · rw [Document.distinctKeys_array] at hdistinct ⊢
      rw [ruleDocuments]
      exact List.forall_mem_cons.mpr ⟨hrule.keys, hdistinct⟩

/-- The rules that are read from the list in a record and accepted again in its place. -/
structure RulesUnder (context : Context) (path : String) (entries : List (String × Document))
    (rules : List RuleSpec) : Prop where
  read : ∀ value, entries.lookup "patterns" = some value → ∃ items, value = .array items ∧
    readRulesIn none (treesOfDocuments items) = .ok rules ∧ rules.length = items.length
  absent : entries.lookup "patterns" = none → rules = []
  accepted : checkRules context (Pointer.key path "patterns") 0 (ruleDocuments rules) = []
  keys : (Document.array (ruleDocuments rules)).distinctKeys = true

theorem exists_rulesUnder {entries : List (String × Document)} (hbelow : RewrittenBelow context size)
    (hsize : sizeOf (Document.object entries) ≤ size)
    (hkeys : (Document.object entries).distinctKeys = true)
    (hchecked : ∀ value, entries.lookup "patterns" = some value →
      belowCaptureField context path "patterns" value = []) :
    ∃ rules, RulesUnder context path entries rules := by
  rw [Document.distinctKeys_object] at hkeys
  cases hfound : entries.lookup "patterns" with
  | none =>
    refine ⟨[], ⟨?_, fun _ => rfl, rfl, rfl⟩⟩
    intro value hvalue
    rw [hfound] at hvalue
    cases hvalue
  | some value =>
    have hmem := (lookup_eq_some_iff_mem hkeys.1).mp hfound
    have hvalue := hchecked value hfound
    cases value with
    | array items =>
      have hlt : sizeOf (Document.array items) < _ := sizeOf_value_lt hmem
      obtain ⟨rules, hread, hlength, haccepted, hdistinct⟩ :=
        rules_rewritten hbelow (by omega) (hkeys.2 _ hmem) hvalue
      refine ⟨rules, ⟨?_, fun hnone => ?_, haccepted, hdistinct⟩⟩
      · intro value hsame
        obtain rfl := Option.some.inj (hfound.symm.trans hsame)
        exact ⟨items, rfl, hread, hlength⟩
      · rw [hfound] at hnone
        cases hnone
    | _ => cases hvalue

/-! ## Captures -/

/-- The violations of one capture. -/
def checkCapture (context : Context) (path : String) : Document → List Violation
  | .object entries =>
    checkKeys path captureKeys entries ++
    checkText (Pointer.key path "name") (entries.lookup "name") ++
    ((checkCaptureRules context path entries).lookup "patterns").getD []
  | _ => problem path .captureNotObject

theorem checkCaptures_cons (key : String) (value : Document) (rest : List (String × Document)) :
    checkCaptures context path ((key, value) :: rest) =
      problemIf (!isGroupNumber key) (Pointer.key path key) .captureKeyNotNumber ++
        checkCapture context (Pointer.key path key) value ++ checkCaptures context path rest := by
  rw [checkCaptures.eq_def]
  cases value <;> rfl

/-- A capture is accepted if its keys are, its name, and the rules below it. -/
theorem checkCapture_object_eq_nil {entries : List (String × Document)} :
    checkCapture context path (.object entries) = [] ↔
      (∀ entry ∈ entries, entry.1 ∈ captureKeys) ∧
      checkText (Pointer.key path "name") (entries.lookup "name") = [] ∧
      ∀ value, entries.lookup "patterns" = some value →
        belowCaptureField context path "patterns" value = [] := by
  have hpart : ((checkCaptureRules context path entries).lookup "patterns").getD [] = [] ↔
      ∀ value, entries.lookup "patterns" = some value →
        belowCaptureField context path "patterns" value = [] := by
    rw [checkCaptureRules_eq_map, lookup_map]
    cases entries.lookup "patterns" <;> simp
  have hknown : checkKeys path captureKeys entries = [] ↔ ∀ entry ∈ entries, entry.1 ∈ captureKeys := by
    refine ⟨checkKeys_eq_nil, fun h => List.flatMap_eq_nil_iff.mpr fun entry hentry => ?_⟩
    rw [problemIf, if_neg (by simpa using h entry hentry)]
  rw [checkCapture, List.append_eq_nil_iff, List.append_eq_nil_iff, hpart, hknown, and_assoc]

/-- What the fields of a capture are read from, and what is accepted of them again. -/
structure CaptureFieldsOf (context : Context) (path : String) (entries : List (String × Document))
    (capture : CaptureSpec RuleSpec) : Prop where
  name : capture.name = (entries.lookup "name").bind Document.string?
  rules : RulesUnder context path entries capture.patterns

namespace CaptureFieldsOf

variable {entries : List (String × Document)} {capture : CaptureSpec RuleSpec}

theorem read (hfields : CaptureFieldsOf context path entries capture)
    (hkeys : (entries.map (·.1)).Nodup) (h : checkCapture context path (.object entries) = []) :
    readCapture none (.ofDocument (.object entries)) = .ok capture := by
  obtain ⟨hknown, hname, _⟩ := checkCapture_object_eq_nil.mp h
  have henter : Json.Levels.enter none = .ok none := rfl
  refine CaptureSpec.read_of_fields henter hkeys ?_ ?_ ?_
  · rintro ⟨key, value⟩ hentry
    have hlookup := lookup_of_mem hkeys hentry
    have hkey := hknown _ hentry
    simp only [captureKeys, List.mem_cons, List.not_mem_nil, or_false] at hkey
    rcases hkey with rfl | rfl
    · rw [hlookup] at hname
      obtain ⟨text, rfl, _⟩ := checkText_eq_nil hname
      refine .name ?_
      rw [hfields.name, hlookup]
      rfl
    · obtain ⟨items, rfl, hitems, _⟩ := hfields.rules.read value hlookup
      exact .patterns rfl hitems
  · intro hnone
    rw [hfields.name, lookup_eq_none hnone]
    rfl
  · exact fun hnone => hfields.rules.absent (lookup_eq_none hnone)

theorem accepted (hfields : CaptureFieldsOf context path entries capture) :
    checkCapture context path capture.toDocument = [] := by
  obtain ⟨written, hdocument, hdistinct, hwritten⟩ := capture.toDocument_entries
  rw [hdocument, checkCapture_object_eq_nil]
  refine ⟨?_, ?_, ?_⟩
  · rintro ⟨key, value⟩ hentry
    cases (hwritten key value).mp hentry with
    | name | patterns => simp [captureKeys]
  · cases hfound : written.lookup "name" with
    | none => rfl
    | some value =>
      rw [lookup_eq_some_iff_mem hdistinct, hwritten] at hfound
      generalize hkey : "name" = key at hfound
      cases hfound with
      | name => rfl
      | patterns => simp at hkey
  · intro value hfound
    rw [lookup_eq_some_iff_mem hdistinct, hwritten] at hfound
    generalize hkey : "patterns" = key at hfound
    cases hfound with
    | name => simp at hkey
    | patterns => exact hfields.rules.accepted

theorem keys (hfields : CaptureFieldsOf context path entries capture) :
    capture.toDocument.distinctKeys = true := by
  obtain ⟨written, hdocument, hdistinct, hwritten⟩ := capture.toDocument_entries
  rw [hdocument, Document.distinctKeys_object]
  refine ⟨hdistinct, ?_⟩
  rintro ⟨key, value⟩ hentry
  cases (hwritten key value).mp hentry with
  | name => rfl
  | patterns => exact hfields.rules.keys

end CaptureFieldsOf

theorem capture_rewritten {value : Document} (hbelow : RewrittenBelow context size)
    (hsize : sizeOf value ≤ size) (hkeys : value.distinctKeys = true)
    (hvalue : checkCapture context path value = []) :
    ∃ capture, readCapture none (.ofDocument value) = .ok capture ∧
      checkCapture context path capture.toDocument = [] ∧
      capture.toDocument.distinctKeys = true := by
  cases value with
  | object entries =>
    obtain ⟨_, _, hpatterns⟩ := checkCapture_object_eq_nil.mp hvalue
    obtain ⟨rules, hrules⟩ := exists_rulesUnder hbelow hsize hkeys hpatterns
    obtain ⟨hnodup, _⟩ := Document.distinctKeys_object.mp hkeys
    have hfields : CaptureFieldsOf context path entries
        { name := (entries.lookup "name").bind Document.string?, patterns := rules } :=
      ⟨rfl, hrules⟩
    exact ⟨_, hfields.read hnodup hvalue, hfields.accepted, hfields.keys⟩
  | _ => cases hvalue

/-- The captures of a map are read and accepted again, each under its number. -/
theorem captures_rewritten {entries : List (String × Document)} (hbelow : RewrittenBelow context size)
    (hsize : sizeOf (Document.object entries) ≤ size)
    (hkeys : (Document.object entries).distinctKeys = true)
    (hentries : checkCaptures context path entries = []) :
    ∃ captures, readCapturesIn none (treesOfEntries entries) [] = .ok captures ∧
      checkCaptures context path (captureDocuments captures) = [] ∧
      (Document.object (captureDocuments captures)).distinctKeys = true := by
  obtain ⟨hnodup, hvalues⟩ := Document.distinctKeys_object.mp hkeys
  have hsizes : ∀ entry ∈ entries, sizeOf entry.2 ≤ size := by
    intro entry hentry
    have hlt := sizeOf_value_lt hentry
    omega
  -- the captures read so far have other keys, so each one goes behind them
  suffices hdone : ∀ done : List (String × CaptureSpec RuleSpec),
      (∀ entry ∈ entries, entry.1 ∉ done.map (·.1)) → ∃ captures,
        readCapturesIn none (treesOfEntries entries) done = .ok (done ++ captures) ∧
        captures.map (·.1) = entries.map (·.1) ∧
        checkCaptures context path (captureDocuments captures) = [] ∧
        ∀ entry ∈ captures, entry.2.toDocument.distinctKeys = true by
    obtain ⟨captures, hread, hnames, hchecked, hdistinct⟩ := hdone [] (by simp)
    refine ⟨captures, hread, hchecked, ?_⟩
    rw [Document.distinctKeys_object, captureDocuments_eq_map, List.map_map, List.forall_mem_map]
    exact ⟨hnames ▸ hnodup, hdistinct⟩
  clear hkeys hsize
  induction entries with
  | nil => exact fun done _ => ⟨[], by rw [List.append_nil]; rfl, rfl, rfl, by simp⟩
  | cons entry rest ih =>
    intro done hnew
    obtain ⟨key, value⟩ := entry
    rw [checkCaptures_cons, List.append_eq_nil_iff, List.append_eq_nil_iff] at hentries
    obtain ⟨⟨hnumber, hvalue⟩, hrest⟩ := hentries
    rw [List.map_cons, List.nodup_cons] at hnodup
    obtain ⟨capture, hcapture, hchecked, hdistinct⟩ := capture_rewritten hbelow
      (hsizes _ List.mem_cons_self) (hvalues _ List.mem_cons_self) hvalue
    obtain ⟨captures, hread, hnames, hothers, hall⟩ := ih hrest hnodup.2
      (fun entry hentry => hvalues entry (List.mem_cons_of_mem _ hentry))
      (fun entry hentry => hsizes entry (List.mem_cons_of_mem _ hentry))
      (insertEntry done key capture) (insertEntry_new capture hnodup.1 hnew)
    refine ⟨(key, capture) :: captures, ?_, ?_, ?_, List.forall_mem_cons.mpr ⟨hdistinct, hall⟩⟩
    · rw [treesOfEntries, readCapturesIn, bind_of_ok hcapture, hread,
        insertEntry_of_not_mem _ (hnew (key, value) List.mem_cons_self), List.append_assoc]
      rfl
    · rw [List.map_cons, List.map_cons, hnames]
    · rw [captureDocuments_eq_map, List.map_cons, ← captureDocuments_eq_map, checkCaptures_cons,
        hnumber, hchecked, hothers]
      rfl

/-- The captures that are read from a map in a rule and accepted again in its place. -/
structure CapturesUnder (context : Context) (path key : String) (entries : List (String × Document))
    (captures : List (String × CaptureSpec RuleSpec)) : Prop where
  read : ∀ value, entries.lookup key = some value → ∃ numbered, value = .object numbered ∧
    readCapturesIn none (treesOfEntries numbered) [] = .ok captures
  absent : entries.lookup key = none → captures = []
  accepted : checkCaptures context (Pointer.key path key) (captureDocuments captures) = []
  keys : (Document.object (captureDocuments captures)).distinctKeys = true

theorem exists_capturesUnder {entries : List (String × Document)}
    (hbelow : RewrittenBelow context size) (hsize : sizeOf (Document.object entries) ≤ size)
    (hkeys : (Document.object entries).distinctKeys = true) (hkey : key ∈ ruleCaptureKeys)
    (hchecked : ∀ value, entries.lookup key = some value → belowField context path key value = []) :
    ∃ captures, CapturesUnder context path key entries captures := by
  rw [Document.distinctKeys_object] at hkeys
  cases hfound : entries.lookup key with
  | none =>
    refine ⟨[], ⟨?_, fun _ => rfl, rfl, rfl⟩⟩
    intro value hvalue
    rw [hfound] at hvalue
    cases hvalue
  | some value =>
    have hmem := (lookup_eq_some_iff_mem hkeys.1).mp hfound
    obtain ⟨numbered, rfl, hnumbered⟩ := acceptedCaptures_of_belowField (hchecked value hfound) hkey
    have hlt : sizeOf (Document.object numbered) < _ := sizeOf_value_lt hmem
    obtain ⟨captures, hread, haccepted, hdistinct⟩ :=
      captures_rewritten hbelow (by omega) (hkeys.2 _ hmem) hnumbered
    refine ⟨captures, ⟨?_, fun hnone => ?_, haccepted, hdistinct⟩⟩
    · intro value hsame
      obtain rfl := Option.some.inj (hfound.symm.trans hsame)
      exact ⟨numbered, rfl, hread⟩
    · rw [hfound] at hnone
      cases hnone

/-! ## Rules -/

/-- A known key of a rule is one of four kinds. -/
theorem ruleKey_cases (hkey : key ∈ ruleKeys) :
    key ∈ ruleTextKeys ∨ key ∈ ruleCaptureKeys ∨ key = "patterns" ∨ key = "applyEndPatternLast" := by
  simp only [ruleKeys, List.mem_cons, List.not_mem_nil, or_false] at hkey
  rcases hkey with rfl | rfl | rfl | rfl | rfl | rfl | rfl | rfl | rfl | rfl | rfl | rfl
  all_goals simp [ruleTextKeys, ruleCaptureKeys]

/-- The flag that is read from an entry, if there is one. -/
def flagOf : Option Document → Bool
  | some (.bool flag) => flag
  | _ => false

/-- What the fields of a rule are read from, and what is accepted of them again. -/
structure FieldsOf (context : Context) (path : String) (entries : List (String × Document))
    (rule : RuleSpec) : Prop where
  texts : ∀ key ∈ ruleTextKeys, rule.textOf key = (entries.lookup key).bind Document.string?
  captures : ∀ key ∈ ruleCaptureKeys,
    CapturesUnder context path key entries (rule.capturesOf key)
  rules : RulesUnder context path entries rule.patterns
  flag : rule.closingLast = flagOf (entries.lookup "applyEndPatternLast")

theorem exists_fieldsOf {entries : List (String × Document)} (hbelow : RewrittenBelow context size)
    (hsize : sizeOf (Document.object entries) ≤ size)
    (hkeys : (Document.object entries).distinctKeys = true)
    (h : checkRule context path (.object entries) = []) :
    ∃ rule, FieldsOf context path entries rule := by
  obtain ⟨_, hnested⟩ := checkRule_object_eq_nil.mp h
  have hcaptures (key : String) (hkey : key ∈ ruleCaptureKeys) :
      ∃ captures, CapturesUnder context path key entries captures :=
    exists_capturesUnder hbelow hsize hkeys hkey (hnested key (List.mem_append_left _ hkey))
  obtain ⟨own, hown⟩ := hcaptures "captures" (by simp [ruleCaptureKeys])
  obtain ⟨opening, hopening⟩ := hcaptures "beginCaptures" (by simp [ruleCaptureKeys])
  obtain ⟨closing, hclosing⟩ := hcaptures "endCaptures" (by simp [ruleCaptureKeys])
  obtain ⟨rules, hrules⟩ := exists_rulesUnder hbelow hsize hkeys
    (hnested "patterns" (by simp [ruleNestedKeys]))
  let text (key : String) : Option String := (entries.lookup key).bind Document.string?
  refine ⟨{
    reference := text "include", pattern := text "match", opening := text "begin",
    closing := text "end", name := text "name", contentName := text "contentName",
    captures := own, openingCaptures := opening, closingCaptures := closing, patterns := rules,
    closingLast := flagOf (entries.lookup "applyEndPatternLast"),
    comment := text "comment" }, ⟨?_, ?_, hrules, rfl⟩⟩
  · simp only [ruleTextKeys, List.forall_mem_cons, List.not_mem_nil, false_imp_iff, implies_true,
      and_true]
    exact ⟨rfl, rfl, rfl, rfl, rfl, rfl, rfl⟩
  · simp only [ruleCaptureKeys, List.forall_mem_cons, List.not_mem_nil, false_imp_iff, implies_true,
      and_true]
    exact ⟨hown, hopening, hclosing⟩

namespace FieldsOf

variable {entries : List (String × Document)} {rule : RuleSpec}

theorem read (hfields : FieldsOf context path entries rule) (hkeys : (entries.map (·.1)).Nodup)
    (h : checkRule context path (.object entries) = []) :
    readRule none (.ofDocument (.object entries)) = .ok rule := by
  have haccepted := acceptedField_of_checkRule hkeys h
  refine RuleSpec.read_of_fields (show Json.Levels.enter none = .ok none from rfl) hkeys ?_ ?_
  · rintro ⟨key, value⟩ hentry
    have hlookup := lookup_of_mem hkeys hentry
    rcases ruleKey_cases (haccepted key value hentry).known with htext | hcapture | rfl | rfl
    · obtain ⟨text, rfl, _⟩ := (haccepted key value hentry).text htext
      refine .text htext ?_
      rw [hfields.texts key htext, hlookup]
      rfl
    · obtain ⟨numbered, rfl, hread⟩ := (hfields.captures key hcapture).read value hlookup
      exact .captures hcapture rfl hread
    · obtain ⟨items, rfl, hread, _⟩ := hfields.rules.read value hlookup
      exact .patterns rfl hread
    · obtain ⟨flag, rfl⟩ := (haccepted _ value hentry).flag rfl
      have hflag : rule.closingLast = flag := by
        rw [hfields.flag, hlookup]
        rfl
      exact hflag ▸ .flag
  · refine RuleSpec.only_eq ?_ ?_ ?_ ?_
    · intro key htext hnone
      rw [hfields.texts key htext, lookup_eq_none hnone]
      rfl
    · exact fun key hcapture hnone => (hfields.captures key hcapture).absent (lookup_eq_none hnone)
    · exact fun hnone => hfields.rules.absent (lookup_eq_none hnone)
    · intro hnone
      rw [hfields.flag, lookup_eq_none hnone]
      rfl

/-- The rule is written with the texts of the document, and with no key that the document does not
have. -/
theorem lookup_written (hfields : FieldsOf context path entries rule)
    (hkeys : (entries.map (·.1)).Nodup) (h : checkRule context path (.object entries) = [])
    {written : List (String × Document)}
    (hwritten : ∀ key value, written.lookup key = some value ↔ RuleSpec.Written rule key value) :
    (∀ key ∈ ruleTextKeys, written.lookup key = entries.lookup key) ∧
      ∀ key, (written.lookup key).isSome = true → (entries.lookup key).isSome = true := by
  constructor
  · intro key htext
    apply lookup_text_written (hfields.texts key htext)
    · intro value hfound
      have hmem := (lookup_eq_some_iff_mem hkeys).mp hfound
      obtain ⟨text, hvalue, _⟩ := (acceptedField_of_checkRule hkeys h key value hmem).text htext
      exact ⟨text, hvalue⟩
    · exact fun value => (hwritten key value).trans (RuleSpec.Written.text_iff htext)
  · -- a key that the document does not have says nothing, and is not written
    intro key hsome
    obtain ⟨value, hvalue⟩ := Option.isSome_iff_exists.mp hsome
    rw [Option.isSome_iff_ne_none]
    intro hnone
    cases (hwritten key value).mp hvalue with
    | text htext hset =>
      rw [hfields.texts key htext, hnone] at hset
      cases hset
    | captures hcapture hset => exact hset ((hfields.captures key hcapture).absent hnone)
    | patterns hset => exact hset (hfields.rules.absent hnone)
    | flag hset =>
      rw [hfields.flag, hnone] at hset
      cases hset

/-- Whether there is a list of rules with something in it stays as it was. -/
theorem lacksRules_written (hfields : FieldsOf context path entries rule)
    {written : List (String × Document)}
    (hwritten : ∀ key value, written.lookup key = some value ↔ RuleSpec.Written rule key value) :
    checkRuleKeys.lacksRules (written.lookup "patterns") =
      checkRuleKeys.lacksRules (entries.lookup "patterns") := by
  by_cases hrules : rule.patterns = []
  · have hnone : written.lookup "patterns" = none := by
      rw [Option.eq_none_iff_forall_not_mem]
      exact fun value hvalue => ((hwritten _ value).mp hvalue).of_patterns.1 hrules
    rw [hnone]
    cases hfound : entries.lookup "patterns" with
    | none => rfl
    | some value =>
      obtain ⟨items, rfl, _, hlength⟩ := hfields.rules.read value hfound
      rw [hrules] at hlength
      obtain rfl := List.eq_nil_of_length_eq_zero hlength.symm
      rfl
  · rw [(hwritten _ _).mpr (.patterns hrules)]
    cases hfound : entries.lookup "patterns" with
    | none => exact absurd (hfields.rules.absent hfound) hrules
    | some value =>
      obtain ⟨items, rfl, _, hlength⟩ := hfields.rules.read value hfound
      have hitems : items ≠ [] := by
        rintro rfl
        exact hrules (List.eq_nil_of_length_eq_zero hlength)
      show (ruleDocuments rule.patterns).isEmpty = items.isEmpty
      rw [List.isEmpty_eq_false_iff.mpr hitems, List.isEmpty_eq_false_iff, ne_eq, ruleDocuments_eq_nil]
      exact hrules

theorem accepted (hfields : FieldsOf context path entries rule) (hkeys : (entries.map (·.1)).Nodup)
    (h : checkRule context path (.object entries) = []) :
    checkRule context path rule.toDocument = [] := by
  obtain ⟨written, hdocument, hdistinct, hentries⟩ := rule.toDocument_entries
  have hwritten (key : String) (value : Document) :
      written.lookup key = some value ↔ RuleSpec.Written rule key value := by
    rw [lookup_eq_some_iff_mem hdistinct, hentries]
  obtain ⟨htexts, hfewer⟩ := hfields.lookup_written hkeys h hwritten
  rw [hdocument, checkRule_object_eq_nil]
  refine ⟨checkRuleKeys_of_fewer (checkRule_object_eq_nil.mp h).1 ?_ htexts hfewer
    (hfields.lacksRules_written hwritten) ?_, ?_⟩
  · exact fun entry hentry => ((hentries entry.1 entry.2).mp hentry).known
  · intro value hvalue
    obtain ⟨_, rfl⟩ := ((hwritten _ value).mp hvalue).of_flag
    exact ⟨true, rfl⟩
  · -- what is below a key was found to be right when it was read
    intro key hkey value hvalue
    rcases List.mem_append.mp hkey with hcapture | hpatterns
    · obtain ⟨_, rfl⟩ := ((hwritten key value).mp hvalue).of_captures hcapture
      have hchecked := (hfields.captures key hcapture).accepted
      simp only [ruleCaptureKeys, List.mem_cons, List.not_mem_nil, or_false] at hcapture
      rcases hcapture with rfl | rfl | rfl
      all_goals exact hchecked
    · obtain rfl := List.mem_singleton.mp hpatterns
      obtain ⟨_, rfl⟩ := ((hwritten _ value).mp hvalue).of_patterns
      exact hfields.rules.accepted

theorem keys (hfields : FieldsOf context path entries rule) :
    rule.toDocument.distinctKeys = true := by
  obtain ⟨written, hdocument, hdistinct, hentries⟩ := rule.toDocument_entries
  rw [hdocument, Document.distinctKeys_object]
  refine ⟨hdistinct, ?_⟩
  rintro ⟨key, value⟩ hentry
  cases (hentries key value).mp hentry with
  | text | flag => rfl
  | captures hcapture => exact (hfields.captures key hcapture).keys
  | patterns => exact hfields.rules.keys

end FieldsOf

/-- A rule that is read from an accepted document is accepted again. -/
theorem rule_rewritten {document : Document} (hbelow : RewrittenBelow context (sizeOf document))
    (hkeys : document.distinctKeys = true) (h : checkRule context path document = []) :
    ∃ rule, Rewritten context path document rule := by
  cases document with
  | object entries =>
    obtain ⟨rule, hfields⟩ := exists_fieldsOf hbelow (Nat.le_refl _) hkeys h
    rw [Document.distinctKeys_object] at hkeys
    exact ⟨rule, hfields.read hkeys.1 h, hfields.accepted hkeys.1 h, hfields.keys⟩
  | _ => cases h

end Parts

/-- **A rule that is read from an accepted document is accepted again**, in the same place. -/
theorem rewritten_of_checkRule {context : Context} (document : Document) (path : String)
    (hkeys : document.distinctKeys = true) (h : checkRule context path document = []) :
    ∃ rule, Rewritten context path document rule :=
  rule_rewritten (fun below path _ hkeys h => rewritten_of_checkRule below path hkeys h) hkeys h
termination_by sizeOf document

end Schema

end ScopeScanner
