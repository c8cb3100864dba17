import ScopeScanner.Json.Reader
import ScopeScanner.Yaml.Reader

/-!
# Documents with each key once

An object that is read from a text holds each key once, because a key that is written again replaces
its value (`insertEntry`). Nothing in the type of documents says so, and a document put together by
hand may well hold a key twice:

* **`Json.distinctKeys_of_read`** and **`Yaml.distinctKeys_of_read`**: a document that was read holds
  each key once, in all of its objects. For YAML this includes what aliases stand for.
-/

namespace ScopeScanner

mutual

/-- Whether all objects in a document hold each key once. -/
def Document.distinctKeys : Document → Bool
  | .array items => distinctItems items
  | .object entries => (entries.map (·.1)).Nodup && distinctEntries entries
  | _ => true

/-- Whether all objects in a list of documents hold each key once. -/
def distinctItems : List Document → Bool
  | [] => true
  | item :: rest => item.distinctKeys && distinctItems rest

/-- Whether all objects in the values of an object hold each key once. -/
def distinctEntries : List (String × Document) → Bool
  | [] => true
  | (_, value) :: rest => value.distinctKeys && distinctEntries rest

end

theorem distinctItems_iff {items : List Document} :
    distinctItems items = true ↔ ∀ item ∈ items, item.distinctKeys = true := by
  induction items with
  | nil => simp [distinctItems]
  | cons item rest ih => simp [distinctItems, ih]

theorem distinctEntries_iff {entries : List (String × Document)} :
    distinctEntries entries = true ↔ ∀ entry ∈ entries, entry.2.distinctKeys = true := by
  induction entries with
  | nil => simp [distinctEntries]
  | cons entry rest ih => simp [distinctEntries, ih]

namespace Document

theorem distinctKeys_array {items : List Document} :
    (array items).distinctKeys = true ↔ ∀ item ∈ items, item.distinctKeys = true := by
  rw [distinctKeys, distinctItems_iff]

theorem distinctKeys_object {entries : List (String × Document)} :
    (object entries).distinctKeys = true ↔
      (entries.map (·.1)).Nodup ∧ ∀ entry ∈ entries, entry.2.distinctKeys = true := by
  rw [distinctKeys, Bool.and_eq_true, decide_eq_true_eq, distinctEntries_iff]

end Document

/-! ## Entries by their keys -/

/-- In a map with each key once, an entry is what its key leads to. -/
theorem lookup_of_mem {κ α : Type} [BEq κ] [LawfulBEq κ] {entries : List (κ × α)} {key : κ} {value : α}
    (hkeys : (entries.map (·.1)).Nodup) (hmem : (key, value) ∈ entries) :
    entries.lookup key = some value := by
  induction entries with
  | nil => cases hmem
  | cons entry rest ih =>
    rw [List.map_cons, List.nodup_cons] at hkeys
    rcases List.mem_cons.mp hmem with rfl | hmem
    · simp
    · have hne : key ≠ entry.1 := by
        rintro rfl
        exact hkeys.1 (List.mem_map_of_mem (f := (·.1)) hmem)
      rw [List.lookup_cons, beq_false_of_ne hne]
      exact ih hkeys.2 hmem

/-- In a map with each key once, a key leads to what it stands with. -/
theorem lookup_eq_some_iff_mem {κ α : Type} [BEq κ] [LawfulBEq κ] {entries : List (κ × α)} {key : κ}
    {value : α} (hkeys : (entries.map (·.1)).Nodup) :
    entries.lookup key = some value ↔ (key, value) ∈ entries := by
  refine ⟨fun h => ?_, lookup_of_mem hkeys⟩
  obtain ⟨before, after, rfl, _⟩ := List.lookup_eq_some_iff.mp h
  simp

theorem lookup_eq_none {α : Type} {entries : List (String × α)} {key : String}
    (h : key ∉ entries.map (·.1)) : entries.lookup key = none := by
  rw [List.lookup_eq_none_iff]
  intro entry hentry
  refine bne_iff_ne.mpr ?_
  rintro rfl
  exact h (List.mem_map_of_mem hentry)

/-! ## Writing a key again -/

/-- A key that is written is there, and the others are as before. -/
theorem mem_insertEntry {α : Type} {entries : List (String × α)} {key : String} {value : α}
    {entry : String × α} (h : entry ∈ insertEntry entries key value) :
    entry = (key, value) ∨ entry ∈ entries := by
  induction entries with
  | nil => exact Or.inl (List.mem_singleton.mp h)
  | cons first rest ih =>
    rw [insertEntry] at h
    split at h
    · exact (List.mem_cons.mp h).imp_right (List.mem_cons_of_mem first)
    · rcases List.mem_cons.mp h with rfl | h
      · exact Or.inr List.mem_cons_self
      · exact (ih h).imp_right (List.mem_cons_of_mem first)

/-- A new key is written behind the others. -/
theorem insertEntry_of_not_mem {α : Type} {entries : List (String × α)} {key : String} (value : α)
    (h : key ∉ entries.map (·.1)) : insertEntry entries key value = entries ++ [(key, value)] := by
  induction entries with
  | nil => rfl
  | cons entry rest ih =>
    rw [List.map_cons, List.mem_cons, not_or] at h
    rw [insertEntry, if_neg (Ne.symm h.1), ih h.2, List.cons_append]

/-- A key that comes once goes behind those before it. -/
theorem insertEntry_eq_append {α : Type} {done rest : List (String × α)} {key : String} {value : α}
    (h : ((done ++ (key, value) :: rest).map (·.1)).Nodup) :
    insertEntry done key value = done ++ [(key, value)] := by
  apply insertEntry_of_not_mem
  rw [List.map_append, List.nodup_append] at h
  exact fun hmem => h.2.2 key hmem key List.mem_cons_self rfl

/-- Keys that are new stay new when the first of them is entered, if it is none of the others. -/
theorem insertEntry_new {α β : Type} {key : String} {value : α} {rest : List (String × α)}
    {done : List (String × β)} (added : β) (hkey : key ∉ rest.map (·.1))
    (hnew : ∀ entry ∈ (key, value) :: rest, entry.1 ∉ done.map (·.1)) :
    ∀ entry ∈ rest, entry.1 ∉ (insertEntry done key added).map (·.1) := by
  intro entry hentry hmem
  obtain ⟨found, hfound, hsame⟩ := List.mem_map.mp hmem
  rcases mem_insertEntry hfound with rfl | hfound
  · exact hkey (List.mem_map.mpr ⟨entry, hentry, hsame.symm⟩)
  · exact hnew entry (List.mem_cons_of_mem _ hentry) (List.mem_map.mpr ⟨found, hfound, hsame⟩)

theorem nodup_insertEntry {α : Type} {entries : List (String × α)} (key : String) (value : α)
    (h : (entries.map (·.1)).Nodup) : ((insertEntry entries key value).map (·.1)).Nodup := by
  induction entries with
  | nil => simp [insertEntry]
  | cons first rest ih =>
    rw [List.map_cons, List.nodup_cons] at h
    rw [insertEntry]
    split
    · next hkey =>
      rw [List.map_cons, List.nodup_cons, ← hkey]
      exact h
    · next hkey =>
      rw [List.map_cons, List.nodup_cons]
      refine ⟨?_, ih h.2⟩
      intro hmem
      obtain ⟨entry, hentry, hfirst⟩ := List.mem_map.mp hmem
      rcases mem_insertEntry hentry with rfl | hentry
      · exact hkey hfirst.symm
      · exact h.1 (List.mem_map.mpr ⟨entry, hentry, hfirst⟩)

/-- An object in which each key is held once stays so when a key is written. -/
theorem Document.distinctKeys_insertEntry {entries : List (String × Document)} {key : String}
    {value : Document} (hentries : (object entries).distinctKeys = true)
    (hvalue : value.distinctKeys = true) :
    (object (insertEntry entries key value)).distinctKeys = true := by
  rw [distinctKeys_object] at hentries ⊢
  refine ⟨nodup_insertEntry key value hentries.1, ?_⟩
  intro entry hentry
  rcases mem_insertEntry hentry with rfl | hentry
  · exact hvalue
  · exact hentries.2 entry hentry

/-! ## Documents read from JSON -/

/-- What goes well is passed on. -/
theorem bind_of_ok {ε α β : Type} {first : Except ε α} {value : α} (h : first = .ok value)
    (further : α → Except ε β) : first >>= further = further value := by
  rw [h]
  rfl

theorem bind_eq_ok {ε α β : Type} {first : Except ε α} {next : α → Except ε β} {result : β}
    (h : first >>= next = .ok result) : ∃ value, first = .ok value ∧ next value = .ok result := by
  cases first with
  | error fault => cases h
  | ok value => exact ⟨value, rfl, h⟩

namespace Json

mutual

theorem distinctKeys_of_toDocument : ∀ (tree : Tree) (levels : Levels) (document : Document),
    tree.toDocument levels = .ok document → document.distinctKeys = true
  | .null => by
    rintro levels document ⟨⟩
    rfl
  | .bool value => by
    rintro levels document ⟨⟩
    rfl
  | .number literal => by
    intro levels document h
    rw [Tree.toDocument] at h
    split at h
    · cases h
    · cases h
      rfl
  | .string (some value) => by
    rintro levels document ⟨⟩
    rfl
  | .string none | .broken _ | .brokenText _ | .keyless _ => by
    rintro levels document ⟨⟩
  | .array items tail => by
    intro levels document h
    rw [Tree.toDocument] at h
    obtain ⟨below, _, h⟩ := bind_eq_ok h
    obtain ⟨documents, hitems, h⟩ := bind_eq_ok h
    cases tail with
    | some fault => cases h
    | none =>
      cases h
      exact distinctItems_of_itemsToDocuments items below documents hitems
  | .object entries tail => by
    intro levels document h
    rw [Tree.toDocument] at h
    obtain ⟨below, _, h⟩ := bind_eq_ok h
    obtain ⟨documents, hentries, h⟩ := bind_eq_ok h
    cases tail with
    | some fault => cases h
    | none =>
      cases h
      exact distinctKeys_of_entriesToDocuments entries below [] documents rfl hentries

theorem distinctItems_of_itemsToDocuments :
    ∀ (items : List Tree) (levels : Levels) (documents : List Document),
      itemsToDocuments levels items = .ok documents → distinctItems documents = true
  | [] => by
    rintro levels documents ⟨⟩
    rfl
  | item :: rest => by
    intro levels documents h
    rw [itemsToDocuments] at h
    obtain ⟨first, hfirst, h⟩ := bind_eq_ok h
    obtain ⟨others, hothers, h⟩ := bind_eq_ok h
    cases h
    rw [distinctItems, Bool.and_eq_true]
    exact ⟨distinctKeys_of_toDocument item levels first hfirst,
      distinctItems_of_itemsToDocuments rest levels others hothers⟩

theorem distinctKeys_of_entriesToDocuments : ∀ (entries : List (String × Tree)) (levels : Levels)
    (done documents : List (String × Document)), (Document.object done).distinctKeys = true →
      entriesToDocuments levels entries done = .ok documents →
        (Document.object documents).distinctKeys = true
  | [] => by
    rintro levels done documents hdone ⟨⟩
    exact hdone
  | (key, value) :: rest => by
    intro levels done documents hdone h
    rw [entriesToDocuments] at h
    obtain ⟨document, hdocument, h⟩ := bind_eq_ok h
    exact distinctKeys_of_entriesToDocuments rest levels (insertEntry done key document) documents
      (Document.distinctKeys_insertEntry hdone
        (distinctKeys_of_toDocument value levels document hdocument)) h

end

/-- **A document read from a JSON text holds each key once.** -/
theorem distinctKeys_of_read {text : String} {document : Document}
    (h : Json.read text = .ok document) : document.distinctKeys = true := by
  obtain ⟨value, hvalue, hfinish⟩ := bind_eq_ok h
  split at hfinish
  · cases hfinish
  · cases hfinish
    exact distinctKeys_of_toDocument _ _ _ hvalue

end Json

/-! ## Documents read from YAML -/

namespace Yaml

/-- What aliases stand for holds each key once. -/
def Anchors.Distinct (anchors : Anchors) : Prop :=
  ∀ name anchored, (name, some anchored) ∈ anchors.entries →
    ∀ document ∈ anchored.document, document.distinctKeys = true

theorem distinctKeys_of_fractionDocument {text : String} {document : Document}
    (h : fractionDocument text = some document) : document.distinctKeys = true := by
  simp only [fractionDocument] at h
  split at h
  · cases h
    rfl
  · split at h
    · cases h
      rfl
    · cases h

theorem distinctKeys_of_wholeDocument {text : String} {document : Document}
    (h : wholeDocument text = some document) : document.distinctKeys = true := by
  rw [wholeDocument] at h
  split at h
  · cases h
    rfl
  · cases h

theorem distinctKeys_of_plainDocument {text : String} {document : Document}
    (h : plainDocument text = some document) : document.distinctKeys = true := by
  rw [plainDocument] at h
  split at h
  · cases h
    rfl
  · split at h
    · cases h
      rfl
    · split at h
      · cases h
        rfl
      · cases h
      · split at h
        · cases h
          rfl
        · obtain rfl := Option.some.inj h
          cases hfraction : fractionDocument text with
          | none => rfl
          | some document => exact distinctKeys_of_fractionDocument hfraction

/-- A text is read as a document without objects. -/
theorem distinctKeys_of_scalarDocument {tag : Option String} {plain : Bool} {text : String}
    {document : Document} (h : scalarDocument tag plain text = some document) :
    document.distinctKeys = true := by
  rw [scalarDocument.eq_def] at h
  split at h
  · split at h
    · exact distinctKeys_of_plainDocument h
    · cases h
      rfl
  · obtain ⟨value, _, rfl⟩ := Option.map_eq_some_iff.mp h
    rfl
  · exact distinctKeys_of_wholeDocument h
  · exact distinctKeys_of_fractionDocument h
  · split at h
    · cases h
      rfl
    · cases h
  · split at h
    · cases h
    · cases h
      rfl

theorem Anchors.Distinct.announce {anchors : Anchors} (h : anchors.Distinct)
    (properties : Properties) : (anchors.announce properties).Distinct := by
  rw [Anchors.announce]
  split
  · intro name anchored hmem
    rcases List.mem_cons.mp hmem with heq | hmem
    · cases heq
    · exact h name anchored hmem
  · exact h

theorem mem_fill {name : String} {anchored : Anchored} {entries : List (String × Option Anchored)}
    {entry : String × Option Anchored} (h : entry ∈ Anchors.fill name anchored entries) :
    entry ∈ entries ∨ entry.2 = some anchored := by
  induction entries with
  | nil => cases h
  | cons first rest ih =>
    obtain ⟨known, value⟩ := first
    cases value with
    | some value =>
      rw [Anchors.fill] at h
      rcases List.mem_cons.mp h with rfl | h
      · exact Or.inl List.mem_cons_self
      · exact (ih h).imp_left (List.mem_cons_of_mem _)
      · intro _ heq
        cases heq
    | none =>
      -- the latest open node with the name is filled in, all others stay
      rw [Anchors.fill] at h
      split at h
      · rcases List.mem_cons.mp h with rfl | h
        · exact Or.inr rfl
        · exact Or.inl (List.mem_cons_of_mem _ h)
      · rcases List.mem_cons.mp h with rfl | h
        · exact Or.inl List.mem_cons_self
        · exact (ih h).imp_left (List.mem_cons_of_mem _)

theorem Anchors.Distinct.note {anchors : Anchors} (h : anchors.Distinct) (properties : Properties)
    {anchored : Anchored}
    (hanchored : ∀ document ∈ anchored.document, document.distinctKeys = true) :
    (anchors.note properties anchored).Distinct := by
  rw [Anchors.note]
  split
  · intro name other hmem
    rcases mem_fill hmem with hmem | heq
    · exact h name other hmem
    · cases heq
      exact hanchored
  · exact h

theorem Anchors.Distinct.follow {anchors after : Anchors} (h : anchors.Distinct) {name : String}
    {anchored : Anchored} (hfollow : anchors.follow name = some (anchored, after)) :
    after.Distinct ∧ ∀ document ∈ anchored.document, document.distinctKeys = true := by
  obtain ⟨found, hfound, hrest⟩ := Option.bind_eq_some_iff.mp hfollow
  obtain ⟨known, hknown, hrest⟩ := Option.bind_eq_some_iff.mp hrest
  cases hrest
  obtain ⟨before, behind, hentries, _⟩ := List.lookup_eq_some_iff.mp hfound
  -- an alias gives back what was noted, and notes nothing but the count
  refine ⟨h, h name anchored ?_⟩
  rw [hentries, show found = some anchored from hknown]
  exact List.mem_append_right _ List.mem_cons_self

theorem distinct_readScalar {anchors : Anchors} (h : anchors.Distinct) (properties : Properties)
    (text : String) (plain : Bool) :
    (readScalar properties text plain anchors).2.Distinct :=
  (h.announce properties).note properties fun _ hdocument => distinctKeys_of_scalarDocument hdocument

theorem distinct_readKey {anchors after : Anchors} {text : String} (h : anchors.Distinct) :
    ∀ key : Node, readKey key anchors = some (text, after) → after.Distinct
  | .scalar properties text plain => by
    rintro ⟨⟩
    exact distinct_readScalar h properties text plain
  | .alias name => by
    intro hread
    obtain ⟨⟨anchored, after⟩, hfollow, hrest⟩ := Option.bind_eq_some_iff.mp hread
    obtain ⟨text, _, hrest⟩ := Option.bind_eq_some_iff.mp hrest
    cases hrest
    exact (h.follow hfollow).1
  | .sequence _ _ | .mapping _ _ => by rintro ⟨⟩

mutual

/-- A node is read as a document with each key once, and so is what later aliases stand for. -/
theorem distinct_toDocument : ∀ (node : Node) (anchors after : Anchors) (document : Document),
    anchors.Distinct → node.toDocument anchors = some (document, after) →
      document.distinctKeys = true ∧ after.Distinct
  | .alias name => by
    intro anchors after document hanchors h
    rw [Node.toDocument] at h
    obtain ⟨⟨anchored, followed⟩, hfollow, h⟩ := Option.bind_eq_some_iff.mp h
    obtain ⟨found, hfound, h⟩ := Option.bind_eq_some_iff.mp h
    cases h
    obtain ⟨hafter, hdocument⟩ := hanchors.follow hfollow
    exact ⟨hdocument document hfound, hafter⟩
  | .scalar properties text plain => by
    intro anchors after document hanchors h
    rw [Node.toDocument] at h
    obtain ⟨found, hfound, h⟩ := Option.bind_eq_some_iff.mp h
    cases h
    exact ⟨distinctKeys_of_scalarDocument hfound, distinct_readScalar hanchors properties text plain⟩
  | .sequence properties items => by
    intro anchors after document hanchors h
    rw [Node.toDocument] at h
    split at h
    · cases h
    obtain ⟨⟨documents, read⟩, hitems, h⟩ := Option.bind_eq_some_iff.mp h
    cases h
    obtain ⟨hdocuments, hread⟩ := distinct_itemsToDocuments items (anchors.announce properties) read
      documents (hanchors.announce properties) hitems
    refine ⟨hdocuments, hread.note properties ?_⟩
    rintro document ⟨⟩
    exact hdocuments
  | .mapping properties entries => by
    intro anchors after document hanchors h
    rw [Node.toDocument] at h
    split at h
    · cases h
    obtain ⟨⟨documents, read⟩, hentries, h⟩ := Option.bind_eq_some_iff.mp h
    cases h
    obtain ⟨hdocuments, hread⟩ := distinct_entriesToDocuments entries [] documents
      (anchors.announce properties) read (hanchors.announce properties) rfl hentries
    refine ⟨hdocuments, hread.note properties ?_⟩
    rintro document ⟨⟩
    exact hdocuments

theorem distinct_itemsToDocuments : ∀ (items : List Node) (anchors after : Anchors)
    (documents : List Document), anchors.Distinct →
      itemsToDocuments items anchors = some (documents, after) →
        (Document.array documents).distinctKeys = true ∧ after.Distinct
  | [] => by
    rintro anchors after documents hanchors ⟨⟩
    exact ⟨rfl, hanchors⟩
  | item :: rest => by
    intro anchors after documents hanchors h
    rw [itemsToDocuments] at h
    obtain ⟨⟨first, between⟩, hfirst, h⟩ := Option.bind_eq_some_iff.mp h
    obtain ⟨⟨others, last⟩, hothers, h⟩ := Option.bind_eq_some_iff.mp h
    cases h
    obtain ⟨hdocument, hbetween⟩ := distinct_toDocument item anchors between first hanchors hfirst
    obtain ⟨hdocuments, hafter⟩ :=
      distinct_itemsToDocuments rest between after others hbetween hothers
    rw [Document.distinctKeys_array] at hdocuments ⊢
    exact ⟨List.forall_mem_cons.mpr ⟨hdocument, hdocuments⟩, hafter⟩

theorem distinct_entriesToDocuments : ∀ (entries : List (Node × Node))
    (done documents : List (String × Document)) (anchors after : Anchors), anchors.Distinct →
      (Document.object done).distinctKeys = true →
        entriesToDocuments entries done anchors = some (documents, after) →
          (Document.object documents).distinctKeys = true ∧ after.Distinct
  | [] => by
    rintro done documents anchors after hanchors hdone ⟨⟩
    exact ⟨hdone, hanchors⟩
  | (key, value) :: rest => by
    intro done documents anchors after hanchors hdone h
    rw [entriesToDocuments] at h
    obtain ⟨⟨text, between⟩, hkey, h⟩ := Option.bind_eq_some_iff.mp h
    obtain ⟨⟨document, last⟩, hvalue, h⟩ := Option.bind_eq_some_iff.mp h
    obtain ⟨hdocument, hlast⟩ := distinct_toDocument value between last document
      (distinct_readKey hanchors key hkey) hvalue
    exact distinct_entriesToDocuments rest (insertEntry done text document) documents last after hlast
      (Document.distinctKeys_insertEntry hdone hdocument) h

end

/-- **A document read from a YAML text holds each key once.** -/
theorem distinctKeys_of_read {text : String} {document : Document}
    (h : Yaml.read text = some document) : document.distinctKeys = true := by
  obtain ⟨node, _, h⟩ := Option.bind_eq_some_iff.mp h
  obtain ⟨⟨found, anchors⟩, hdocument, h⟩ := Option.bind_eq_some_iff.mp h
  dsimp only at h
  split at h
  · cases h
    exact (distinct_toDocument node {} anchors document (fun _ _ hmem => by cases hmem) hdocument).1
  · cases h

end Yaml

end ScopeScanner
