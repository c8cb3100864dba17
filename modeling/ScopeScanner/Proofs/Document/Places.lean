import ScopeScanner.Document.Pointer
import ScopeScanner.Proofs.Files.Paths

/-!
# Places in documents

A node of a document is found by the steps that lead to it from the root: keys of objects and indices of
arrays (`Document.at?`). Written out, these steps are a pointer (`Pointer.ofPlace`). A pointer is read by
splitting it at its slashes, undoing the escapes of each part, and following the parts from the root
(`Document.find?`), without knowing which of them are keys and which are indices.

* **`Document.find?_ofPlace`**: a pointer that is written for a place leads to the node there, whatever
  characters are in the keys on the way.
* **`Pointer.texts_of_within`**: pointers that lead below the same place agree in all of its steps. The
  comparison is by whole parts, so `/patterns/10` is not below `/patterns/1`.
-/

namespace ScopeScanner

/-- A step from a node of a document to one below it. -/
inductive Pointer.Step where
  | key (key : String)
  | item (index : Nat)
deriving DecidableEq, Repr

/-- An ordered map with the value of a key changed. -/
def changeEntry {α : Type} (entries : List (String × α)) (key : String) (change : α → α) :
    List (String × α) :=
  entries.map fun entry => if entry.1 = key then (entry.1, change entry.2) else entry

section ChangeEntry

variable {α : Type} (entries : List (String × α)) (key : String) (change : α → α)

@[simp] theorem keys_changeEntry : (changeEntry entries key change).map (·.1) = entries.map (·.1) := by
  rw [changeEntry, List.map_map]
  refine List.map_congr_left fun entry _ => ?_
  show (if entry.1 = key then (entry.1, change entry.2) else entry).1 = entry.1
  split <;> rfl

/-- The value of the key is changed. -/
theorem lookup_changeEntry :
    (changeEntry entries key change).lookup key = (entries.lookup key).map change := by
  induction entries with
  | nil => rfl
  | cons entry rest ih =>
    obtain ⟨name, value⟩ := entry
    rw [changeEntry] at ih ⊢
    by_cases h : name = key
    · simp [h]
    · simp [h, List.lookup_cons, beq_false_of_ne (Ne.symm h), ih]

/-- The values of the other keys stay as they are. -/
theorem lookup_changeEntry_of_ne {other : String} (h : other ≠ key) :
    (changeEntry entries key change).lookup other = entries.lookup other := by
  induction entries with
  | nil => rfl
  | cons entry rest ih =>
    obtain ⟨name, value⟩ := entry
    rw [changeEntry] at ih ⊢
    by_cases hname : name = key
    · simp [hname, List.lookup_cons, beq_false_of_ne h, ih]
    · simp [hname, List.lookup_cons, ih]

end ChangeEntry

namespace Document

open Pointer (Step)

/-- The node that a step leads to. -/
def next? : Document → Step → Option Document
  | object entries, .key key => entries.lookup key
  | array items, .item index => items[index]?
  | _, _ => none

/-- The node at a place. -/
def at? (document : Document) : List Step → Option Document
  | [] => some document
  | step :: place => (document.next? step).bind (·.at? place)

/-- The document with another node at a place. Where nothing is at the place, nothing changes. -/
def replaceAt (document : Document) : List Step → Document → Document
  | [], new => new
  | step :: place, new =>
    match document, step with
    | object entries, .key key => object (changeEntry entries key (·.replaceAt place new))
    | array items, .item index => array (items.modify index (·.replaceAt place new))
    | other, _ => other

end Document

namespace Pointer

/-! ## Writing pointers -/

/-- A pointer that leads one step further. -/
def step (path : String) : Step → String
  | .key name => key path name
  | .item i => index path i

/-- A pointer that leads further along a place. -/
def along (path : String) (place : List Step) : String :=
  place.foldl step path

/-- The pointer to a place. -/
def ofPlace (place : List Step) : String :=
  along "" place

/-- A step as it is written in a pointer. -/
def Step.text : Step → List Char
  | .key name => encodeKey name.toList
  | .item i => Nat.toDigits 10 i

theorem toList_step (path : String) (step : Step) :
    (Pointer.step path step).toList = path.toList ++ '/' :: step.text := by
  cases step <;> simp [Pointer.step, key, index, Step.text]

/-- A slash in a key is escaped. -/
theorem slash_not_mem_encodeKey (name : List Char) : '/' ∉ encodeKey name := by
  fun_induction encodeKey name with
  | case1 => simp
  | case2 rest ih => simpa using ih
  | case3 rest ih => simpa using ih
  | case4 c rest _ hslash ih => simpa [ih] using Ne.symm hslash

theorem Step.slash_not_mem_text (step : Step) : '/' ∉ step.text := by
  cases step with
  | key name => exact slash_not_mem_encodeKey name.toList
  | item i =>
    intro h
    have hdigit : Char.isDigit '/' = true := Nat.isDigit_of_mem_toDigits (by decide) (by decide) h
    revert hdigit
    decide

/-! ## Reading pointers -/

/-- Puts one character in the place of each pair of two given ones, from left to right. -/
def replacePairs (first second by' : Char) : List Char → List Char
  | a :: b :: rest =>
    if a = first ∧ b = second then by' :: replacePairs first second by' rest
    else a :: replacePairs first second by' (b :: rest)
  | short => short

/-- A key that is written in a pointer: `~1` is undone before `~0`. -/
def decodeKey (text : List Char) : List Char :=
  replacePairs '~' '0' '~' (replacePairs '~' '1' '/' text)

/-- The keys that a pointer leads along. A pointer is empty or starts with a slash. -/
def keys? (pointer : String) : Option (List String) :=
  match Path.split pointer.toList with
  | [] :: parts => some (parts.map fun part => String.ofList (decodeKey part))
  | _ => none

end Pointer

namespace Document

/-- The node that a key leads to, for the items of an array their indices, written without zeros in
front. -/
def child? : Document → String → Option Document
  | object entries, key => entries.lookup key
  | array items, key =>
    let index := Nat.ofDigitChars 10 key.toList 0
    if Nat.toDigits 10 index = key.toList then items[index]? else none
  | _, _ => none

/-- The node that a row of keys leads to. -/
def follow? (document : Document) : List String → Option Document
  | [] => some document
  | key :: rest => (document.child? key).bind (·.follow? rest)

/-- The node that a pointer leads to. -/
def find? (document : Document) (pointer : String) : Option Document :=
  (Pointer.keys? pointer).bind document.follow?

end Document

namespace Pointer

/-! ## Pointers that are written lead back -/

theorem replacePairs_cons_of_ne {first second by' c : Char} (h : c ≠ first) (rest : List Char) :
    replacePairs first second by' (c :: rest) = c :: replacePairs first second by' rest := by
  cases rest with
  | nil => simp [replacePairs]
  | cons next rest => simp [replacePairs, h]

/-- With the slashes written back, only the tildes of a key are escaped. -/
theorem replacePairs_encodeKey (name : List Char) :
    replacePairs '~' '1' '/' (encodeKey name) =
      name.flatMap fun c => if c = '~' then ['~', '0'] else [c] := by
  fun_induction encodeKey name with
  | case1 => rfl
  | case2 rest ih =>
    have hzero : replacePairs '~' '1' '/' ('0' :: encodeKey rest) =
        '0' :: replacePairs '~' '1' '/' (encodeKey rest) := replacePairs_cons_of_ne (by decide) _
    simp [replacePairs, hzero, ih]
  | case3 rest ih => simp [replacePairs, ih]
  | case4 c rest htilde _ ih =>
    have hplain : (if c = '~' then ['~', '0'] else [c]) = [c] := if_neg htilde
    simp [replacePairs_cons_of_ne htilde, hplain, ih]

/-- Undoing the escapes of a key in this order gives back the key, also where it holds what looks like an
escape itself. -/
theorem decodeKey_encodeKey (name : List Char) : decodeKey (encodeKey name) = name := by
  rw [decodeKey, replacePairs_encodeKey]
  induction name with
  | nil => rfl
  | cons c rest ih =>
    by_cases hc : c = '~'
    · simp [hc, replacePairs, ih]
    · simp [hc, replacePairs_cons_of_ne hc, ih]

theorem encodeKey_injective {name name' : List Char} (h : encodeKey name = encodeKey name') :
    name = name' := by
  rw [← decodeKey_encodeKey name, h, decodeKey_encodeKey]

/-- Digits are not escaped. -/
theorem decodeKey_toDigits (i : Nat) : decodeKey (Nat.toDigits 10 i) = Nat.toDigits 10 i := by
  have hplain : ∀ c ∈ Nat.toDigits 10 i, c ≠ '~' := by
    rintro c hc rfl
    have hdigit : Char.isDigit '~' = true := Nat.isDigit_of_mem_toDigits (by decide) (by decide) hc
    revert hdigit
    decide
  have hkept (second by' : Char) (text : List Char) (h : ∀ c ∈ text, c ≠ '~') :
      replacePairs '~' second by' text = text := by
    induction text with
    | nil => rfl
    | cons c rest ih =>
      rw [replacePairs_cons_of_ne (h c List.mem_cons_self),
        ih fun c hc => h c (List.mem_cons_of_mem _ hc)]
  rw [decodeKey, hkept _ _ _ hplain, hkept _ _ _ hplain]

/-- The parts of a pointer that leads further are those of the pointer, and one for each step. -/
theorem split_along (path : String) (place : List Step) :
    Path.split (along path place).toList = Path.split path.toList ++ place.map Step.text := by
  induction place generalizing path with
  | nil => simp [along]
  | cons first rest ih =>
    show Path.split (along (step path first) rest).toList = _
    rw [ih, toList_step, Path.split_append_slash, Path.split_of_not_mem first.slash_not_mem_text]
    simp

theorem keys?_ofPlace (place : List Step) :
    keys? (ofPlace place) = some (place.map fun step => String.ofList (decodeKey step.text)) := by
  have hsplit : Path.split (ofPlace place).toList = [] :: place.map Step.text := split_along "" place
  rw [keys?, hsplit]
  simp

end Pointer

namespace Document

open Pointer (Step)

/-- A step that is written in a pointer leads where it led before. -/
theorem child?_text {document node : Document} {step : Step} (h : document.next? step = some node) :
    document.child? (String.ofList (Pointer.decodeKey step.text)) = some node := by
  cases step with
  | key name =>
    cases document with
    | object entries =>
      rw [Step.text, Pointer.decodeKey_encodeKey, String.ofList_toList]
      exact h
    | _ => cases h
  | item i =>
    cases document with
    | array items =>
      have hitem : items[i]? = some node := h
      rw [Step.text, Pointer.decodeKey_toDigits, child?]
      simpa using hitem
    | _ => cases h

/-- **A pointer that is written for a place leads to the node there.** -/
theorem find?_ofPlace {document node : Document} {place : List Step}
    (h : document.at? place = some node) : document.find? (Pointer.ofPlace place) = some node := by
  rw [find?, Pointer.keys?_ofPlace]
  show document.follow? _ = some node
  induction place generalizing document with
  | nil => exact h
  | cons first rest ih =>
    obtain ⟨next, hnext, hrest⟩ := Option.bind_eq_some_iff.mp h
    rw [List.map_cons, follow?, child?_text hnext]
    exact ih hrest

end Document

namespace Pointer

/-! ## Below a place -/

/-- Whether a pointer leads to what another one leads to, or below it: its parts start with the parts of
the other. -/
def Within (outer path : String) : Prop :=
  Path.split outer.toList <+: Path.split path.toList

instance (outer path : String) : Decidable (Within outer path) :=
  inferInstanceAs (Decidable (_ <+: _))

theorem within_along (path : String) (place : List Step) : Within path (along path place) := by
  rw [Within, split_along]
  exact List.prefix_append _ _

/-- What is written for a step tells which step it is, among steps of one kind. -/
theorem key_of_text {name name' : String} (h : (Step.key name).text = (Step.key name').text) :
    name = name' :=
  String.toList_inj.mp (encodeKey_injective h)

theorem item_of_text {i j : Nat} (h : (Step.item i).text = (Step.item j).text) : i = j := by
  have hdigits : Nat.toDigits 10 i = Nat.toDigits 10 j := h
  have hread := congrArg (fun digits => Nat.ofDigitChars 10 digits 0) hdigits
  simpa using hread

/-- **Pointers below the same place agree in its steps.** A pointer that leads from some node to a place
is below a place of the same node only if its steps start like those of that place. -/
theorem texts_of_within {path : String} {place place' : List Step}
    (h : Within (along path place) (along path place')) :
    place.map Step.text <+: place'.map Step.text := by
  rw [Within, split_along, split_along] at h
  exact (List.prefix_append_right_inj _).mp h

end Pointer

end ScopeScanner
