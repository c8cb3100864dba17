import ScopeScanner.Proofs.Files.Listing
import ScopeScanner.Snapshot.Check

/-!
# Finding fixtures

Which fixtures there are depends on what is below the directory, and on nothing else:

* **`discover_exact`**: what is found is all that the system does not tell to be a directory and that has a
  text as its name that ends in the suffix. Each is found once, sorted by their names, and it makes no
  difference in which order the directories list their entries.
* `discover_exact_pipe`: so a pipe is found, a file is not whose name is no text, and a directory with too long
  a path is found in the place of the files in it.
-/

namespace ScopeScanner.Snapshot

open Listing (leaf directory precedes endsIn leadsTo)

/-- What is found in a file tree is what is found in the listing of its directory. -/
theorem discover_of_find {files node : FileTree} {path : String} (h : files.find path = .ok node)
    (suffix : String) :
    discover files path suffix =
      ((node.listing path).discover some suffix).map (·.map (Path.joinAll path)) := by
  have hbind : discover files path suffix =
      (files.find path >>= fun node => (node.listing path).discover some suffix) >>=
        fun rows => pure (rows.map (Path.joinAll path)) := rfl
  rw [hbind, bind_of_ok h]
  cases (node.listing path).discover some suffix <;> rfl

/-- **What is found is what is there.** Suppose that no directory lists a name twice. Then a search succeeds
if it starts at a directory and all directories below it can be read. What it finds is all that the system
does not tell to be a directory, at any depth, and that has a text as its name that ends in the suffix. Each
is found once, and they are in the order of their names. If directories list their entries in other orders,
the same comes out.

This is so for names of any type, of which some are texts. In a file tree the search finds what is below the
directory to which the path leads, by the paths that the names make with it, and again in any order of the
entries. -/
theorem discover_exact {ν : Type} [LinearOrder ν] (text? : ν → Option String) (suffix : String)
    {tree : Listing ν} (hdistinct : tree.Distinct) :
    ((∃ found, tree.discover text? suffix = .ok found) ↔
      (∃ entries fault?, tree = directory entries fault?) ∧ tree.Readable) ∧
    (∀ found, tree.discover text? suffix = .ok found →
      found.Nodup ∧ found.Pairwise (fun a b => precedes a b = true) ∧
      ∀ row, row ∈ found ↔ ∃ front name text kind, row = front ++ [name] ∧
        tree.descend? row = some (leaf kind) ∧ text? name = some text ∧ suffix.toList <:+ text.toList) ∧
    (∀ tree', Listing.Relisted tree tree' → ∀ found,
      tree'.discover text? suffix = .ok found ↔ tree.discover text? suffix = .ok found) ∧
    (∀ (files : FileTree) (path : String) (entries : List (String × FileTree)),
      files.find path = .ok (.directory entries) → ∃ rows,
        ((FileTree.directory entries).listing path).discover some suffix = .ok rows ∧
        discover files path suffix = .ok (rows.map (Path.joinAll path))) ∧
    ∀ (files files' : FileTree) (path : String), files.Distinct → FileTree.Relisted files files' →
      discover files' path suffix = discover files path suffix := by
  have hrelisted {ν : Type} [LinearOrder ν] (text? : ν → Option String) {tree tree' : Listing ν}
      (h : Listing.Relisted tree tree') (found : List (List ν)) :
      tree'.discover text? suffix = .ok found ↔ tree.discover text? suffix = .ok found := by
    have hdirectory : (∃ entries fault?, tree' = directory entries fault?) ↔
        ∃ entries fault?, tree = directory entries fault? := by
      cases h <;> simp
    rw [Listing.discover_eq_ok, Listing.discover_eq_ok, hdirectory, h.readable_iff,
      Listing.mergeSort_eq_of_perm (h.rows_perm.filter _)]
  refine ⟨?_, fun found hfound => ?_, fun tree' h => hrelisted text? h, ?_, ?_⟩
  · simp only [Listing.discover_eq_ok]
    constructor
    · rintro ⟨_, htree, hreadable, _⟩
      exact ⟨htree, hreadable⟩
    · rintro ⟨htree, hreadable⟩
      exact ⟨_, htree, hreadable, rfl⟩
  · obtain ⟨_, _, rfl⟩ := Listing.discover_eq_ok.mp hfound
    refine ⟨?_, Listing.pairwise_mergeSort _, fun row => ?_⟩
    · exact (List.mergeSort_perm _ _).nodup_iff.mpr ((Listing.nodup_rows tree hdistinct).filter _)
    · rw [List.mem_mergeSort, List.mem_filter, Listing.mem_rows hdistinct, Listing.leadsTo_iff]
      simp only [Listing.endsIn_eq_true]
      constructor
      · rintro ⟨⟨kind, hkind⟩, front, name, hrow, text, htext, hsuffix⟩
        exact ⟨front, name, text, kind, hrow, hkind, htext, hsuffix⟩
      · rintro ⟨front, name, text, kind, hrow, hkind, htext, hsuffix⟩
        exact ⟨⟨kind, hkind⟩, front, name, hrow, text, htext, hsuffix⟩
  · intro files path entries hfind
    have hfound := FileTree.discover_listing entries (FileTree.isTooLong_of_find hfind) suffix
    exact ⟨_, hfound, by rw [discover_of_find hfind, hfound]; rfl⟩
  · intro files files' path hfiles hsame
    rcases FileTree.find_relisted hsame hfiles path with
      ⟨node, node', hnode, hnode', hbelow⟩ | ⟨fault, hfault, hfault'⟩
    · rw [discover_of_find hnode, discover_of_find hnode']
      have hlisting := hbelow.listing path
      cases hbelow with
      | file content => rfl
      | @directory entries _ _ _ _ =>
        have hpath := FileTree.isTooLong_of_find hnode
        have hfound := FileTree.discover_listing entries hpath suffix
        rw [hfound, (hrelisted some hlisting _).mpr hfound]
    · rw [discover, discover, FileTree.discover, FileTree.discover, hfault, hfault']

/-! ## Two orders -/

/-- A fixture, and a pipe in a directory with the name of a fixture, beside others. -/
def nestedListing : Listing String :=
  .directory [("b.test", .leaf .file),
    ("nested", .directory [("x", .leaf .file), ("a.test", .leaf .special)] none),
    ("b.test.snap", .leaf .file)] none

/-- The same, listed from the last to the first. -/
def reversedListing : Listing String :=
  .directory [("b.test.snap", .leaf .file),
    ("nested", .directory [("a.test", .leaf .special), ("x", .leaf .file)] none),
    ("b.test", .leaf .file)] none

theorem reversed_relisted : Listing.Relisted nestedListing reversedListing :=
  .directory none
    (.cons _ (.leaf _) (.cons _ (.directory none (.cons _ (.leaf _) (.cons _ (.leaf _) .nil))
      (.swap _ _ _)) (.cons _ (.leaf _) .nil)))
    (List.reverse_perm _).symm

theorem discover_exact_nested :
    ∃ found, nestedListing.discover some ".test" = .ok found ∧ found.Nodup ∧
      ["b.test"] ∈ found ∧ ["nested", "a.test"] ∈ found ∧
      reversedListing.discover some ".test" = .ok found := by
  have hdistinct : nestedListing.Distinct := by
    simp [nestedListing, Listing.Distinct, Listing.DistinctIn]
  have hreadable : nestedListing.Readable := by
    simp [nestedListing, Listing.Readable, Listing.ReadableIn]
  obtain ⟨hsucceeds, hexact, hrelisted, _⟩ := discover_exact some ".test" hdistinct
  obtain ⟨found, hfound⟩ := hsucceeds.mpr ⟨⟨_, _, rfl⟩, hreadable⟩
  obtain ⟨hnodup, _, hmem⟩ := hexact found hfound
  refine ⟨found, hfound, hnodup, ?_, ?_, (hrelisted _ reversed_relisted found).mpr hfound⟩
  · exact (hmem _).mpr ⟨[], "b.test", _, .file, rfl, rfl, rfl, by decide⟩
  · exact (hmem _).mpr ⟨["nested"], "a.test", _, .special, rfl, rfl, rfl, by decide⟩

/-! ## What is no file, and what is not found -/

/-- A path that goes back and forth so many times before it leads to the directory `d`. -/
def windingPath : Nat → String
  | 0 => "d"
  | turns + 1 => "d/../" ++ windingPath turns

/-- A name with the suffix of fixtures behind many letters. -/
def longName : String :=
  String.ofList (List.replicate 200 'n') ++ ".test"

/-- A fixture in a directory that has such a name. -/
def windingFiles : FileTree :=
  .directory [("d", .directory [(longName, .directory [("x.test", .file (.text ""))])])]

theorem size_windingPath (turns : Nat) : (windingPath turns).utf8ByteSize = 5 * turns + 1 := by
  induction turns with
  | zero => rfl
  | succ turns ih =>
    rw [windingPath, String.utf8ByteSize_append, ih]
    show 5 + _ = _
    omega

theorem isAbsolute_windingPath (turns : Nat) : Path.isAbsolute (windingPath turns) = false := by
  cases turns with
  | zero => decide
  | succ turns => rw [windingPath, Path.isAbsolute_append (by decide)]; decide

theorem names_windingPath (turns : Nat) :
    Path.names (windingPath (turns + 1)) = "d" :: ".." :: Path.names (windingPath turns) := by
  have hsplit : Path.split (windingPath (turns + 1)).toList =
      ['d'] :: ['.', '.'] :: Path.split (windingPath turns).toList := by
    rw [windingPath, String.toList_append]
    exact (Path.split_append_slash ['d', '/', '.', '.'] (windingPath turns).toList).trans rfl
  rw [Path.names, Path.names, isAbsolute_windingPath, isAbsolute_windingPath, hsplit]
  rfl

/-- However often it goes back, the path leads to the directory. -/
theorem resolve_windingPath (turns : Nat) :
    windingFiles.resolve [] (Path.names (windingPath turns)) = .ok ["d"] := by
  induction turns with
  | zero => rfl
  | succ turns ih =>
    rw [names_windingPath]
    exact ih

theorem find_windingPath {turns : Nat} (h : turns ≤ 818) : windingFiles.find (windingPath turns) =
    .ok (.directory [(longName, .directory [("x.test", .file (.text ""))])]) := by
  have husable : Path.isUsable (windingPath turns) = true := by
    have hsize := size_windingPath turns
    have hnonempty : (windingPath turns).isEmpty = false := by
      rw [Bool.eq_false_iff]
      intro hempty
      rw [String.isEmpty_iff.mp hempty] at hsize
      cases hsize
    have hshort : Path.isTooLong (windingPath turns) = false := by
      rw [Path.isTooLong, hsize, Path.maxSize]
      exact decide_eq_false (by omega)
    rw [Path.isUsable, hnonempty, hshort]
    rfl
  refine FileTree.find_eq_ok.mpr ⟨husable, ⟨["d"], ?_, rfl⟩, Or.inl rfl⟩
  exact FileTree.place?_eq_some.mpr (resolve_windingPath turns)

/-- A path has at least as many bytes as the directory and the name that it is made of. -/
theorem size_join (path name : String) :
    path.utf8ByteSize + name.utf8ByteSize ≤ (Path.join path name).utf8ByteSize := by
  rw [Path.join]
  split
  · next hnone =>
    rw [String.toList_eq_nil_iff.mp (List.getLast?_eq_none_iff.mp hnone)]
    simp
  · rw [String.utf8ByteSize_append]
  · rw [String.utf8ByteSize_append, String.utf8ByteSize_append]
    omega

/-- From there the path of the directory with the long name is too long, so it is found itself. -/
theorem discover_windingPath {turns : Nat} (hlower : 778 ≤ turns) (hupper : turns ≤ 818) :
    discover windingFiles (windingPath turns) ".test" = .ok [Path.join (windingPath turns) longName] := by
  have hfind := find_windingPath hupper
  have hlong : Path.isTooLong (Path.join (windingPath turns) longName) = true := by
    have hsize := size_join (windingPath turns) longName
    have hname : longName.utf8ByteSize = 205 := by decide +kernel
    rw [size_windingPath, hname] at hsize
    rw [Path.isTooLong, Path.maxSize]
    exact decide_eq_true (by omega)
  have hends : FileTree.endsWith ".test" [longName] = true := by decide +kernel
  have hseen : FileTree.seenIn (windingPath turns) [(longName, .directory [("x.test", .file (.text ""))])] =
      [[longName]] := by
    rw [FileTree.seenIn_cons, FileTree.seen_of_isTooLong hlong, FileTree.seenIn_nil]
    rfl
  rw [discover_of_find hfind, FileTree.discover_listing _ (FileTree.isTooLong_of_find hfind), hseen,
    List.filter_cons_of_pos hends, List.filter_nil, List.mergeSort_singleton]
  rfl

/-- A pipe is found, and a file is not whose name is no text. Where paths are too long for the system to tell
what they lead to, a directory is found by its name, and the file in it is not. -/
theorem discover_exact_pipe :
    (Listing.directory [("p.test", .leaf .special)] none).discover some ".test" = .ok [["p.test"]] ∧
    (Listing.directory [([0xFF, 0x2E, 0x74, 0x65, 0x73, 0x74], .leaf .file)] none).discover Utf8.text?
      ".test" = .ok [] ∧
    windingFiles.find (windingPath 778) =
      .ok (.directory [(longName, .directory [("x.test", .file (.text ""))])]) ∧
    discover windingFiles (windingPath 778) ".test" = .ok [Path.join (windingPath 778) longName] := by
  refine ⟨?_, ?_, find_windingPath (by decide), discover_windingPath (by decide) (by decide)⟩
  · refine Listing.discover_eq_ok.mpr ⟨⟨_, _, rfl⟩, ?_, ?_⟩
    · simp [Listing.Readable, Listing.ReadableIn]
    · have hrows : (Listing.directory [("p.test", .leaf .special)] none).rows.filter
          (leadsTo (endsIn some ".test")) = [["p.test"]] := by
        decide +kernel
      rw [hrows, List.mergeSort_singleton]
  · have hname : Utf8.text? [0xFF, 0x2E, 0x74, 0x65, 0x73, 0x74] = none := by
      decide +kernel
    have hspec := Listing.discover_spec Utf8.text? ".test"
      [([0xFF, 0x2E, 0x74, 0x65, 0x73, 0x74], .leaf .file)] none
    split at hspec
    · next found hfound =>
      obtain ⟨_, rows, hrows, rfl⟩ := hspec
      have hnone : rows = [] := by
        simpa [leadsTo, endsIn, hname] using hrows
      rw [hfound, hnone, List.mergeSort_nil]
    · simp [Listing.Readable, Listing.ReadableIn] at hspec

end ScopeScanner.Snapshot
