import Mathlib.Data.String.Basic
import ScopeScanner.Proofs.Files.Searching

/-!
# What a search sees of file trees

Of a file tree a search sees the rows that lead to files, and to directories whose paths are too long for the
system to tell what they are:

* **`FileTree.mem_rows_of_mem_seen`**: a row that is seen leads to a file, unless its path is too long.
* **`FileTree.discover_listing`**: what is found are the rows that are seen and end in the suffix.
-/

namespace ScopeScanner.FileTree

/-! ## Rows to files -/

/-- The rows that lead to files. -/
def rows (tree : FileTree) : List (List String) :=
  tree.files.map (·.1)

/-- The rows that lead to files from a directory. -/
def rowsIn (entries : List (String × FileTree)) : List (List String) :=
  (filesIn entries).map (·.1)

@[simp] theorem rowsIn_nil : rowsIn [] = [] := by
  simp [rowsIn, filesIn]

@[simp] theorem rowsIn_cons (name : String) (node : FileTree) (rest : List (String × FileTree)) :
    rowsIn ((name, node) :: rest) = node.rows.map (name :: ·) ++ rowsIn rest := by
  simp [rowsIn, rows, filesIn, Function.comp_def]

@[simp] theorem rows_file (content : Content) : (file content).rows = [[]] := by
  simp [rows, files]

@[simp] theorem rows_directory (entries : List (String × FileTree)) :
    (directory entries).rows = rowsIn entries := by
  simp [rows, rowsIn, files]

/-- Whether the last name of a row ends in a suffix. -/
def endsWith (suffix : String) (row : List String) : Bool :=
  row.getLast?.any fun name => suffix.toList.isSuffixOf name.toList

theorem endsWith_eq_leadsTo (suffix : String) :
    endsWith suffix = Listing.leadsTo (Listing.endsIn some suffix) := rfl

theorem endsWith_append (suffix : String) (base below : List String) (h : below ≠ []) :
    endsWith suffix (base ++ below) = endsWith suffix below :=
  Listing.leadsTo_append _ base below h

/-! ## Rows that are seen -/

/-- The rows that are seen below a path. -/
def seen (path : String) (tree : FileTree) : List (List String) :=
  (tree.listing path).rows

/-- The rows that are seen below the path of a directory. -/
def seenIn (path : String) (entries : List (String × FileTree)) : List (List String) :=
  Listing.rowsIn (listingIn path entries)

@[simp] theorem seen_file (path : String) (content : Content) : (file content).seen path = [[]] := by
  rw [seen, listing, Listing.rows_leaf]

theorem seen_of_isTooLong {path : String} (h : Path.isTooLong path = true) (tree : FileTree) :
    tree.seen path = [[]] := by
  cases tree with
  | file content => exact seen_file path content
  | directory entries => rw [seen, listing, if_pos h, Listing.rows_leaf]

theorem seen_directory {path : String} (h : Path.isTooLong path = false)
    (entries : List (String × FileTree)) : (directory entries).seen path = seenIn path entries := by
  rw [seen, listing, if_neg (Bool.eq_false_iff.mp h), Listing.rows_directory, seenIn]

@[simp] theorem seenIn_nil (path : String) : seenIn path [] = [] := by
  rw [seenIn, listingIn, Listing.rowsIn_nil]

@[simp] theorem seenIn_cons (path name : String) (node : FileTree) (rest : List (String × FileTree)) :
    seenIn path ((name, node) :: rest) =
      (node.seen (Path.join path name)).map (name :: ·) ++ seenIn path rest := by
  rw [seenIn, listingIn, Listing.rowsIn_cons, seen, seenIn]

mutual

/-- **What is seen at a path that is not too long is a file.** -/
theorem mem_rows_of_mem_seen : ∀ (tree : FileTree) {path : String} {row : List String},
    row ∈ tree.seen path → Path.isTooLong (Path.joinAll path row) = false → row ∈ tree.rows
  | file content, path, row, hrow, _ => by
    rw [seen_file] at hrow
    rwa [rows_file]
  | directory entries, path, row, hrow, hshort => by
    cases hpath : Path.isTooLong path with
    | false =>
      rw [seen_directory hpath] at hrow
      rw [rows_directory]
      exact mem_rowsIn_of_mem_seenIn entries hrow hshort
    | true =>
      rw [seen_of_isTooLong hpath, List.mem_singleton] at hrow
      subst hrow
      exact absurd hpath (Bool.eq_false_iff.mp hshort)

theorem mem_rowsIn_of_mem_seenIn : ∀ (entries : List (String × FileTree)) {path : String}
    {row : List String}, row ∈ seenIn path entries → Path.isTooLong (Path.joinAll path row) = false →
    row ∈ rowsIn entries
  | [], path, row, hrow, _ => by
    rw [seenIn_nil] at hrow
    cases hrow
  | (name, node) :: rest, path, row, hrow, hshort => by
    rw [seenIn_cons, List.mem_append, List.mem_map] at hrow
    rw [rowsIn_cons, List.mem_append, List.mem_map]
    rcases hrow with ⟨below, hbelow, rfl⟩ | hrest
    · exact Or.inl ⟨below, mem_rows_of_mem_seen node hbelow hshort, rfl⟩
    · exact Or.inr (mem_rowsIn_of_mem_seenIn rest hrest hshort)

end

mutual

/-- The directories of a file tree can all be read. -/
theorem readable_listing : ∀ (tree : FileTree) (path : String), (tree.listing path).Readable
  | file _, path => by
    rw [listing, Listing.Readable]
    trivial
  | directory entries, path => by
    rw [listing]
    split
    · rw [Listing.Readable]
      trivial
    · rw [Listing.Readable]
      exact ⟨rfl, readableIn_listingIn entries path⟩

theorem readableIn_listingIn : ∀ (entries : List (String × FileTree)) (path : String),
    Listing.ReadableIn (listingIn path entries)
  | [], path => by
    rw [listingIn, Listing.ReadableIn]
    trivial
  | (name, node) :: rest, path => by
    rw [listingIn, Listing.ReadableIn]
    exact ⟨readable_listing node _, readableIn_listingIn rest path⟩

end

/-- **What is found are the rows that are seen and end in the suffix.** -/
theorem discover_listing (entries : List (String × FileTree)) {path : String}
    (hpath : Path.isTooLong path = false) (suffix : String) :
    ((directory entries).listing path).discover some suffix =
      .ok (((seenIn path entries).filter (endsWith suffix)).mergeSort Listing.precedes) := by
  refine Listing.discover_eq_ok.mpr ⟨⟨listingIn path entries, none, ?_⟩, readable_listing _ path, ?_⟩
  · rw [listing, if_neg (Bool.eq_false_iff.mp hpath)]
  · show (((directory entries).seen path).filter (endsWith suffix)).mergeSort _ = _
    rw [seen_directory hpath]

end ScopeScanner.FileTree
