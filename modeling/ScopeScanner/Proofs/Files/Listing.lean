import ScopeScanner.Proofs.Files.Trees

/-!
# Listing directories

A directory lists its entries in some order, which says nothing about what is there. Two listings are the
same apart from this order, at any depth, if they are `Listing.Relisted`, and two file trees if they are
`FileTree.Relisted`:

* **`Listing.mem_rows`**, **`Listing.nodup_rows`**: where no directory lists a name twice, the rows of a
  listing are those that lead to what is no directory, each once.
* **`Listing.Relisted.rows_perm`**, **`Listing.Relisted.readable_iff`**: in another order there are the same
  rows, and the same can be read.
* **`FileTree.find_relisted`**: a path leads to the same files in both of two trees, or to the same fault.
-/

namespace ScopeScanner

namespace Listing

/-! ## Directories that list no name twice -/

section Distinct

variable {ν : Type}

mutual

/-- Whether no directory lists a name twice. -/
def Distinct : Listing ν → Prop
  | leaf _ => True
  | directory entries _ => (entries.map (·.1)).Nodup ∧ DistinctIn entries

/-- Whether this is so for all directories below these entries. -/
def DistinctIn : List (ν × Listing ν) → Prop
  | [] => True
  | (_, node) :: rest => node.Distinct ∧ DistinctIn rest

end

variable {tree node : Listing ν} {entries : List (ν × Listing ν)} {row : List ν}

theorem distinctIn_iff : DistinctIn entries ↔ ∀ entry ∈ entries, entry.2.Distinct := by
  induction entries with
  | nil => simp [DistinctIn]
  | cons entry rest ih => simp [DistinctIn, ih]

theorem distinct_directory {fault? : Option FileFault} : (directory entries fault?).Distinct ↔
    (entries.map (·.1)).Nodup ∧ ∀ entry ∈ entries, entry.2.Distinct := by
  rw [Distinct, distinctIn_iff]

theorem cons_mem_rowsIn {name : ν} :
    name :: row ∈ rowsIn entries ↔ ∃ node, (name, node) ∈ entries ∧ row ∈ node.rows := by
  induction entries with
  | nil => simp
  | cons entry rest ih =>
    obtain ⟨key, value⟩ := entry
    rw [rowsIn_cons, List.mem_append, ih]
    constructor
    · rintro (hfirst | ⟨node, hnode, hrow⟩)
      · obtain ⟨below, hbelow, heq⟩ := List.mem_map.mp hfirst
        obtain ⟨rfl, rfl⟩ := List.cons.inj heq
        exact ⟨value, List.mem_cons_self, hbelow⟩
      · exact ⟨node, List.mem_cons_of_mem _ hnode, hrow⟩
    · rintro ⟨node, hnode, hrow⟩
      rcases List.mem_cons.mp hnode with heq | hnode
      · obtain ⟨rfl, rfl⟩ := Prod.mk.inj heq
        exact Or.inl (List.mem_map_of_mem hrow)
      · exact Or.inr ⟨node, hnode, hrow⟩

mutual

/-- **No row comes twice.** -/
theorem nodup_rows : ∀ (tree : Listing ν), tree.Distinct → tree.rows.Nodup
  | leaf kind, _ => by
    rw [rows_leaf]
    exact List.nodup_singleton _
  | directory entries fault?, h => by
    rw [rows_directory]
    rw [Distinct] at h
    exact nodup_rowsIn entries h.1 h.2

theorem nodup_rowsIn : ∀ (entries : List (ν × Listing ν)), (entries.map (·.1)).Nodup →
    DistinctIn entries → (rowsIn entries).Nodup
  | [], _, _ => by
    rw [rowsIn_nil]
    exact List.nodup_nil
  | (name, node) :: rest, hnames, hbelow => by
    rw [List.map_cons, List.nodup_cons] at hnames
    rw [DistinctIn] at hbelow
    rw [rowsIn_cons, List.nodup_append]
    refine ⟨(nodup_rows node hbelow.1).map (List.cons_injective (a := name)),
      nodup_rowsIn rest hnames.2 hbelow.2, fun first hfirst other hother heq => ?_⟩
    -- rows of different entries start with different names
    subst heq
    obtain ⟨below, _, rfl⟩ := List.mem_map.mp hfirst
    obtain ⟨same, hsame, _⟩ := cons_mem_rowsIn.mp hother
    exact hnames.1 (List.mem_map_of_mem (f := (·.1)) hsame)

end

variable [DecidableEq ν]

/-- What stands at the end of a row of names, if it leads anywhere. -/
def descend? : Listing ν → List ν → Option (Listing ν)
  | tree, [] => some tree
  | leaf _, _ :: _ => none
  | directory entries _, name :: rest => (entries.lookup name).bind (·.descend? rest)

/-- **The rows of a listing are those that lead to what is no directory.** -/
theorem mem_rows (h : tree.Distinct) :
    row ∈ tree.rows ↔ ∃ kind, tree.descend? row = some (leaf kind) := by
  induction row generalizing tree with
  | nil =>
    cases tree with
    | leaf kind =>
      rw [rows_leaf]
      exact ⟨fun _ => ⟨kind, rfl⟩, fun _ => List.mem_singleton_self []⟩
    | directory entries fault? =>
      rw [rows_directory]
      exact ⟨fun hnil => absurd rfl (ne_nil_of_mem_rowsIn hnil), nofun⟩
  | cons name rest ih =>
    cases tree with
    | leaf kind =>
      rw [rows_leaf]
      exact ⟨nofun, nofun⟩
    | directory entries fault? =>
      rw [distinct_directory] at h
      rw [rows_directory, cons_mem_rowsIn, descend?]
      constructor
      · rintro ⟨node, hnode, hrest⟩
        rw [lookup_of_mem h.1 hnode]
        exact (ih (h.2 _ hnode)).mp hrest
      · rintro ⟨kind, hkind⟩
        obtain ⟨node, hnode, hrest⟩ := Option.bind_eq_some_iff.mp hkind
        have hmem := (lookup_eq_some_iff_mem h.1).mp hnode
        exact ⟨node, hmem, (ih (h.2 _ hmem)).mpr ⟨kind, hrest⟩⟩

end Distinct

/-! ## Other orders -/

variable {ν : Type}

mutual

/-- The same listing, in which each directory may list its entries in another order. -/
inductive Relisted : Listing ν → Listing ν → Prop
  | leaf (kind : LeafKind) : Relisted (leaf kind) (leaf kind)
  | directory {entries middle entries' : List (ν × Listing ν)} (fault? : Option FileFault)
      (hbelow : RelistedIn entries middle) (horder : middle.Perm entries') :
      Relisted (directory entries fault?) (directory entries' fault?)

/-- The same entries in the same order, below which directories may list theirs in another one. -/
inductive RelistedIn : List (ν × Listing ν) → List (ν × Listing ν) → Prop
  | nil : RelistedIn [] []
  | cons {node node' : Listing ν} {rest rest' : List (ν × Listing ν)} (name : ν)
      (hnode : Relisted node node') (hrest : RelistedIn rest rest') :
      RelistedIn ((name, node) :: rest) ((name, node') :: rest')

end

theorem rowsIn_eq_flatMap (entries : List (ν × Listing ν)) :
    rowsIn entries = entries.flatMap fun entry => entry.2.rows.map (entry.1 :: ·) := by
  induction entries with
  | nil => simp
  | cons entry rest ih => rw [rowsIn_cons, ih, List.flatMap_cons]

theorem readableIn_iff {entries : List (ν × Listing ν)} :
    ReadableIn entries ↔ ∀ entry ∈ entries, entry.2.Readable := by
  induction entries with
  | nil => simp [ReadableIn]
  | cons entry rest ih => simp [ReadableIn, ih]

mutual

/-- **In another order there are the same rows.** -/
theorem Relisted.rows_perm : ∀ {tree tree' : Listing ν}, Relisted tree tree' →
    tree'.rows.Perm tree.rows
  | _, _, .leaf _ => .refl _
  | _, _, .directory _ hbelow horder => by
    rw [rows_directory, rows_directory]
    refine .trans ?_ hbelow.rows_perm
    rw [rowsIn_eq_flatMap, rowsIn_eq_flatMap]
    exact horder.symm.flatMap_right _

theorem RelistedIn.rows_perm : ∀ {entries entries' : List (ν × Listing ν)}, RelistedIn entries entries' →
    (rowsIn entries').Perm (rowsIn entries)
  | _, _, .nil => .refl _
  | _, _, .cons name hnode hrest => by
    rw [rowsIn_cons, rowsIn_cons]
    exact (hnode.rows_perm.map _).append hrest.rows_perm

end

mutual

/-- **In another order the same can be read.** -/
theorem Relisted.readable_iff : ∀ {tree tree' : Listing ν}, Relisted tree tree' →
    (tree'.Readable ↔ tree.Readable)
  | _, _, .leaf _ => Iff.rfl
  | .directory entries _, .directory entries' _, .directory fault? hbelow horder => by
    rw [Readable, Readable, ← hbelow.readable_iff, readableIn_iff, readableIn_iff]
    exact and_congr_right fun _ => forall_congr' fun entry => by rw [horder.mem_iff]

theorem RelistedIn.readable_iff : ∀ {entries entries' : List (ν × Listing ν)},
    RelistedIn entries entries' → (ReadableIn entries' ↔ ReadableIn entries)
  | _, _, .nil => Iff.rfl
  | _, _, .cons name hnode hrest => by
    rw [ReadableIn, ReadableIn, hnode.readable_iff, hrest.readable_iff]

end

end Listing

namespace FileTree

/-! ## Orders of file trees -/

mutual

/-- Whether no directory of a tree lists a name twice. -/
def Distinct : FileTree → Prop
  | file _ => True
  | directory entries => (entries.map (·.1)).Nodup ∧ DistinctIn entries

/-- Whether this is so for all directories below these entries. -/
def DistinctIn : List (String × FileTree) → Prop
  | [] => True
  | (_, node) :: rest => node.Distinct ∧ DistinctIn rest

end

mutual

/-- The same tree, in which each directory may list its entries in another order. -/
inductive Relisted : FileTree → FileTree → Prop
  | file (content : Content) : Relisted (file content) (file content)
  | directory {entries middle entries' : List (String × FileTree)} (hbelow : RelistedIn entries middle)
      (horder : middle.Perm entries') : Relisted (directory entries) (directory entries')

/-- The same entries in the same order, below which directories may list theirs in another one. -/
inductive RelistedIn : List (String × FileTree) → List (String × FileTree) → Prop
  | nil : RelistedIn [] []
  | cons {node node' : FileTree} {rest rest' : List (String × FileTree)} (name : String)
      (hnode : Relisted node node') (hrest : RelistedIn rest rest') :
      RelistedIn ((name, node) :: rest) ((name, node') :: rest')

end

theorem listingIn_eq_map (path : String) (entries : List (String × FileTree)) :
    listingIn path entries =
      entries.map fun entry => (entry.1, entry.2.listing (Path.join path entry.1)) := by
  induction entries with
  | nil => rw [listingIn, List.map_nil]
  | cons entry rest ih => rw [listingIn, ih, List.map_cons]

mutual

/-- What a search sees of the same tree is the same listing. -/
theorem Relisted.listing : ∀ {tree tree' : FileTree}, Relisted tree tree' → ∀ (path : String),
    Listing.Relisted (tree.listing path) (tree'.listing path)
  | _, _, .file content, path => by
    rw [FileTree.listing]
    exact .leaf _
  | _, _, .directory hbelow horder, path => by
    rw [FileTree.listing, FileTree.listing]
    split
    · exact .leaf _
    · refine .directory none (hbelow.listingIn path) ?_
      rw [listingIn_eq_map, listingIn_eq_map]
      exact horder.map _

theorem RelistedIn.listingIn : ∀ {entries entries' : List (String × FileTree)},
    RelistedIn entries entries' → ∀ (path : String),
      Listing.RelistedIn (listingIn path entries) (listingIn path entries')
  | _, _, .nil, path => by
    rw [FileTree.listingIn]
    exact .nil
  | _, _, .cons name hnode hrest, path => by
    rw [FileTree.listingIn, FileTree.listingIn]
    exact .cons name (hnode.listing _) (hrest.listingIn path)

end

theorem RelistedIn.names : ∀ {entries entries' : List (String × FileTree)},
    RelistedIn entries entries' → entries'.map (·.1) = entries.map (·.1)
  | _, _, .nil => rfl
  | _, _, .cons name _ hrest => congrArg (name :: ·) hrest.names

/-- Where each name is listed once, its place in the list says nothing. -/
theorem lookup_eq_of_perm {entries entries' : List (String × FileTree)}
    (hnames : (entries.map (·.1)).Nodup) (horder : entries.Perm entries') (name : String) :
    entries'.lookup name = entries.lookup name := by
  have hnames' : (entries'.map (·.1)).Nodup := (horder.map _).nodup_iff.mp hnames
  ext node
  rw [lookup_eq_some_iff_mem hnames', lookup_eq_some_iff_mem hnames, horder.mem_iff]

/-- Under a name there is the same tree, or nothing. -/
theorem RelistedIn.lookup {entries entries' : List (String × FileTree)} (h : RelistedIn entries entries')
    (hdistinct : DistinctIn entries) (name : String) :
    (∃ node node', entries.lookup name = some node ∧ entries'.lookup name = some node' ∧
      Relisted node node' ∧ node.Distinct) ∨
    (entries.lookup name = none ∧ entries'.lookup name = none) := by
  induction entries generalizing entries' with
  | nil =>
    cases h
    exact Or.inr ⟨rfl, rfl⟩
  | cons entry rest ih =>
    cases h with
    | @cons node node' _ rest' key hnode hrest =>
      rw [DistinctIn] at hdistinct
      rw [List.lookup_cons, List.lookup_cons]
      cases name == key with
      | true => exact Or.inl ⟨node, node', rfl, rfl, hnode, hdistinct.1⟩
      | false => exact ih hrest hdistinct.2

section Relisted

variable {tree tree' : FileTree} (h : Relisted tree tree') (hdistinct : tree.Distinct)
include h hdistinct

/-- Rows lead to the same trees, or to the same fault. -/
theorem descend_relisted (row : List String) :
    (∃ node node', tree.descend row = .ok node ∧ tree'.descend row = .ok node' ∧
      Relisted node node' ∧ node.Distinct) ∨
    (∃ fault, tree.descend row = .error fault ∧ tree'.descend row = .error fault) := by
  induction row generalizing tree tree' with
  | nil => exact Or.inl ⟨tree, tree', rfl, rfl, h, hdistinct⟩
  | cons name rest ih =>
    cases h with
    | file content => exact Or.inr ⟨.notADirectory, rfl, rfl⟩
    | @directory entries middle entries' hbelow horder =>
      rw [Distinct] at hdistinct
      rw [descend_directory, descend_directory, lookup_eq_of_perm (hbelow.names ▸ hdistinct.1) horder]
      rcases hbelow.lookup hdistinct.2 name with
        ⟨node, node', hnode, hnode', hsame, hinner⟩ | ⟨hnode, hnode'⟩
      · rw [hnode, hnode']
        exact ih hsame hinner
      · rw [hnode, hnode']
        exact Or.inr ⟨.notFound, rfl, rfl⟩

omit h hdistinct in
/-- What a directory holds under a name is what the row of this name leads to. -/
theorem child_eq_descend (tree : FileTree) (name : String) : tree.child name = tree.descend [name] := by
  rw [descend]
  cases tree.child name <;> rfl

theorem resolve_relisted (done row : List String) : tree'.resolve done row = tree.resolve done row := by
  induction row generalizing done with
  | nil => rfl
  | cons name rest ih =>
    rw [resolve, resolve]
    rcases descend_relisted h hdistinct done.reverse with
      ⟨node, node', hnode, hnode', hsame, hinner⟩ | ⟨fault, hfault, hfault'⟩
    · rw [bind_of_ok hnode, bind_of_ok hnode']
      have hchild : (node'.child name >>= fun _ => tree'.resolve (name :: done) rest) =
          (node.child name >>= fun _ => tree.resolve (name :: done) rest) := by
        rw [child_eq_descend, child_eq_descend, ih]
        rcases descend_relisted hsame hinner [name] with
          ⟨_, _, hthere, hthere', _⟩ | ⟨fault, hthere, hthere'⟩
        · rw [bind_of_ok hthere, bind_of_ok hthere']
        · rw [hthere, hthere']
      cases hsame with
      | file content => rfl
      | directory hbelow horder =>
        cases if name = ".." then above? done else none with
        | some above => exact ih above
        | none => exact hchild
    · rw [hfault, hfault']
      rfl

/-- **A path leads to the same trees, or to the same fault.** -/
theorem find_relisted (path : String) :
    (∃ node node', tree.find path = .ok node ∧ tree'.find path = .ok node' ∧ Relisted node node') ∨
    (∃ fault, tree.find path = .error fault ∧ tree'.find path = .error fault) := by
  rw [find, find, resolve_relisted h hdistinct]
  cases Path.isUsable path with
  | false => exact Or.inr ⟨.notFound, rfl, rfl⟩
  | true =>
    cases tree.resolve [] (Path.names path) with
    | error fault => exact Or.inr ⟨fault, rfl, rfl⟩
    | ok done =>
      show (∃ node node', (tree.descend done.reverse >>= _) = _ ∧ (tree'.descend done.reverse >>= _) = _ ∧ _) ∨
        ∃ fault, (tree.descend done.reverse >>= _) = _ ∧ (tree'.descend done.reverse >>= _) = _
      rcases descend_relisted h hdistinct done.reverse with
        ⟨node, node', hnode, hnode', hsame, _⟩ | ⟨fault, hfault, hfault'⟩
      · rw [bind_of_ok hnode, bind_of_ok hnode']
        cases hsame with
        | directory hbelow horder => exact Or.inl ⟨_, _, rfl, rfl, .directory hbelow horder⟩
        | file content =>
          cases Path.namesDirectory path with
          | true => exact Or.inr ⟨.notADirectory, rfl, rfl⟩
          | false => exact Or.inl ⟨_, _, rfl, rfl, .file content⟩
      · exact Or.inr ⟨fault, by rw [hfault]; rfl, by rw [hfault']; rfl⟩

end Relisted

end FileTree

end ScopeScanner
