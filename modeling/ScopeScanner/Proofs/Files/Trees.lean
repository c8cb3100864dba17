import ScopeScanner.Proofs.Document.Distinct
import ScopeScanner.Proofs.Files.Paths
import ScopeScanner.Proofs.Files.Seen

/-!
# Writing to file trees

What a file tree is can be told by what stands at the end of each row of names (`FileTree.entryAt?`). A file
that is written where a file may be (`FileTree.Writable`) changes this in one place:

* **`FileTree.entryAt?_put`**: behind the write there is the file at its row, and at every other row what was
  there before.
* **`FileTree.seen_put`**: whichever rows are looked for, the same are seen, unless the row of the write
  is among them.

Paths lead to the same rows as before (`FileTree.Extends.place?`), because nothing stops being there and no
file becomes a directory or the other way round.
-/

namespace ScopeScanner

namespace FileTree

/-! ## What stands at the end of a row -/

/-- What stands at the end of a row of names, without what is in it. -/
inductive Entry where
  | file (content : Content)
  | directory
deriving DecidableEq, Repr

/-- What a tree is. -/
def kind : FileTree → Entry
  | file content => .file content
  | directory _ => .directory

/-- What stands at the end of a row of names, if it leads anywhere. -/
def entryAt? (tree : FileTree) (row : List String) : Option Entry :=
  match tree.descend row with
  | .ok node => some node.kind
  | .error _ => none

section Entry

variable {tree : FileTree} {entries : List (String × FileTree)} {name : String} {row : List String}

theorem descend_directory (entries : List (String × FileTree)) (name : String) (rest : List String) :
    (directory entries).descend (name :: rest) =
      (entries.lookup name).elim (.error .notFound) (·.descend rest) := by
  rw [descend, child]
  cases entries.lookup name <;> rfl

@[simp] theorem entryAt?_nil (tree : FileTree) : tree.entryAt? [] = some tree.kind := rfl

@[simp] theorem entryAt?_file (content : Content) (name : String) (rest : List String) :
    (file content).entryAt? (name :: rest) = none := rfl

@[simp] theorem entryAt?_directory (entries : List (String × FileTree)) (name : String)
    (rest : List String) :
    (directory entries).entryAt? (name :: rest) = (entries.lookup name).bind (·.entryAt? rest) := by
  rw [entryAt?, descend_directory]
  cases entries.lookup name <;> rfl

theorem entryAt?_eq_some {entry : Entry} (h : tree.entryAt? row = some entry) :
    ∃ node, tree.descend row = .ok node ∧ node.kind = entry := by
  rw [entryAt?] at h
  split at h
  · next node hnode => exact ⟨node, hnode, Option.some.inj h⟩
  · cases h

theorem entryAt?_eq_file {content : Content} : tree.entryAt? row = some (.file content) ↔
    tree.descend row = .ok (file content) := by
  constructor
  · intro h
    obtain ⟨node, hnode, hkind⟩ := entryAt?_eq_some h
    cases node with
    | file found =>
      obtain rfl := Entry.file.inj hkind
      exact hnode
    | directory entries => cases hkind
  · intro h
    rw [entryAt?, h]
    rfl

/-- A row that goes on below another one. -/
theorem entryAt?_append (row below : List String) : tree.entryAt? (row ++ below) =
    match tree.descend row with
    | .ok node => node.entryAt? below
    | .error _ => none := by
  induction row generalizing tree with
  | nil => rfl
  | cons name rest ih =>
    cases tree with
    | file content => rfl
    | directory entries =>
      rw [List.cons_append, entryAt?_directory, descend_directory]
      cases entries.lookup name with
      | none => rfl
      | some node => exact ih

end Entry

/-! ## Where files may be written -/

/-- A row at whose end a file may be written: its directory is there, and no directory has its name. -/
inductive Writable : FileTree → List String → Prop where
  | here {entries : List (String × FileTree)} {name : String}
      (hname : ∀ inside, entries.lookup name ≠ some (directory inside)) :
      Writable (directory entries) [name]
  | further {entries : List (String × FileTree)} {name : String} {node : FileTree} {rest : List String}
      (hname : entries.lookup name = some node) (hrest : Writable node rest) :
      Writable (directory entries) (name :: rest)

section ReplaceEntry

variable (name : String) (node : FileTree) (entries : List (String × FileTree))

@[simp] theorem lookup_replaceEntry : (replaceEntry name node entries).lookup name = some node := by
  induction entries with
  | nil => simp [replaceEntry]
  | cons entry rest ih =>
    obtain ⟨key, value⟩ := entry
    rw [replaceEntry]
    by_cases hkey : key = name
    · simp [hkey]
    · simp [hkey, List.lookup_cons, beq_false_of_ne (Ne.symm hkey), ih]

theorem lookup_replaceEntry_of_ne {other : String} (h : other ≠ name) :
    (replaceEntry name node entries).lookup other = entries.lookup other := by
  induction entries with
  | nil => simp [replaceEntry, List.lookup_cons, beq_false_of_ne h]
  | cons entry rest ih =>
    obtain ⟨key, value⟩ := entry
    rw [replaceEntry]
    by_cases hkey : key = name
    · simp [hkey, List.lookup_cons, beq_false_of_ne h]
    · simp [hkey, List.lookup_cons, ih]

end ReplaceEntry

section Put

variable {tree : FileTree} {row : List String} (content : Content)

/-- **A write changes what stands at its row, and nothing else.** By induction on the row. -/
theorem entryAt?_put (h : Writable tree row) (other : List String) :
    (tree.put content row).entryAt? other =
      if other = row then some (.file content) else tree.entryAt? other := by
  induction h generalizing other with
  | @here entries name hname =>
    rw [put]
    cases other with
    | nil => rfl
    | cons first rest =>
      by_cases hfirst : first = name
      · subst hfirst
        rw [entryAt?_directory, lookup_replaceEntry]
        cases rest with
        | nil => simp [put, kind]
        | cons next rest =>
          -- what is under the name cannot lead further, neither now nor before
          have hbefore : (entries.lookup first).bind (·.entryAt? (next :: rest)) = none := by
            cases hfound : entries.lookup first with
            | none => rfl
            | some node =>
              cases node with
              | file found => rfl
              | directory inside => exact absurd hfound (hname inside)
          simp [put, hbefore]
      · rw [entryAt?_directory, lookup_replaceEntry_of_ne _ _ _ hfirst, ← entryAt?_directory]
        simp [hfirst]
  | @further entries name node rest hname hrest ih =>
    rw [put]
    cases other with
    | nil => rfl
    | cons first others =>
      by_cases hfirst : first = name
      · subst hfirst
        rw [entryAt?_directory, lookup_replaceEntry, hname]
        simp [hname, ih]
      · rw [entryAt?_directory, lookup_replaceEntry_of_ne _ _ _ hfirst, ← entryAt?_directory]
        simp [hfirst]

end Put

/-! ## Files that are found -/

/-- The rows that are kept of a directory with another entry are the same if those of the entry are. -/
theorem seenIn_replaceEntry (keep : List String → Bool) (path name : String) (node : FileTree)
    (entries : List (String × FileTree))
    (h : (node.seen (Path.join path name)).filter (keep ∘ (name :: ·)) =
      ((entries.lookup name).elim [] (seen (Path.join path name))).filter (keep ∘ (name :: ·))) :
    (seenIn path (replaceEntry name node entries)).filter keep = (seenIn path entries).filter keep := by
  induction entries with
  | nil =>
    rw [replaceEntry, seenIn_cons, seenIn_nil, List.append_nil, List.filter_map, h]
    rfl
  | cons entry rest ih =>
    obtain ⟨key, value⟩ := entry
    rw [replaceEntry]
    by_cases hkey : key = name
    · subst hkey
      simp only [List.lookup_cons_self, Option.elim_some] at h
      simp [List.filter_map, h]
    · rw [List.lookup_cons, beq_false_of_ne (Ne.symm hkey)] at h
      simp [hkey, ih h]

/-- **Whatever rows are looked for, a write elsewhere changes nothing about them.** -/
theorem seen_put {tree : FileTree} {row : List String} (h : Writable tree row) (content : Content)
    (path : String) {keep : List String → Bool} (hkeep : keep row = false) :
    ((tree.put content row).seen path).filter keep = (tree.seen path).filter keep := by
  cases hpath : Path.isTooLong path with
  | true => rw [seen_of_isTooLong hpath, seen_of_isTooLong hpath]
  | false =>
    induction h generalizing path keep with
    | @here entries name hname =>
      rw [put, seen_directory hpath, seen_directory hpath]
      refine seenIn_replaceEntry keep path name _ entries ?_
      have hnone : [[]].filter (keep ∘ (name :: ·)) = [] := by simp [hkeep]
      rw [put, seen_file, hnone]
      cases hfound : entries.lookup name with
      | none => rfl
      | some node =>
        cases node with
        | file found => rw [Option.elim_some, seen_file, hnone]
        | directory inside => exact absurd hfound (hname inside)
    | @further entries name node rest hname hrest ih =>
      rw [put, seen_directory hpath, seen_directory hpath]
      refine seenIn_replaceEntry keep path name _ entries ?_
      rw [hname, Option.getD_some, Option.elim_some]
      cases hbelow : Path.isTooLong (Path.join path name) with
      | true => rw [seen_of_isTooLong hbelow, seen_of_isTooLong hbelow]
      | false => exact ih _ hkeep hbelow

/-- A directory is still there behind a write, and the rows that are looked for below it are the same. -/
theorem descend_put {tree : FileTree} {row : List String} (h : Writable tree row) (content : Content)
    {base : List String} {entries : List (String × FileTree)}
    (hbase : tree.descend base = .ok (directory entries)) {keep : List String → Bool}
    (hkeep : ∀ below, row = base ++ below → keep below = false) :
    ∃ entries', (tree.put content row).descend base = .ok (directory entries') ∧
      ∀ path, ((directory entries').seen path).filter keep = ((directory entries).seen path).filter keep := by
  induction base generalizing tree row with
  | nil =>
    obtain rfl : tree = directory entries := Except.ok.inj hbase
    obtain ⟨entries', hput⟩ : ∃ entries', (directory entries).put content row = directory entries' := by
      cases h with
      | here hname => exact ⟨_, rfl⟩
      | further hname hrest => exact ⟨_, rfl⟩
    have hseen := fun path => seen_put h content path (hkeep row rfl)
    rw [hput] at hseen
    exact ⟨entries', by rw [hput]; rfl, hseen⟩
  | cons first base ih =>
    cases h with
    | @here inside name hname =>
      rw [descend_directory] at hbase
      by_cases hfirst : first = name
      · -- under the name there is no directory, so the base does not lead there
        subst hfirst
        cases hnode : inside.lookup first with
        | none =>
          rw [hnode] at hbase
          cases hbase
        | some node =>
          rw [hnode] at hbase
          cases node with
          | directory below => exact absurd hnode (hname below)
          | file found => cases base <;> cases hbase
      · refine ⟨entries, ?_, fun _ => rfl⟩
        rw [put, descend_directory, lookup_replaceEntry_of_ne _ _ _ hfirst]
        exact hbase
    | @further inside name node rest hname hrest =>
      rw [descend_directory] at hbase
      by_cases hfirst : first = name
      · subst hfirst
        rw [hname] at hbase
        obtain ⟨entries', hentries', hseen⟩ :=
          ih hrest hbase fun below hbelow => hkeep below (by rw [hbelow, List.cons_append])
        refine ⟨entries', ?_, hseen⟩
        rw [put, descend_directory, lookup_replaceEntry, hname]
        exact hentries'
      · refine ⟨entries, ?_, fun _ => rfl⟩
        rw [put, descend_directory, lookup_replaceEntry_of_ne _ _ _ hfirst]
        exact hbase

/-! ## Paths -/

/-- A tree has everything that another one has, files where it has files and directories where it has
directories. -/
def Extends (tree' tree : FileTree) : Prop :=
  ∀ row entry, tree.entryAt? row = some entry →
    ∃ entry', tree'.entryAt? row = some entry' ∧ (entry' = .directory ↔ entry = .directory)

theorem Extends.put {tree : FileTree} {row : List String} (h : Writable tree row) (content : Content)
    (hrow : tree.entryAt? row ≠ some .directory) : (tree.put content row).Extends tree := by
  intro other entry hentry
  rw [entryAt?_put content h]
  by_cases hother : other = row
  · rw [if_pos hother]
    refine ⟨_, rfl, ?_⟩
    subst hother
    constructor
    · intro heq
      cases heq
    · rintro rfl
      exact absurd hentry hrow
  · rw [if_neg hother]
    exact ⟨entry, hentry, Iff.rfl⟩

/-- Following one more name succeeds from a directory, where two dots lead back up and any other name
leads to what is there. -/
theorem resolve_cons {tree : FileTree} {done : List String} {name : String} {rest result : List String} :
    tree.resolve done (name :: rest) = .ok result ↔ tree.entryAt? done.reverse = some .directory ∧
      match (if name = ".." then above? done else none) with
      | some above => tree.resolve above rest = .ok result
      | none => (tree.entryAt? (done.reverse ++ [name])).isSome ∧
          tree.resolve (name :: done) rest = .ok result := by
  rw [resolve]
  cases hhere : tree.descend done.reverse with
  | error fault =>
    have hnone : tree.entryAt? done.reverse = none := by rw [entryAt?, hhere]
    rw [hnone]
    exact iff_of_false (fun h => by cases h) (fun h => by cases h.1)
  | ok here =>
    have hsome : tree.entryAt? done.reverse = some here.kind := by rw [entryAt?, hhere]
    rw [hsome, entryAt?_append, hhere]
    cases here with
    | file content => exact iff_of_false (fun h => by cases h) (fun h => by cases h.1)
    | directory entries =>
      cases if name = ".." then above? done else none with
      | some above => exact ⟨fun h => ⟨rfl, h⟩, fun h => h.2⟩
      | none =>
        dsimp only
        rw [entryAt?_directory]
        show ((directory entries).child name >>= fun _ => tree.resolve (name :: done) rest) = _ ↔ _
        rw [child]
        cases entries.lookup name with
        | none => exact iff_of_false (fun h => by cases h) (fun h => by cases h.2.1)
        | some node => exact ⟨fun h => ⟨rfl, rfl, h⟩, fun h => h.2.2⟩

theorem resolve_append {tree : FileTree} {done front back result : List String} :
    tree.resolve done (front ++ back) = .ok result ↔
      ∃ middle, tree.resolve done front = .ok middle ∧ tree.resolve middle back = .ok result := by
  induction front generalizing done with
  | nil =>
    constructor
    · exact fun h => ⟨done, rfl, h⟩
    · rintro ⟨middle, hmiddle, h⟩
      obtain rfl := Except.ok.inj hmiddle
      exact h
  | cons name rest ih =>
    simp only [List.cons_append, resolve_cons]
    cases if name = ".." then above? done else none with
    | some above =>
      dsimp only
      rw [ih]
      exact ⟨fun ⟨hhere, middle, hfront, hback⟩ => ⟨middle, ⟨hhere, hfront⟩, hback⟩,
        fun ⟨middle, ⟨hhere, hfront⟩, hback⟩ => ⟨hhere, middle, hfront, hback⟩⟩
    | none =>
      dsimp only
      rw [ih]
      exact ⟨fun ⟨hhere, hthere, middle, hfront, hback⟩ => ⟨middle, ⟨hhere, hthere, hfront⟩, hback⟩,
        fun ⟨middle, ⟨hhere, hthere, hfront⟩, hback⟩ => ⟨hhere, hthere, middle, hfront, hback⟩⟩

/-- Names of files lead straight down. -/
theorem eq_of_resolve_names {tree : FileTree} {done row result : List String}
    (hrow : ∀ name ∈ row, Path.IsName name) (h : tree.resolve done row = .ok result) :
    result = row.reverse ++ done := by
  induction row generalizing done with
  | nil => exact (Except.ok.inj h).symm
  | cons name rest ih =>
    rw [resolve_cons, if_neg (hrow name List.mem_cons_self).dots] at h
    rw [ih (fun other hother => hrow other (List.mem_cons_of_mem _ hother)) h.2.2]
    simp

/-- Where everything is there that was, rows of names lead where they led. -/
theorem Extends.resolve {tree tree' : FileTree} (hextends : tree'.Extends tree)
    {done names result : List String} (h : tree.resolve done names = .ok result) :
    tree'.resolve done names = .ok result := by
  induction names generalizing done with
  | nil => exact h
  | cons name rest ih =>
    rw [resolve_cons] at h ⊢
    obtain ⟨hhere, hrest⟩ := h
    -- the names are followed from directories, and these are directories still
    refine ⟨?_, ?_⟩
    · obtain ⟨entry', hentry', hkind⟩ := hextends _ _ hhere
      rw [hentry', hkind.mpr rfl]
    · cases hup : (if name = ".." then above? done else none) with
      | some above =>
        rw [hup] at hrest
        exact ih hrest
      | none =>
        rw [hup] at hrest
        obtain ⟨entry, hentry⟩ := Option.isSome_iff_exists.mp hrest.1
        obtain ⟨entry', hentry', _⟩ := hextends _ _ hentry
        exact ⟨by rw [hentry']; rfl, ih hrest.2⟩

/-- The row of names to what a path leads to. -/
def place? (tree : FileTree) (path : String) : Option (List String) :=
  match tree.resolve [] (Path.names path) with
  | .ok done => some done.reverse
  | .error _ => none

section Place

variable {tree tree' : FileTree} {path : String} {row : List String}

theorem place?_eq_some :
    tree.place? path = some row ↔ tree.resolve [] (Path.names path) = .ok row.reverse := by
  rw [place?]
  cases tree.resolve [] (Path.names path) with
  | error fault => exact ⟨nofun, nofun⟩
  | ok done =>
    simp only [Option.some.injEq, Except.ok.injEq]
    constructor
    · rintro rfl
      rw [List.reverse_reverse]
    · rintro rfl
      rw [List.reverse_reverse]

theorem Extends.place? (hextends : tree'.Extends tree) (h : tree.place? path = some row) :
    tree'.place? path = some row :=
  place?_eq_some.mpr (hextends.resolve (place?_eq_some.mp h))

/-- What a path leads to is found unless the path is empty or too long, and only a directory if it names
one. -/
theorem find_eq_ok {node : FileTree} : tree.find path = .ok node ↔
    Path.isUsable path = true ∧ (∃ row, tree.place? path = some row ∧ tree.descend row = .ok node) ∧
      (node.kind = .directory ∨ Path.namesDirectory path = false) := by
  rw [find]
  cases Path.isUsable path with
  | false => exact iff_of_false (fun h => by cases h) (fun h => by cases h.1)
  | true =>
    simp only [place?]
    cases tree.resolve [] (Path.names path) with
    | error fault => exact iff_of_false (fun h => by cases h) (fun h => by obtain ⟨_, ⟨_, hplace, _⟩, _⟩ := h; cases hplace)
    | ok done =>
      simp only [Option.some.injEq, exists_eq_left']
      cases hfound : tree.descend done.reverse with
      | error fault =>
        show (tree.descend done.reverse >>= _) = _ ↔ _
        rw [hfound]
        exact iff_of_false (fun h => by cases h) (fun h => by cases h.2.1)
      | ok found =>
        show (tree.descend done.reverse >>= _) = _ ↔ _
        rw [hfound]
        cases found with
        | directory entries =>
          constructor
          · intro h
            exact ⟨trivial, h, Or.inl (by cases h; rfl)⟩
          · exact fun h => h.2.1
        | file content =>
          cases Path.namesDirectory path with
          | true =>
            constructor
            · intro h
              cases h
            · rintro ⟨_, hnode, hkind⟩
              obtain rfl := Except.ok.inj hnode
              rcases hkind with hkind | hkind <;> cases hkind
          | false => exact ⟨fun h => ⟨trivial, h, Or.inr rfl⟩, fun h => h.2.1⟩

/-- A path that leads somewhere is not too long. -/
theorem isTooLong_of_find {node : FileTree} (h : tree.find path = .ok node) :
    Path.isTooLong path = false :=
  Path.isTooLong_of_isUsable (find_eq_ok.mp h).1

/-- What is found below a directory are the rows that are seen there and end in the suffix. -/
theorem discover_eq_ok {suffix : String} {found : List (List String)} :
    tree.discover path suffix = .ok found ↔ ∃ entries, tree.find path = .ok (directory entries) ∧
      (((directory entries).seen path).filter (endsWith suffix)).mergeSort Listing.precedes = found := by
  have hbind : tree.discover path suffix =
      tree.find path >>= fun node => (node.listing path).discover some suffix := rfl
  rw [hbind]
  cases hfind : tree.find path with
  | error fault => exact ⟨nofun, fun ⟨_, h, _⟩ => nomatch h⟩
  | ok node =>
    cases node with
    | file content => exact ⟨nofun, fun ⟨_, h, _⟩ => nomatch h⟩
    | directory entries =>
      have hpath := isTooLong_of_find hfind
      rw [bind_of_ok rfl, discover_listing _ hpath, ← seen_directory hpath]
      constructor
      · exact fun h => ⟨entries, rfl, Except.ok.inj h⟩
      · rintro ⟨_, hsame, h⟩
        obtain rfl := FileTree.directory.inj (Except.ok.inj hsame)
        exact congrArg Except.ok h

/-- A text is read if the path leads to a file that holds it. -/
theorem readText_eq_ok {text : String} : tree.readText path = .ok text ↔
    Path.isUsable path = true ∧ Path.namesDirectory path = false ∧ ∃ row, tree.place? path = some row ∧
      tree.entryAt? row = some (.file (.text text)) := by
  have hread : tree.readText path = .ok text ↔ tree.find path = .ok (file (.text text)) := by
    rw [readText]
    cases tree.find path with
    | error fault => exact ⟨nofun, nofun⟩
    | ok node =>
      cases node with
      | directory entries => exact ⟨nofun, nofun⟩
      | file content =>
        cases content with
        | binary bytes => exact ⟨nofun, nofun⟩
        | text value =>
          constructor
          · intro h
            rw [Except.ok.inj h]
          · intro h
            cases h
            rfl
  rw [hread, find_eq_ok]
  simp only [entryAt?_eq_file]
  exact ⟨fun ⟨hpath, hrow, hkind⟩ => ⟨hpath, hkind.resolve_left nofun, hrow⟩,
    fun ⟨hpath, hfile, hrow⟩ => ⟨hpath, hrow, Or.inr hfile⟩⟩

end Place

/-! ## Writes that are not looked for -/

/-- A tree has all that another one has, and the same is seen of it that ends in a suffix. -/
structure SameFound (suffix : String) (tree' tree : FileTree) : Prop where
  extended : tree'.Extends tree
  same : ∀ row, endsWith suffix row = true → tree'.entryAt? row = tree.entryAt? row
  found : ∀ base entries, tree.descend base = .ok (directory entries) →
    ∃ entries', tree'.descend base = .ok (directory entries') ∧
      ∀ path, ((directory entries').seen path).filter (endsWith suffix) =
        ((directory entries).seen path).filter (endsWith suffix)

namespace SameFound

variable {suffix : String} {tree tree' tree'' : FileTree}

theorem refl (suffix : String) (tree : FileTree) : SameFound suffix tree tree where
  extended := fun _ entry hentry => ⟨entry, hentry, Iff.rfl⟩
  same := fun _ _ => rfl
  found := fun _ entries hbase => ⟨entries, hbase, fun _ => rfl⟩

theorem trans (h' : SameFound suffix tree'' tree') (h : SameFound suffix tree' tree) :
    SameFound suffix tree'' tree where
  extended := by
    intro row entry hentry
    obtain ⟨entry', hentry', hkind⟩ := h.extended row entry hentry
    obtain ⟨entry'', hentry'', hkind'⟩ := h'.extended row entry' hentry'
    exact ⟨entry'', hentry'', hkind'.trans hkind⟩
  same := fun row hrow => (h'.same row hrow).trans (h.same row hrow)
  found := by
    intro base entries hbase
    obtain ⟨entries', hbase', hseen⟩ := h.found base entries hbase
    obtain ⟨entries'', hbase'', hseen'⟩ := h'.found base entries' hbase'
    exact ⟨entries'', hbase'', fun path => (hseen' path).trans (hseen path)⟩

/-- A write to a file that is not looked for. -/
theorem put {row : List String} (h : Writable tree row) (hrow : tree.entryAt? row ≠ some .directory)
    (hends : endsWith suffix row = false) (content : Content) :
    SameFound suffix (tree.put content row) tree where
  extended := Extends.put h content hrow
  same := by
    intro other hother
    have hne : other ≠ row := by
      rintro rfl
      rw [hends] at hother
      cases hother
    rw [entryAt?_put content h, if_neg hne]
  found := by
    intro base entries hbase
    refine descend_put h content hbase fun below hbelow => ?_
    by_cases hnil : below = []
    · rw [hnil]
      rfl
    · rw [← endsWith_append suffix base below hnil, ← hbelow, hends]

theorem discover (h : SameFound suffix tree' tree) {path : String} {found : List (List String)}
    (hfound : tree.discover path suffix = .ok found) : tree'.discover path suffix = .ok found := by
  obtain ⟨entries, hfind, hsorted⟩ := discover_eq_ok.mp hfound
  obtain ⟨hpath, ⟨row, hplace, hrow⟩, _⟩ := find_eq_ok.mp hfind
  obtain ⟨entries', hrow', hseen⟩ := h.found row entries hrow
  exact discover_eq_ok.mpr ⟨entries',
    find_eq_ok.mpr ⟨hpath, ⟨row, h.extended.place? hplace, hrow'⟩, Or.inl rfl⟩, by rw [hseen, hsorted]⟩

/-- A text that ends in the suffix is still read. -/
theorem readText (h : SameFound suffix tree' tree) {path text : String}
    (hends : ∀ row, tree.place? path = some row → endsWith suffix row = true)
    (htext : tree.readText path = .ok text) : tree'.readText path = .ok text := by
  obtain ⟨hpath, hfile, row, hplace, hrow⟩ := readText_eq_ok.mp htext
  refine readText_eq_ok.mpr ⟨hpath, hfile, row, h.extended.place? hplace, ?_⟩
  rw [h.same row (hends row hplace), hrow]

end SameFound

end FileTree

end ScopeScanner
