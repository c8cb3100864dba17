import Mathlib.Data.List.Perm.Basic
import Mathlib.Data.List.Sort
import ScopeScanner.Files.Discovery

/-!
# Searching directories

A search keeps a pile of directories that it has not looked into. Each directory it takes from the pile may
put others on it, so what the search will come to is told by what it has found so far and by all that is
below the directories of the pile (`Listing.Search.reached`):

* **`Listing.Search.reached_step`**: looking into a directory moves rows from the pile to those found, and
  no row is lost or met twice.
* **`Listing.Search.run_spec`**: in the end the rows that were looked for have been found, each as often as
  the listing has it, unless the entries of some directory break off.
* **`Listing.mergeSort_eq_of_perm`**: rows have one order, so the order in which they were found is gone
  behind the sorting.
-/

namespace ScopeScanner.Listing

variable {ν : Type}

/-! ## Rows to what is no directory -/

mutual

/-- The rows that lead to what is no directory. -/
def rows : Listing ν → List (List ν)
  | leaf _ => [[]]
  | directory entries _ => rowsIn entries

/-- The rows that lead there from a directory with these entries. -/
def rowsIn : List (ν × Listing ν) → List (List ν)
  | [] => []
  | (name, node) :: rest => node.rows.map (name :: ·) ++ rowsIn rest

end

@[simp] theorem rows_leaf (kind : LeafKind) : (leaf kind : Listing ν).rows = [[]] := by
  rw [rows]

@[simp] theorem rows_directory (entries : List (ν × Listing ν)) (fault? : Option FileFault) :
    (directory entries fault?).rows = rowsIn entries := by
  rw [rows]

@[simp] theorem rowsIn_nil : rowsIn ([] : List (ν × Listing ν)) = [] := by
  rw [rowsIn]

@[simp] theorem rowsIn_cons (name : ν) (node : Listing ν) (rest : List (ν × Listing ν)) :
    rowsIn ((name, node) :: rest) = node.rows.map (name :: ·) ++ rowsIn rest := by
  rw [rowsIn]

/-- A row below a directory has a name. -/
theorem ne_nil_of_mem_rowsIn {entries : List (ν × Listing ν)} {row : List ν} (h : row ∈ rowsIn entries) :
    row ≠ [] := by
  induction entries with
  | nil => simp at h
  | cons entry rest ih =>
    rw [rowsIn_cons, List.mem_append, List.mem_map] at h
    rcases h with ⟨below, -, rfl⟩ | hrest
    · exact List.cons_ne_nil _ _
    · exact ih hrest

/-- Whether the last name of a row is wanted. -/
def leadsTo (wanted : ν → Bool) (row : List ν) : Bool :=
  row.getLast?.any wanted

theorem leadsTo_append (wanted : ν → Bool) (base below : List ν) (h : below ≠ []) :
    leadsTo wanted (base ++ below) = leadsTo wanted below := by
  rw [leadsTo, leadsTo, List.getLast?_append, List.getLast?_eq_some_getLast h]
  rfl

theorem leadsTo_iff {wanted : ν → Bool} {row : List ν} :
    leadsTo wanted row = true ↔ ∃ front name, row = front ++ [name] ∧ wanted name = true := by
  rcases List.eq_nil_or_concat row with rfl | ⟨front, name, rfl⟩
  · exact ⟨nofun, fun ⟨front, name, hnil, _⟩ => by simp at hnil⟩
  · simp [leadsTo]

theorem endsIn_eq_true {text? : ν → Option String} {suffix : String} {name : ν} :
    endsIn text? suffix name = true ↔ ∃ text, text? name = some text ∧ suffix.toList <:+ text.toList := by
  simp [endsIn, Option.any_eq_true]

mutual

/-- Whether the entries of all directories can be read to the end. -/
def Readable : Listing ν → Prop
  | leaf _ => True
  | directory entries fault? => fault? = none ∧ ReadableIn entries

/-- Whether this is so for all directories below these entries. -/
def ReadableIn : List (ν × Listing ν) → Prop
  | [] => True
  | (_, node) :: rest => node.Readable ∧ ReadableIn rest

end

/-! ## The order of the rows -/

section Order

variable [LinearOrder ν]

theorem precedes_total (a b : List ν) : (precedes a b || precedes b a) = true := by
  induction a generalizing b with
  | nil => rfl
  | cons x xs ih =>
    cases b with
    | nil => rfl
    | cons y ys =>
      by_cases hxy : x = y
      · subst hxy
        simpa [precedes] using ih ys
      · simp [precedes, hxy, Ne.symm hxy]

theorem precedes_trans (a b c : List ν) (hab : precedes a b = true) (hbc : precedes b c = true) :
    precedes a c = true := by
  induction a generalizing b c with
  | nil => rfl
  | cons x xs ih =>
    cases b with
    | nil => cases hab
    | cons y ys =>
      cases c with
      | nil => cases hbc
      | cons z zs =>
        rw [precedes] at hab hbc ⊢
        by_cases hxy : x = y
        · subst hxy
          rw [if_pos rfl] at hab
          by_cases hxz : x = z
          · rw [if_pos hxz] at hbc ⊢
            exact ih _ _ hab hbc
          · rw [if_neg hxz] at hbc ⊢
            exact hbc
        · rw [if_neg hxy, decide_eq_true_eq] at hab
          by_cases hyz : y = z
          · subst hyz
            rw [if_neg hxy]
            exact decide_eq_true hab
          · rw [if_neg hyz, decide_eq_true_eq] at hbc
            have hxz : x < z := hab.trans hbc
            rw [if_neg hxz.ne]
            exact decide_eq_true hxz

theorem precedes_antisymm {a b : List ν} (hab : precedes a b = true) (hba : precedes b a = true) :
    a = b := by
  induction a generalizing b with
  | nil =>
    cases b with
    | nil => rfl
    | cons y ys => cases hba
  | cons x xs ih =>
    cases b with
    | nil => cases hab
    | cons y ys =>
      rw [precedes] at hab hba
      by_cases hxy : x = y
      · subst hxy
        rw [if_pos rfl] at hab hba
        rw [ih hab hba]
      · rw [if_neg hxy, decide_eq_true_eq] at hab
        rw [if_neg (Ne.symm hxy), decide_eq_true_eq] at hba
        exact absurd (hab.trans hba) (lt_irrefl x)

theorem pairwise_mergeSort (found : List (List ν)) :
    (found.mergeSort precedes).Pairwise fun a b => precedes a b = true :=
  List.pairwise_mergeSort precedes_trans precedes_total found

/-- **Behind the sorting, the order in which rows were found is gone.** -/
theorem mergeSort_eq_of_perm {found found' : List (List ν)} (h : found.Perm found') :
    found.mergeSort precedes = found'.mergeSort precedes := by
  have hperm : (found.mergeSort precedes).Perm (found'.mergeSort precedes) :=
    ((List.mergeSort_perm found precedes).trans h).trans (List.mergeSort_perm found' precedes).symm
  exact hperm.eq_of_pairwise (fun a b _ _ hab hba => precedes_antisymm hab hba)
    (pairwise_mergeSort found) (pairwise_mergeSort found')

end Order

/-! ## The search -/

namespace Search

variable {wanted : ν → Bool}

/-- The rows looked for below a directory, from where the search started. -/
def below (wanted : ν → Bool) (row : List ν) (entries : List (ν × Listing ν)) : List (List ν) :=
  ((rowsIn entries).filter (leadsTo wanted)).map (row ++ ·)

@[simp] theorem below_nil (row : List ν) : below wanted row [] = [] := by
  simp [below]

theorem below_cons (row : List ν) (entry : ν × Listing ν) (rest : List (ν × Listing ν)) :
    below wanted row (entry :: rest) = below wanted row [entry] ++ below wanted row rest := by
  obtain ⟨name, node⟩ := entry
  simp [below]

/-- What is looked for in a directory of a directory is looked for below its name. -/
theorem below_directory (row : List ν) (name : ν) (entries : List (ν × Listing ν))
    (fault? : Option FileFault) :
    below wanted row [(name, directory entries fault?)] = below wanted (row ++ [name]) entries := by
  have hkept : (rowsIn entries).filter (leadsTo wanted ∘ (name :: ·)) =
      (rowsIn entries).filter (leadsTo wanted) :=
    List.filter_congr fun below hbelow => leadsTo_append wanted [name] below (ne_nil_of_mem_rowsIn hbelow)
  simp [below, List.filter_map, hkept]

/-- All rows a search has found or will find. -/
def reached (wanted : ν → Bool) (search : Search ν) : List (List ν) :=
  search.found ++ search.pending.flatMap fun place => below wanted place.row place.entries

/-- Whether all directories that are left can be read. -/
def Readable (search : Search ν) : Prop :=
  ∀ place ∈ search.pending, place.fault? = none ∧ ReadableIn place.entries

/-- An entry adds what is looked for at its place. -/
theorem reached_note (row : List ν) (search : Search ν) (entry : ν × Listing ν) :
    (reached wanted (note wanted row search entry)).Perm
      (below wanted row [entry] ++ reached wanted search) := by
  obtain ⟨name, node⟩ := entry
  cases node with
  | directory entries fault? =>
    rw [below_directory]
    exact List.perm_append_comm_assoc _ _ _
  | leaf kind =>
    rw [note]
    split
    · next hwanted => simp [below, leadsTo, reached, hwanted]
    · next hwanted => simp [below, leadsTo, hwanted]

/-- An entry that cannot be read makes the search one that cannot be finished. -/
theorem readable_note (row : List ν) (search : Search ν) (entry : ν × Listing ν) :
    (note wanted row search entry).Readable ↔ entry.2.Readable ∧ search.Readable := by
  obtain ⟨name, node⟩ := entry
  cases node with
  | directory entries fault? => simp [note, Search.Readable, Listing.Readable]
  | leaf kind =>
    rw [note, Listing.Readable, true_and]
    split <;> rfl

/-- Looking into a directory adds what is looked for below it. -/
theorem reached_look (row : List ν) (entries : List (ν × Listing ν)) (search : Search ν) :
    (reached wanted (look wanted row entries search)).Perm
      (below wanted row entries ++ reached wanted search) := by
  induction entries generalizing search with
  | nil => simp [look]
  | cons entry rest ih =>
    show (reached wanted (look wanted row rest (note wanted row search entry))).Perm _
    calc reached wanted (look wanted row rest (note wanted row search entry))
      _ |>.Perm (below wanted row rest ++ reached wanted (note wanted row search entry)) := ih _
      _ |>.Perm (below wanted row rest ++ (below wanted row [entry] ++ reached wanted search)) :=
        (reached_note row search entry).append_left _
      _ |>.Perm (below wanted row [entry] ++ (below wanted row rest ++ reached wanted search)) :=
        List.perm_append_comm_assoc _ _ _
      _ |>.Perm (below wanted row (entry :: rest) ++ reached wanted search) := by
        rw [below_cons row entry rest, List.append_assoc]

theorem readable_look (row : List ν) (entries : List (ν × Listing ν)) (search : Search ν) :
    (look wanted row entries search).Readable ↔ ReadableIn entries ∧ search.Readable := by
  induction entries generalizing search with
  | nil => simp [look, ReadableIn]
  | cons entry rest ih =>
    show (look wanted row rest (note wanted row search entry)).Readable ↔ _
    rw [ih, readable_note, ReadableIn, ← and_assoc, and_comm (a := ReadableIn rest)]

/-- **A step loses no row and meets none twice.** -/
theorem reached_step {search next : Search ν} (h : search.step wanted = some (.ok next)) :
    (reached wanted next).Perm (reached wanted search) ∧ (next.Readable ↔ search.Readable) := by
  rw [step] at h
  split at h
  · cases h
  · next place rest hpending =>
    split at h
    · cases h
    · next hfault =>
      obtain rfl := Except.ok.inj (Option.some.inj h)
      constructor
      · refine (reached_look place.row place.entries _).trans ?_
        rw [reached, reached, hpending, List.flatMap_cons]
        exact List.perm_append_comm_assoc _ _ _
      · rw [readable_look]
        simp [Search.Readable, hpending, hfault]

/-- **A search finds the rows that it can reach**, unless there is a directory that it cannot read. -/
theorem run_spec (wanted : ν → Bool) (search : Search ν) :
    match search.run wanted with
    | .ok found => search.Readable ∧ found.Perm (reached wanted search)
    | .error _ => ¬ search.Readable := by
  induction search using run.induct wanted with
  | case1 search hdone =>
    rw [run, hdone]
    rw [step] at hdone
    split at hdone
    · next hpending => simp [reached, Search.Readable, hpending]
    · split at hdone <;> cases hdone
  | case2 search fault hstep =>
    rw [run, hstep]
    rw [step] at hstep
    split at hstep
    · cases hstep
    · next place rest hpending =>
      split at hstep
      · next hfault => simp [Search.Readable, hpending, hfault]
      · cases hstep
  | case3 search next hstep ih =>
    rw [run, hstep]
    obtain ⟨hperm, hreadable⟩ := reached_step hstep
    dsimp only
    split at ih
    · exact ⟨hreadable.mp ih.1, ih.2.trans hperm⟩
    · exact fun h => ih (hreadable.mpr h)

end Search

/-! ## What is found -/

/-- What is found below a directory that can be read are the rows with last names that end in the suffix. -/
theorem discover_spec [DecidableEq ν] [LT ν] [DecidableLT ν] (text? : ν → Option String)
    (suffix : String) (entries : List (ν × Listing ν)) (fault? : Option FileFault) :
    match (directory entries fault?).discover text? suffix with
    | .ok found => (directory entries fault?).Readable ∧
      ∃ rows : List (List ν), rows.Perm ((rowsIn entries).filter (leadsTo (endsIn text? suffix))) ∧
        rows.mergeSort precedes = found
    | .error _ => ¬ (directory entries fault?).Readable := by
  let search : Search ν := { pending := [⟨[], entries, fault?⟩] }
  have hreadable : search.Readable ↔ (directory entries fault?).Readable := by
    simp [search, Search.Readable, Listing.Readable]
  have hreached : Search.reached (endsIn text? suffix) search =
      (rowsIn entries).filter (leadsTo (endsIn text? suffix)) := by
    simp [search, Search.reached, Search.below]
  have hspec := search.run_spec (endsIn text? suffix)
  rw [hreadable, hreached] at hspec
  have hdiscover : (directory entries fault?).discover text? suffix =
      (search.run (endsIn text? suffix)).map (·.mergeSort precedes) := by
    rw [discover]
    show (search.run (endsIn text? suffix) >>= _) = _
    cases search.run (endsIn text? suffix) <;> rfl
  rw [hdiscover]
  cases hrun : search.run (endsIn text? suffix) with
  | error fault =>
    rw [hrun] at hspec
    exact hspec
  | ok rows =>
    rw [hrun] at hspec
    exact ⟨hspec.1, rows, hspec.2, rfl⟩

/-- What is found is sorted, so the rows alone decide what it is. -/
theorem discover_eq_ok [LinearOrder ν] {text? : ν → Option String} {suffix : String} {tree : Listing ν} {found : List (List ν)} :
    tree.discover text? suffix = .ok found ↔ (∃ entries fault?, tree = directory entries fault?) ∧
      tree.Readable ∧ (tree.rows.filter (leadsTo (endsIn text? suffix))).mergeSort precedes = found := by
  cases tree with
  | leaf kind => exact ⟨nofun, fun ⟨⟨_, _, htree⟩, _⟩ => nomatch htree⟩
  | directory entries fault? =>
    have hspec := discover_spec text? suffix entries fault?
    rw [rows_directory]
    cases hdiscover : (directory entries fault?).discover text? suffix with
    | error fault =>
      rw [hdiscover] at hspec
      exact ⟨nofun, fun ⟨_, hreadable, _⟩ => absurd hreadable hspec⟩
    | ok found' =>
      rw [hdiscover] at hspec
      obtain ⟨hreadable, rows, hperm, rfl⟩ := hspec
      rw [mergeSort_eq_of_perm hperm]
      exact ⟨fun h => ⟨⟨_, _, rfl⟩, hreadable, Except.ok.inj h⟩, fun ⟨_, _, h⟩ => congrArg Except.ok h⟩

end ScopeScanner.Listing
