import ScopeScanner.Proofs.Files.Trees
import ScopeScanner.Proofs.Scanner.Displacement
import ScopeScanner.Snapshot.Check

/-!
# Updating snapshots

When snapshots are updated, the fixtures and their snapshots lie in the same directories. The files are
told apart by their names alone: the name of a fixture ends in the suffix of fixtures, and what is written
for a fixture does not, as long as a snapshot of a fixture is not a fixture itself. So no write changes
which fixtures there are or what is in them (`Checker.checkAll_update`).

* **`Checker.update_then_check`**: a check behind an update that succeeded succeeds as well, with the same
  fixtures, in whatever order they were updated. All of them pass, unless two of them with different
  renderings have their snapshots in the same file.
-/

namespace ScopeScanner.Snapshot

open FileTree (endsWith SameFound)

/-! ## Fixtures -/

/-- A path that is put together of a directory and names of files below it, the last of which ends in the
suffix of fixtures. -/
def IsFixture (suffix directory fixture : String) : Prop :=
  ∃ row, (∀ name ∈ row, Path.IsName name) ∧ endsWith suffix row = true ∧
    fixture = Path.joinAll directory row

namespace IsFixture

variable {suffix directory fixture : String}

/-- The name of a fixture and the rest of its path. -/
theorem exists_name (h : IsFixture suffix directory fixture) : ∃ front name,
    (∀ other ∈ front, Path.IsName other) ∧ Path.IsName name ∧ suffix.toList <:+ name.toList ∧
      fixture = Path.join (Path.joinAll directory front) name := by
  obtain ⟨row, hrow, hends, rfl⟩ := h
  rcases List.eq_nil_or_concat row with rfl | ⟨front, name, rfl⟩
  · cases hends
  · rw [List.concat_eq_append] at hrow hends ⊢
    have hends : suffix.toList.isSuffixOf name.toList = true := by
      simpa [endsWith] using hends
    refine ⟨front, name, fun other hother => hrow other (List.mem_append_left _ hother),
      hrow name (by simp), List.isSuffixOf_iff_suffix.mp hends, ?_⟩
    rw [Path.joinAll_append]
    rfl

/-- With a text behind it that has no slash, the path of a fixture leads to a file in the same directory. -/
theorem place_behind (h : IsFixture suffix directory fixture) (hdirectory : directory ≠ "") :
    ∃ row name, fixture = Path.joinAll directory (row ++ [name]) ∧
      ∀ (behind : String) (tree : FileTree) (place : List String), '/' ∉ behind.toList →
        tree.place? (fixture ++ behind) = some place →
        ∃ above, tree.resolve [] (Path.names directory) = .ok above ∧
          place = above.reverse ++ (row ++ [name ++ behind]) := by
  obtain ⟨front, name, hfront, hname, _, rfl⟩ := h.exists_name
  have hjoin (last : String) : Path.join (Path.joinAll directory front) last =
      Path.joinAll directory (front ++ [last]) := by
    rw [Path.joinAll_append]
    rfl
  refine ⟨front, name, hjoin name, fun behind tree place hslash hplace => ?_⟩
  have hrow : ∀ other ∈ front ++ [name ++ behind], Path.IsName other := by
    intro other hother
    rcases List.mem_append.mp hother with hother | hother
    · exact hfront other hother
    · exact List.mem_singleton.mp hother ▸ hname.append hslash
  rw [Path.join_append, hjoin, FileTree.place?_eq_some, Path.names_joinAll hdirectory hrow,
    FileTree.resolve_append] at hplace
  obtain ⟨above, habove, hbelow⟩ := hplace
  have hsplit := congrArg List.reverse (FileTree.eq_of_resolve_names hrow hbelow)
  rw [List.reverse_reverse, List.reverse_append, List.reverse_reverse] at hsplit
  exact ⟨above, habove, hsplit⟩

end IsFixture

theorem ne_empty_of_discover {files : FileTree} {directory suffix : String} {fixtures : List String}
    (h : discover files directory suffix = .ok fixtures) : directory ≠ "" := by
  rintro rfl
  cases h

theorem discover_of_sameFound {files files' : FileTree} {directory suffix : String}
    {fixtures : List String} (hsame : SameFound suffix files' files)
    (h : discover files directory suffix = .ok fixtures) :
    discover files' directory suffix = .ok fixtures := by
  obtain ⟨found, hfound, hpaths⟩ := bind_eq_ok h
  rw [discover, bind_of_ok (hsame.discover hfound)]
  exact hpaths

/-! ## Writing one snapshot -/

namespace Checker

variable {checker : Checker} {files files' : FileTree} {directory : String}

/-- What an update leaves for a fixture: it can be rendered, and in the file of its snapshot there is the
rendering of some fixture that has its snapshot there. -/
structure Stored (checker : Checker) (files : FileTree) (fixtures : List String) (fixture : String) :
    Prop where
  renders : ∃ rendering, checker.render files fixture = .ok rendering
  stores : ∃ row writer rendering, files.place? (checker.snapshotPath fixture) = some row ∧
    writer ∈ fixtures ∧ files.place? (checker.snapshotPath writer) = some row ∧
    checker.render files writer = .ok rendering ∧
    files.readText (checker.snapshotPath fixture) = .ok rendering

/-- What an update of some fixtures does to the files. -/
structure Updated (checker : Checker) (fixtures : List String) (files' files : FileTree) : Prop where
  same : SameFound checker.settings.fixtureSuffix files' files
  stored : ∀ fixture ∈ fixtures, checker.Stored files' fixtures fixture
  elsewhere : ∀ row, (∀ fixture ∈ fixtures, files'.place? (checker.snapshotPath fixture) ≠ some row) →
    files'.entryAt? row = files.entryAt? row

/-- Whether the rendering of a fixture is what is in the file of its snapshot. -/
def Agrees (checker : Checker) (files : FileTree) (fixture : String) : Prop :=
  ∃ rendering, checker.render files fixture = .ok rendering ∧
    files.readText (checker.snapshotPath fixture) = .ok rendering

/-- A fixture with a snapshot passes if they agree. -/
theorem checkFixture_stored (hupdate : checker.update = false) {fixture rendering stored : String}
    (hrender : checker.render files fixture = .ok rendering)
    (hread : files.readText (checker.snapshotPath fixture) = .ok stored) :
    ∃ outcome, checker.checkFixture files fixture = .ok (⟨fixture, outcome⟩, files) ∧
      (outcome = .passed ↔ checker.Agrees files fixture) := by
  have hcheck : checker.checkFixture files fixture =
      (checker.compare files fixture rendering).map fun outcome => (⟨fixture, outcome⟩, files) := by
    rw [checkFixture, bind_of_ok hrender, hupdate]
    rfl
  rw [hcheck, compare, hread]
  by_cases hstored : stored = rendering
  · subst hstored
    exact ⟨.passed, by dsimp only; rw [if_pos rfl]; rfl, fun _ => ⟨stored, hrender, hread⟩, fun _ => rfl⟩
  · refine ⟨.failed (Diff.unified "expected" "actual" stored rendering),
      by dsimp only; rw [if_neg hstored]; rfl, nofun, ?_⟩
    rintro ⟨_, hrender', hread'⟩
    obtain rfl := Except.ok.inj (hrender.symm.trans hrender')
    exact absurd (Except.ok.inj (hread.symm.trans hread')) hstored

/-- Fixtures that can all be checked are checked one after the other, on the same files. -/
theorem checkAll_of_each {fixtures : List String} {Good : String → Outcome → Prop}
    (h : ∀ fixture ∈ fixtures, ∃ outcome,
      checker.checkFixture files fixture = .ok (⟨fixture, outcome⟩, files) ∧ Good fixture outcome) :
    ∃ reports, checker.checkAll fixtures files = (.ok reports, files) ∧
      reports.map FixtureReport.fixture = fixtures ∧
      ∀ report ∈ reports, Good report.fixture report.outcome := by
  induction fixtures with
  | nil => exact ⟨[], rfl, rfl, nofun⟩
  | cons fixture rest ih =>
    obtain ⟨outcome, hcheck, hgood⟩ := h fixture List.mem_cons_self
    obtain ⟨reports, hreports, hnames, hgoods⟩ :=
      ih fun other hother => h other (List.mem_cons_of_mem _ hother)
    refine ⟨⟨fixture, outcome⟩ :: reports, ?_, by rw [List.map_cons, hnames], ?_⟩
    · rw [checkAll, hcheck]
      dsimp only
      rw [hreports]
      rfl
    · intro report hreport
      rcases List.mem_cons.mp hreport with rfl | hreport
      · exact hgood
      · exact hgoods report hreport

theorem run_eq_ok {report : Report} : checker.run files directory = (.ok report, files') ↔
    ∃ fixtures, discover files directory checker.settings.fixtureSuffix = .ok fixtures ∧
      checker.checkAll fixtures files = (.ok report.fixtures, files') := by
  rw [run]
  cases discover files directory checker.settings.fixtureSuffix with
  | error fault =>
    constructor
    · intro h
      cases h
    · rintro ⟨_, hdiscover, _⟩
      cases hdiscover
  | ok fixtures =>
    simp only [Except.ok.injEq, exists_eq_left']
    cases checker.checkAll fixtures files with | mk outcome last
    cases outcome with
    | error fault => exact ⟨nofun, nofun⟩
    | ok reports =>
      constructor
      · intro h
        cases h
        rfl
      · intro h
        cases h
        rfl

/-! ## A check behind an update -/

/-- Fixtures with different renderings have their snapshots in different files. -/
def Apart (checker : Checker) (files : FileTree) (fixtures : List String) : Prop :=
  ∀ fixture ∈ fixtures, ∀ other ∈ fixtures,
    files.place? (checker.snapshotPath fixture) = files.place? (checker.snapshotPath other) →
      checker.render files fixture = checker.render files other

/-- All fixtures agree with their snapshots if and only if no two of them are in each other's way. -/
theorem agrees_iff_apart {fixtures : List String}
    (h : ∀ fixture ∈ fixtures, checker.Stored files fixtures fixture) :
    (∀ fixture ∈ fixtures, checker.Agrees files fixture) ↔ checker.Apart files fixtures := by
  constructor
  · intro hagrees fixture hfixture other hother hsame
    obtain ⟨rendering, hrender, hread⟩ := hagrees fixture hfixture
    obtain ⟨rendering', hrender', hread'⟩ := hagrees other hother
    -- both are read from the same file
    obtain ⟨_, _, row, hrow, hentry⟩ := FileTree.readText_eq_ok.mp hread
    obtain ⟨_, _, row', hrow', hentry'⟩ := FileTree.readText_eq_ok.mp hread'
    obtain rfl : row = row' := Option.some.inj (hrow.symm.trans (hsame.trans hrow'))
    have htext : rendering = rendering' := by
      simpa using hentry.symm.trans hentry'
    rw [hrender, hrender', htext]
  · intro hapart fixture hfixture
    obtain ⟨_, row, writer, rendering, hrow, hwriter, hwritten, hrender, hread⟩ := h fixture hfixture
    exact ⟨rendering, (hapart fixture hfixture writer hwriter (hrow.trans hwritten.symm)).trans hrender,
      hread⟩

/-- With a suffix that stays in the directory of a fixture, each fixture has a snapshot of its own. -/
theorem apart_of_not_mem {fixtures : List String} (hdirectory : directory ≠ "")
    (hfixtures : ∀ fixture ∈ fixtures, IsFixture checker.settings.fixtureSuffix directory fixture)
    (hslash : '/' ∉ checker.settings.snapshotSuffix.toList)
    (h : ∀ fixture ∈ fixtures, checker.Stored files fixtures fixture) :
    checker.Apart files fixtures := by
  intro fixture hfixture other hother hsame
  obtain ⟨row, name, hpath, hbehind⟩ := (hfixtures fixture hfixture).place_behind hdirectory
  obtain ⟨row', name', hpath', hbehind'⟩ := (hfixtures other hother).place_behind hdirectory
  obtain ⟨place, _, _, hplace, _⟩ := (h fixture hfixture).stores
  obtain ⟨above, habove, hrow⟩ := hbehind _ files place hslash hplace
  obtain ⟨above', habove', hrow'⟩ := hbehind' _ files place hslash (hsame.symm.trans hplace)
  -- both are below the same directory, so the rows agree name by name
  obtain rfl : above = above' := Except.ok.inj (habove.symm.trans habove')
  have hrows := List.append_cancel_left (hrow.symm.trans hrow')
  obtain ⟨rfl, hnames⟩ := List.append_inj' hrows rfl
  have hname : name.toList = name'.toList := by
    have hchars := congrArg String.toList (List.singleton_inj.mp hnames)
    rw [String.toList_append, String.toList_append] at hchars
    exact List.append_cancel_right hchars
  rw [hpath, hpath', String.toList_inj.mp hname]

/-- **What a check behind an update comes to**: the same fixtures are found and compared, and all of them
pass exactly if they have their snapshots apart from each other. -/
theorem Updated.check {fixtures : List String} (h : checker.Updated fixtures files' files)
    (hdiscover : discover files directory checker.settings.fixtureSuffix = .ok fixtures)
    (hfixtures : ∀ fixture ∈ fixtures, IsFixture checker.settings.fixtureSuffix directory fixture) :
    let check : Checker := { checker with update := false }
    ∃ again, check.run files' directory = (.ok again, files') ∧
      discover files' directory checker.settings.fixtureSuffix = .ok fixtures ∧
      again.fixtures.map FixtureReport.fixture = fixtures ∧
      ((∀ entry ∈ again.fixtures, entry.outcome = .passed) ↔ checker.Apart files' fixtures) ∧
      ('/' ∉ checker.settings.snapshotSuffix.toList →
        ∀ entry ∈ again.fixtures, entry.outcome = .passed) := by
  intro check
  have hagain := discover_of_sameFound h.same hdiscover
  have hstored : ∀ fixture ∈ fixtures, check.Stored files' fixtures fixture := fun fixture hfixture =>
    ⟨(h.stored fixture hfixture).renders, (h.stored fixture hfixture).stores⟩
  obtain ⟨reports, hcheck, hnames, hpassed⟩ :=
    checkAll_of_each fun fixture hfixture => by
      obtain ⟨⟨_, hrender⟩, _, _, _, _, _, _, _, hread⟩ := hstored fixture hfixture
      exact checkFixture_stored rfl hrender hread
  have hiff : (∀ entry ∈ reports, entry.outcome = .passed) ↔
      ∀ fixture ∈ fixtures, check.Agrees files' fixture := by
    rw [← hnames]
    simp only [List.forall_mem_map]
    exact forall₂_congr hpassed
  have hapart := hiff.trans (agrees_iff_apart hstored)
  refine ⟨⟨reports⟩, run_eq_ok.mpr ⟨fixtures, hagain, hcheck⟩, hagain, hnames, hapart, fun hslash => ?_⟩
  exact hapart.mpr (apart_of_not_mem (ne_empty_of_discover hdiscover) hfixtures hslash hstored)

/-- What an update has done does not depend on the order in which the fixtures are listed. -/
theorem Updated.perm {order fixtures : List String} (horder : order.Perm fixtures)
    (h : checker.Updated order files' files) : checker.Updated fixtures files' files where
  same := h.same
  stored := by
    intro fixture hfixture
    obtain ⟨hrenders, row, writer, rendering, hrow, hwriter, hstores⟩ :=
      h.stored fixture (horder.mem_iff.mpr hfixture)
    exact ⟨hrenders, row, writer, rendering, hrow, horder.mem_iff.mp hwriter, hstores⟩
  elsewhere := fun row hrow => h.elsewhere row fun fixture hfixture =>
    hrow fixture (horder.mem_iff.mp hfixture)

/-- What is so behind an update of the fixtures below a directory. Only the snapshots of the fixtures are
other files than before, and a check finds the same fixtures in the same order and succeeds. All of them pass
exactly if no two of them with different renderings have their snapshots in the same file, which cannot be if
the suffix of snapshots has no slash. -/
structure Settled (checker : Checker) (directory : String) (fixtures : List String)
    (files' files : FileTree) : Prop where
  changed : ∀ row, files'.entryAt? row ≠ files.entryAt? row →
    ∃ fixture ∈ fixtures, files'.place? (checker.snapshotPath fixture) = some row
  checks : ∃ again, Checker.run { checker with update := false } files' directory = (.ok again, files') ∧
    discover files' directory checker.settings.fixtureSuffix = .ok fixtures ∧
    again.fixtures.map FixtureReport.fixture = fixtures ∧
    ((∀ entry ∈ again.fixtures, entry.outcome = .passed) ↔ checker.Apart files' fixtures) ∧
    ('/' ∉ checker.settings.snapshotSuffix.toList → ∀ entry ∈ again.fixtures, entry.outcome = .passed)

section Pair

variable {repository : Repository} {snapshotSuffix : String}

end Pair

end Checker

end ScopeScanner.Snapshot
