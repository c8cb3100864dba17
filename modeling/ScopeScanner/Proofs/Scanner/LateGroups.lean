import ScopeScanner.Proofs.Scanner.GroupScopes

/-!
# Groups that are opened too late

Groups are opened in the order of their numbers, and the line is covered up to the start of each one.
What has been covered stays as it is. So a group that starts further back than a group with a lower
number comes too late for the places between the two starts: they have been covered without it. This
is not ruled out by the form of an expression. A group of a repetition keeps its span from an earlier
round, while one with a lower number takes part in a later round.

* **`resolveEach_covers`**: each place carries the scopes of the groups that are open when the first
  group behind it is met (`Groups.openedFor`). It is an induction on the captures, and holds for groups
  that lie in any way.
* **`openedFor_induct`**: what is kept by opening groups holds of the scopes that a place carries.
* **`resolveCaptures_keeps`**: hence a group has its scopes on exactly those of its places that no
  group with a lower number has passed.
-/

namespace ScopeScanner

open Emission (Paints)

namespace Groups

/-- Some capture with scopes opens its group behind a position. -/
def Passes (groups : Groups) (captures : CaptureMap) (position : Nat) : Prop :=
  ∃ entry ∈ captures, entry.2.scopes ≠ [] ∧ ∃ part, groups.Spans entry.1 part ∧ position < part.start

/-- The groups that are open when a position of a match is covered. The captures are gone through up
to the first one whose group starts behind the position; all others are too late for it. -/
def openedFor (groups : Groups) (scopes : List String) (position : Nat) :
    CaptureMap → List OpenGroup → List OpenGroup
  | [], opened => opened
  | (number, capture) :: rest, opened =>
    match groups.clipped? number with
    | none => groups.openedFor scopes position rest opened
    | some part =>
      if capture.scopes = [] then groups.openedFor scopes position rest opened
      else if position < part.start then opened
      else
        groups.openedFor scopes position rest
          (⟨part.stop, openScopes scopes opened part.start ++ capture.scopes⟩ ::
            opened.dropWhile (·.stop ≤ part.start))

variable {groups : Groups} {scopes : List String} {position : Nat} {number : Nat} {capture : Capture}
  {part : Span} {rest : CaptureMap} {opened : List OpenGroup}

theorem Spans.start_lt_stop (h : groups.Spans number part) :
    part.start < part.stop ∧ part.start ≤ groups.whole.stop ∧ part.stop ≤ groups.whole.stop := by
  obtain ⟨span, _, hnonempty, _, hinside, rfl⟩ := h
  exact ⟨Nat.lt_min.mpr ⟨hnonempty, hinside⟩, Nat.le_of_lt hinside, Nat.min_le_right _ _⟩

theorem openedFor_skip (h : groups.clipped? number = none ∨ capture.scopes = []) :
    groups.openedFor scopes position ((number, capture) :: rest) opened =
      groups.openedFor scopes position rest opened := by
  rw [openedFor]
  split
  · rfl
  · next part hpart =>
    rw [if_pos (h.resolve_left (by rw [hpart]; exact Option.some_ne_none part))]

theorem openedFor_of_lt (hpart : groups.Spans number part) (hscopes : capture.scopes ≠ [])
    (h : position < part.start) :
    groups.openedFor scopes position ((number, capture) :: rest) opened = opened := by
  rw [openedFor, clipped?_eq_some_iff.mpr hpart]
  dsimp only
  rw [if_neg hscopes, if_pos h]

theorem openedFor_of_le (hpart : groups.Spans number part) (hscopes : capture.scopes ≠ [])
    (h : part.start ≤ position) :
    groups.openedFor scopes position ((number, capture) :: rest) opened =
      groups.openedFor scopes position rest
        (⟨part.stop, openScopes scopes opened part.start ++ capture.scopes⟩ ::
          opened.dropWhile (·.stop ≤ part.start)) := by
  rw [openedFor, clipped?_eq_some_iff.mpr hpart]
  dsimp only
  rw [if_neg hscopes, if_neg (Nat.not_lt_of_le h)]

/-- A capture opens nothing, or its group. -/
theorem opens_cases (groups : Groups) (number : Nat) (capture : Capture) :
    (groups.clipped? number = none ∨ capture.scopes = []) ∨
      ∃ part, groups.Spans number part ∧ capture.scopes ≠ [] := by
  cases hclipped : groups.clipped? number with
  | none => exact Or.inl (Or.inl rfl)
  | some part =>
    by_cases hscopes : capture.scopes = []
    · exact Or.inl (Or.inr hscopes)
    · exact Or.inr ⟨part, clipped?_eq_some_iff.mp hclipped, hscopes⟩

/-- Captures that open no group behind a position are all gone through, and then those that
follow. -/
theorem openedFor_append {before : CaptureMap} (h : ¬ groups.Passes before position)
    (after : CaptureMap) :
    groups.openedFor scopes position (before ++ after) opened =
      groups.openedFor scopes position after (groups.openedFor scopes position before opened) := by
  induction before generalizing opened with
  | nil => rfl
  | cons entry before ih =>
    obtain ⟨number, capture⟩ := entry
    have hbefore : ¬ groups.Passes before position := fun ⟨entry, hmem, hpasses⟩ =>
      h ⟨entry, List.mem_cons_of_mem _ hmem, hpasses⟩
    rw [List.cons_append]
    rcases groups.opens_cases number capture with hskip | ⟨part, hpart, hscopes⟩
    · rw [openedFor_skip hskip, openedFor_skip hskip, ih hbefore]
    · have hle : part.start ≤ position := Nat.le_of_not_lt fun hlt =>
        h ⟨(number, capture), List.mem_cons_self, hscopes, part, hpart, hlt⟩
      rw [openedFor_of_le hpart hscopes hle, openedFor_of_le hpart hscopes hle, ih hbefore]

/-- Once a group has been opened behind a position, those that follow are too late. -/
theorem openedFor_append_of_passes {before : CaptureMap} (h : groups.Passes before position)
    (after : CaptureMap) :
    groups.openedFor scopes position (before ++ after) opened =
      groups.openedFor scopes position before opened := by
  induction before generalizing opened with
  | nil =>
    obtain ⟨entry, hmem, _⟩ := h
    cases hmem
  | cons entry before ih =>
    obtain ⟨number, capture⟩ := entry
    -- unless it is the first one, the group that passes is among the others
    have hbefore (hfirst : capture.scopes ≠ [] → ∀ part, groups.Spans number part →
        part.start ≤ position) : groups.Passes before position := by
      obtain ⟨entry, hmem, hscopes, part, hpart, hlt⟩ := h
      rcases List.mem_cons.mp hmem with rfl | hmem
      · exact absurd (hfirst hscopes part hpart) (Nat.not_le_of_lt hlt)
      · exact ⟨entry, hmem, hscopes, part, hpart, hlt⟩
    rw [List.cons_append]
    rcases groups.opens_cases number capture with hskip | ⟨part, hpart, hscopes⟩
    · rw [openedFor_skip hskip, openedFor_skip hskip, ih (hbefore fun hscopes part hpart => ?_)]
      rcases hskip with hnone | hnil
      · cases hnone.symm.trans (clipped?_eq_some_iff.mpr hpart)
      · exact absurd hnil hscopes
    · rcases Nat.lt_or_ge position part.start with hlt | hle
      · rw [openedFor_of_lt hpart hscopes hlt, openedFor_of_lt hpart hscopes hlt]
      · rw [openedFor_of_le hpart hscopes hle, openedFor_of_le hpart hscopes hle,
          ih (hbefore fun _ part' hpart' => hpart'.unique hpart ▸ hle)]

/-- **What a position carries.** What holds of the scopes of the groups that are open up to a
position, and is kept when a group adds its own, holds of the scopes that are carried there. By
induction on the captures. -/
theorem openedFor_induct (Holds : List String → Prop) {captures : CaptureMap}
    (hadds : ∀ entry ∈ captures, ∀ names, Holds names → Holds (names ++ entry.2.scopes))
    (hopened : ∀ place ≤ position, Holds (openScopes scopes opened place)) :
    ∀ place ≤ position,
      Holds (openScopes scopes (groups.openedFor scopes position captures opened) place) := by
  induction captures generalizing opened with
  | nil => exact hopened
  | cons entry rest ih =>
    obtain ⟨number, capture⟩ := entry
    obtain ⟨hadd, hrest⟩ := List.forall_mem_cons.mp hadds
    rcases groups.opens_cases number capture with hskip | ⟨part, hpart, hscopes⟩
    · rw [openedFor_skip hskip]
      exact ih hrest hopened
    · rcases Nat.lt_or_ge position part.start with hlt | hle
      · rw [openedFor_of_lt hpart hscopes hlt]
        exact hopened
      · rw [openedFor_of_le hpart hscopes hle]
        refine ih hrest fun place hplace => ?_
        rcases Nat.lt_or_ge place part.stop with hinside | hbehind
        · rw [openScopes_of_lt hinside]
          exact hadd _ (hopened part.start hle)
        · have hstart := hpart.start_lt_stop.1
          rw [openScopes_of_le hbehind, openScopes_dropWhile opened (by omega)]
          exact hopened place hplace

end Groups

section

variable {line : Line} {groups : Groups} {scopes : List String}

/-- **The rest of a match** carries, place by place, the scopes of the groups that are open when the
first group behind the place is met. By induction on the captures. -/
theorem resolveEach_covers (reenter : Option Reenter) (captures : CaptureMap)
    (hplain : ∀ entry ∈ captures, entry.2.rule = none) {opened : List OpenGroup}
    (hinside : ∀ group ∈ opened, group.stop ≤ groups.whole.stop) (emission : Emission) :
    Paints (fun position =>
        openScopes scopes (groups.openedFor scopes position captures opened) position)
      groups.whole.stop emission
      ((closeAllGroups (resolveEach reenter line groups scopes captures opened emission).1
        (resolveEach reenter line groups scopes captures opened emission).2).produce
          groups.whole.stop scopes) := by
  induction captures generalizing opened emission with
  | nil => exact closeAllGroups_paints hinside emission
  | cons entry rest ih =>
    obtain ⟨number, capture⟩ := entry
    obtain ⟨hrule, hrest⟩ := List.forall_mem_cons.mp hplain
    rw [resolveEach]
    rcases groups.opens_cases number capture with hskip | ⟨part, hpart, hscopes⟩
    · rw [resolveCapture_skip (hskip.imp_right fun hnil => ⟨hnil, hrule⟩)]
      refine (ih hrest hinside emission).congr fun position _ _ => ?_
      rw [Groups.openedFor_skip hskip]
    · rw [resolveCapture_open hpart hscopes hrule]
      dsimp only
      obtain ⟨_, hstart, hstop⟩ := hpart.start_lt_stop
      have hclose := closeGroups_paints scopes part.start opened emission
      generalize (closeGroups part.start opened emission).2.produce part.start
        (openScopes scopes opened part.start) = next at hclose ⊢
      -- the group is too late for the places that are covered up to its start
      have hbefore : Paints (fun position => openScopes scopes
          (groups.openedFor scopes position ((number, capture) :: rest) opened) position)
          part.start emission next :=
        hclose.congr fun position _ hlt => by rw [Groups.openedFor_of_lt hpart hscopes hlt]
      have hinside' : ∀ group ∈ (⟨part.stop, openScopes scopes opened part.start ++
          capture.scopes⟩ :: opened.dropWhile (·.stop ≤ part.start) : List OpenGroup),
          group.stop ≤ groups.whole.stop := by
        refine List.forall_mem_cons.mpr ⟨hstop, fun group hmem => ?_⟩
        exact hinside group ((List.dropWhile_suffix _).subset hmem)
      have hboth := hbefore.trans ((ih hrest hinside' next).congr ?_)
      · rwa [Nat.max_eq_right hstart] at hboth
      · intro position hfrom _
        rw [hclose.position] at hfrom
        rw [Groups.openedFor_of_le hpart hscopes (by omega)]

/-- **A group keeps its scopes where no group with a lower number has passed.** The captures have no
rules of their own, and the groups of the match lie in any way. Then the visible bytes of the match
are covered, from where the line has been covered so far. Take any group that stands for a part of the
match and any place in it. If no group with a lower number that has scopes starts behind the place, the
place carries the scopes of the match, and those of the group further in. Otherwise it carries none but
the scopes of the match and of groups with lower numbers. -/
theorem resolveCaptures_keeps (reenter : Option Reenter) (line : Line) (groups : Groups)
    (captures : CaptureMap) (scopes : List String) (emission : Emission)
    (hplain : ∀ entry ∈ captures, entry.2.rule = none) :
    ∃ carried : Nat → List String,
      (resolveCaptures reenter line groups captures scopes emission).sink.bytes =
          emission.sink.bytes ++
            emission.sink.stretch emission.sink.position groups.whole.stop carried ∧
        ∀ before number capture after part, captures = before ++ (number, capture) :: after →
          groups.Spans number part → ∀ position, part.start ≤ position → position < part.stop →
            (¬ groups.Passes before position →
              ∃ around, scopes ++ around ++ capture.scopes <+: carried position) ∧
            (groups.Passes before position → ∀ name ∈ carried position,
              name ∈ scopes ∨ ∃ entry ∈ before, name ∈ entry.2.scopes) := by
  have hcovers := @resolveEach_covers line groups scopes reenter captures hplain []
    (List.forall_mem_nil _) emission
  refine ⟨fun position => openScopes scopes (groups.openedFor scopes position captures []) position,
    hcovers.bytes, ?_⟩
  rintro before number capture after part rfl hpart position hstart hstop
  have hmatch (captures : CaptureMap) : ∀ place ≤ position,
      scopes <+: openScopes scopes (groups.openedFor scopes position captures []) place :=
    Groups.openedFor_induct (scopes <+: ·)
      (fun _ _ _ h => h.trans (List.prefix_append _ _)) fun _ _ => List.prefix_rfl
  constructor
  · intro hpasses
    by_cases hscopes : capture.scopes = []
    · exact ⟨[], by simpa [hscopes] using hmatch _ position (Nat.le_refl _)⟩
    · obtain ⟨around, haround⟩ := hmatch before part.start hstart
      refine ⟨around, ?_⟩
      dsimp only
      rw [Groups.openedFor_append hpasses, Groups.openedFor_of_le hpart hscopes hstart, haround]
      refine Groups.openedFor_induct (_ <+: ·) (fun _ _ _ h => h.trans (List.prefix_append _ _))
        (fun place hplace => ?_) position (Nat.le_refl _)
      exact ⟨[], by rw [List.append_nil, openScopes_of_lt (Nat.lt_of_le_of_lt hplace hstop)]⟩
  · intro hpasses
    dsimp only
    rw [Groups.openedFor_append_of_passes hpasses]
    refine Groups.openedFor_induct (fun names => ∀ name ∈ names,
        name ∈ scopes ∨ ∃ entry ∈ before, name ∈ entry.2.scopes) (fun entry hmem names h => ?_)
      (fun _ _ _ => Or.inl) position (Nat.le_refl _)
    intro name hname
    rcases List.mem_append.mp hname with hname | hname
    · exact h name hname
    · exact Or.inr ⟨entry, hmem, hname⟩

end

/-! ## A repetition that takes part in turns -/

/-- The groups that a repetition of two groups leaves behind, of which the second one has taken part
first. -/
def swappedGroups : Groups :=
  ⟨[some ⟨0, 2⟩, some ⟨1, 2⟩, some ⟨0, 1⟩]⟩

/-- Scopes for both of them. -/
def swappedCaptures : CaptureMap :=
  [(1, { scopes := ["one"] }), (2, { scopes := ["two"] })]

/-- A line that has not been covered. -/
def plainLine : Emission where
  sink := { merge := true, visible := 2 }

/-- The first group passes the `b` of `ba`, where the second one has matched. So the second group is
too late, and its scope is nowhere. -/
theorem resolveCaptures_keeps_swapped :
    (match Pattern.compile "(?:(a)|(b))+" 1000 with
      | .ok pattern =>
        match pattern.findAt (.ofString "ba") 0 false with
        | .ok (some groups) => decide (groups = swappedGroups)
        | _ => false
      | .error _ => false) = true ∧
      (∀ entry ∈ swappedCaptures, entry.2.rule = none) ∧
      swappedGroups.Spans 2 ⟨0, 1⟩ ∧ swappedGroups.Passes (swappedCaptures.take 1) 0 ∧
      (resolveCaptures none (.ofString "ba") swappedGroups swappedCaptures ["m"]
        plainLine).sink.bytes = [(0, ["m"]), (1, ["m", "one"])] ∧
      ∃ carried : Nat → List String,
        [(0, ["m"]), (1, ["m", "one"])] = plainLine.sink.stretch 0 2 carried ∧
          ∀ name ∈ carried 0, name ∈ ["m"] ∨ name ∈ ["one"] := by
  have hplain : ∀ entry ∈ swappedCaptures, entry.2.rule = none := by decide
  have hspans : swappedGroups.Spans 2 ⟨0, 1⟩ := ⟨⟨0, 1⟩, rfl, by decide, by decide, by decide, rfl⟩
  have hpasses : swappedGroups.Passes (swappedCaptures.take 1) 0 :=
    ⟨_, List.mem_cons_self, by decide, ⟨1, 2⟩, ⟨⟨1, 2⟩, rfl, by decide, by decide, by decide, rfl⟩,
      by decide⟩
  have hbytes : (resolveCaptures none (.ofString "ba") swappedGroups swappedCaptures ["m"]
      plainLine).sink.bytes = [(0, ["m"]), (1, ["m", "one"])] := by decide
  obtain ⟨carried, hcovered, hkeeps⟩ :=
    resolveCaptures_keeps none (.ofString "ba") swappedGroups swappedCaptures ["m"] plainLine hplain
  rw [hbytes] at hcovered
  refine ⟨by decide +kernel, hplain, hspans, hpasses, hbytes, carried, hcovered, ?_⟩
  have hlost := (hkeeps (swappedCaptures.take 1) 2 { scopes := ["two"] } [] ⟨0, 1⟩ rfl hspans 0
    (Nat.le_refl _) Nat.one_pos).2 hpasses
  intro name hname
  simpa [swappedCaptures] using hlost name hname

end ScopeScanner
