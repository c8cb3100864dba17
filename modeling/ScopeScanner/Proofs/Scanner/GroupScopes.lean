import ScopeScanner.Proofs.Scanner.Bytes
import ScopeScanner.Scanner.Captures

/-!
# Scopes of groups

A match is cut by a pile of open groups. What comes out can be said place by place: a position of
the match carries the scopes of the match and then those of all groups that contain it
(`Groups.scopesAt`), if the groups are laminar, that is to say, if each one starts no earlier than
those before it and lies behind them or inside them.

* **`closeGroups_paints`**: closing the groups that end before a position covers the text up to
  there with the scopes of the group that is innermost at each place.
* **`resolveEach_paints`**: the rest of the match carries the scopes of the groups that are open and
  of those that are still to come. It is an induction on the captures.
* **`resolveCaptures_bytes`**: the whole match.
-/

namespace ScopeScanner

open Emission (Paints)

namespace Groups

/-- The part of a match that a group stands for: the group takes part in the match, is not empty,
and starts inside the match; what lies beyond the end of the match is cut off. -/
def Spans (groups : Groups) (number : Nat) (part : Span) : Prop :=
  ∃ span, groups.get? number = some span ∧ span.start < span.stop ∧
    groups.whole.start ≤ span.start ∧ span.start < groups.whole.stop ∧
    part = ⟨span.start, min span.stop groups.whole.stop⟩

/-- Of two groups of a match, the second one starts no earlier, and lies behind the first or inside
it. -/
def Laminar (groups : Groups) (first second : Nat) : Prop :=
  ∀ part part', groups.Spans first part → groups.Spans second part' →
    part.start ≤ part'.start ∧ (part.stop ≤ part'.start ∨ part'.stop ≤ part.stop)

/-- Whether a position of a match lies in a group that takes part in the match and starts inside
it. -/
def contains (groups : Groups) (number position : Nat) : Bool :=
  (groups.get? number).any fun span =>
    groups.whole.start ≤ span.start && span.start ≤ position && position < span.stop &&
      position < groups.whole.stop

/-- The scopes of all groups that contain a position of a match, in the order of their numbers. -/
def scopesAt (groups : Groups) (captures : CaptureMap) (position : Nat) : List String :=
  captures.flatMap fun (number, capture) =>
    if groups.contains number position then capture.scopes else []

variable {groups : Groups}

theorem clipped?_eq_some_iff {number : Nat} {part : Span} :
    groups.clipped? number = some part ↔ groups.Spans number part := by
  simp only [clipped?, Spans, Option.bind_eq_some_iff]
  refine exists_congr fun span => and_congr_right fun _ => ?_
  by_cases hskipped : (span.isEmpty || span.start < groups.whole.start ||
      groups.whole.stop ≤ span.start) = true
  · rw [if_pos hskipped]
    simp only [Span.isEmpty, Bool.or_eq_true, decide_eq_true_eq] at hskipped
    constructor
    · intro h; cases h
    · rintro ⟨hne, hfrom, hto, _⟩
      omega
  · rw [if_neg hskipped]
    simp only [Span.isEmpty, Bool.or_eq_true, decide_eq_true_eq] at hskipped
    constructor
    · intro h
      exact ⟨by omega, by omega, by omega, (Option.some.inj h).symm⟩
    · rintro ⟨_, _, _, rfl⟩
      rfl

instance (groups : Groups) (first second : Nat) : Decidable (groups.Laminar first second) :=
  decidable_of_iff (∀ part ∈ groups.clipped? first, ∀ part' ∈ groups.clipped? second,
      part.start ≤ part'.start ∧ (part.stop ≤ part'.start ∨ part'.stop ≤ part.stop)) <| by
    simp only [Laminar, Option.mem_def, clipped?_eq_some_iff]
    exact ⟨fun h part part' hpart hpart' => h part hpart part' hpart',
      fun h part hpart part' hpart' => h part part' hpart hpart'⟩

/-- A group contains the positions of the part that it stands for. -/
theorem contains_iff {number position : Nat} :
    groups.contains number position = true ↔
      ∃ part, groups.Spans number part ∧ part.start ≤ position ∧ position < part.stop := by
  simp only [contains, Spans, Option.any_eq_true, Bool.and_eq_true, decide_eq_true_eq]
  constructor
  · rintro ⟨span, hget, ⟨⟨hfrom, hstart⟩, hstop⟩, hto⟩
    exact ⟨_, ⟨span, hget, by omega, hfrom, by omega, rfl⟩, hstart, by simp only []; omega⟩
  · rintro ⟨_, ⟨span, hget, _, hfrom, _, rfl⟩, hstart, hstop⟩
    simp only [Nat.lt_min] at hstop
    exact ⟨span, hget, ⟨⟨hfrom, hstart⟩, hstop.1⟩, hstop.2⟩

theorem Spans.unique {number : Nat} {part part' : Span} (h : groups.Spans number part)
    (h' : groups.Spans number part') : part = part' :=
  Option.some.inj ((clipped?_eq_some_iff.mpr h).symm.trans (clipped?_eq_some_iff.mpr h'))

theorem Spans.contains_iff {number : Nat} {part : Span} (h : groups.Spans number part)
    {position : Nat} :
    groups.contains number position = true ↔ part.start ≤ position ∧ position < part.stop := by
  rw [Groups.contains_iff]
  constructor
  · rintro ⟨part', h', hbounds⟩
    rwa [h.unique h']
  · exact fun hbounds => ⟨part, h, hbounds⟩

end Groups

/-! ## Open groups -/

/-- The scopes of the group that is innermost at a place, when no others are opened up to there. -/
def openScopes (scopes : List String) (opened : List OpenGroup) (position : Nat) : List String :=
  innermostScopes scopes (opened.dropWhile (·.stop ≤ position))

theorem openScopes_of_le {scopes : List String} {group : OpenGroup} {rest : List OpenGroup}
    {position : Nat} (h : group.stop ≤ position) :
    openScopes scopes (group :: rest) position = openScopes scopes rest position := by
  rw [openScopes, List.dropWhile_cons_of_pos (by simpa using h), openScopes]

theorem openScopes_of_lt {scopes : List String} {group : OpenGroup} {rest : List OpenGroup}
    {position : Nat} (h : position < group.stop) :
    openScopes scopes (group :: rest) position = group.scopes := by
  rw [openScopes, List.dropWhile_cons_of_neg (by simpa using h), innermostScopes]

/-- Closing groups leaves those open that end later. -/
theorem closeGroups_fst (position : Nat) (opened : List OpenGroup) (emission : Emission) :
    (closeGroups position opened emission).1 = opened.dropWhile (·.stop ≤ position) := by
  induction opened generalizing emission with
  | nil => rfl
  | cons group rest ih =>
    rw [closeGroups]
    split
    · next hle => rw [ih, List.dropWhile_cons_of_pos (by simpa using hle)]
    · next hlt => rw [List.dropWhile_cons_of_neg (by simpa using hlt)]

/-- **Closing groups.** The text up to a position is covered with the scopes of the group that is
innermost at each place. By induction on the open groups. -/
theorem closeGroups_paints (scopes : List String) (position : Nat) (opened : List OpenGroup)
    (emission : Emission) :
    Paints (openScopes scopes opened) position emission
      ((closeGroups position opened emission).2.produce position
        (openScopes scopes opened position)) := by
  induction opened generalizing emission with
  | nil => exact .produce emission position scopes
  | cons group rest ih =>
    rw [closeGroups]
    split
    · next hle =>
      -- up to the end of the group its own scopes, from there on those of the groups around it
      have hgroup : Paints (openScopes scopes (group :: rest)) group.stop emission
          (emission.produce group.stop group.scopes) :=
        (Paints.produce emission group.stop group.scopes).congr fun place _ hlt =>
          (openScopes_of_lt hlt).symm
      have haround : ∀ place, (emission.produce group.stop group.scopes).sink.position ≤ place →
          place < position → openScopes scopes rest place = openScopes scopes (group :: rest) place := by
        intro place hfrom _
        rw [hgroup.position] at hfrom
        exact (openScopes_of_le (by omega)).symm
      rw [openScopes_of_le hle]
      have hboth := hgroup.trans ((ih (emission.produce group.stop group.scopes)).congr haround)
      rwa [Nat.max_eq_right hle] at hboth
    · next hlt =>
      rw [openScopes_of_lt (by omega)]
      exact (Paints.produce emission position group.scopes).congr fun place _ hplace =>
        (openScopes_of_lt (by omega)).symm

/-- Closing all groups is closing those that end before a position, if all do. -/
theorem closeAllGroups_eq {position : Nat} {opened : List OpenGroup}
    (h : ∀ group ∈ opened, group.stop ≤ position) (emission : Emission) :
    closeAllGroups opened emission = (closeGroups position opened emission).2 := by
  induction opened generalizing emission with
  | nil => rfl
  | cons group rest ih =>
    obtain ⟨hgroup, hrest⟩ := List.forall_mem_cons.mp h
    rw [closeAllGroups, closeGroups, if_pos hgroup, ih hrest]

/-- Groups that end by a position are closed by then. -/
theorem openScopes_of_forall_le {scopes : List String} {opened : List OpenGroup} {position : Nat}
    (h : ∀ group ∈ opened, group.stop ≤ position) : openScopes scopes opened position = scopes := by
  induction opened with
  | nil => rfl
  | cons group rest ih =>
    obtain ⟨hgroup, hrest⟩ := List.forall_mem_cons.mp h
    rw [openScopes_of_le hgroup, ih hrest]

/-- Groups that are closed at one place stay so further on. -/
theorem openScopes_dropWhile {scopes : List String} (opened : List OpenGroup) {closed position : Nat}
    (h : closed ≤ position) :
    openScopes scopes (opened.dropWhile (·.stop ≤ closed)) position =
      openScopes scopes opened position := by
  induction opened with
  | nil => rfl
  | cons group rest ih =>
    by_cases hle : group.stop ≤ closed
    · rw [List.dropWhile_cons_of_pos (by simpa using hle), ih, openScopes_of_le (Nat.le_trans hle h)]
    · rw [List.dropWhile_cons_of_neg (by simpa using hle)]

/-- Where no group ends between two places, the same one is innermost. -/
theorem openScopes_eq_of_outside {scopes : List String} {opened : List OpenGroup}
    {first position : Nat} (h : ∀ group ∈ opened, group.stop ≤ first ∨ position < group.stop)
    (hle : first ≤ position) : openScopes scopes opened position = openScopes scopes opened first := by
  induction opened with
  | nil => rfl
  | cons group rest ih =>
    obtain ⟨hgroup, hrest⟩ := List.forall_mem_cons.mp h
    rcases hgroup with hclosed | hopen
    · rw [openScopes_of_le hclosed, openScopes_of_le (Nat.le_trans hclosed hle), ih hrest]
    · rw [openScopes_of_lt hopen, openScopes_of_lt (Nat.lt_of_le_of_lt hle hopen)]

/-! ## The groups of a match -/

section

variable {line : Line} {groups : Groups} {scopes : List String}

/-- What is known of the groups that are open when the captures that are left are gone through: they
end inside the match, and each group that is still to come starts where the text has not been
covered and lies behind or inside the open ones. -/
structure Nested (groups : Groups) (captures : CaptureMap) (opened : List OpenGroup)
    (position : Nat) : Prop where
  inside : ∀ group ∈ opened, group.stop ≤ groups.whole.stop
  later : ∀ entry ∈ captures, ∀ part, groups.Spans entry.1 part → position ≤ part.start
  outside : ∀ entry ∈ captures, ∀ part, groups.Spans entry.1 part → ∀ group ∈ opened,
    group.stop ≤ part.start ∨ part.stop ≤ group.stop
  laminar : captures.Pairwise fun first second => groups.Laminar first.1 second.1

/-- Once all captures have been gone through, the rest of the match is covered with the scopes of
the groups that are open. -/
theorem closeAllGroups_paints {opened : List OpenGroup}
    (h : ∀ group ∈ opened, group.stop ≤ groups.whole.stop) (emission : Emission) :
    Paints (openScopes scopes opened) groups.whole.stop emission
      ((closeAllGroups opened emission).produce groups.whole.stop scopes) := by
  have hpaints := closeGroups_paints scopes groups.whole.stop opened emission
  rwa [openScopes_of_forall_le h, ← closeAllGroups_eq h] at hpaints

namespace Groups

theorem scopesAt_cons (number : Nat) (capture : Capture) (captures : CaptureMap) (position : Nat) :
    groups.scopesAt ((number, capture) :: captures) position =
      (if groups.contains number position then capture.scopes else []) ++
        groups.scopesAt captures position :=
  List.flatMap_cons

/-- In front of all groups no scopes of groups are carried. -/
theorem scopesAt_eq_nil {captures : CaptureMap} {position : Nat}
    (h : ∀ entry ∈ captures, ∀ part, groups.Spans entry.1 part → position < part.start) :
    groups.scopesAt captures position = [] := by
  refine List.flatMap_eq_nil_iff.mpr fun entry hmem => if_neg fun hcontains => ?_
  obtain ⟨part, hpart, hle, _⟩ := contains_iff.mp hcontains
  exact absurd (h entry hmem part hpart) (Nat.not_lt_of_le hle)

/-- A capture without a part in the match, or without scopes, adds nothing anywhere. -/
theorem scopesAt_skip {number : Nat} {capture : Capture} {captures : CaptureMap}
    (h : groups.clipped? number = none ∨ capture.scopes = []) (position : Nat) :
    groups.scopesAt ((number, capture) :: captures) position =
      groups.scopesAt captures position := by
  have hnothing : (if groups.contains number position then capture.scopes else []) = [] := by
    split
    · next hcontains =>
      rcases h with hnone | hscopes
      · obtain ⟨part, hpart, _⟩ := contains_iff.mp hcontains
        cases hnone.symm.trans (clipped?_eq_some_iff.mpr hpart)
      · exact hscopes
    · rfl
  rw [scopesAt_cons, hnothing, List.nil_append]

end Groups

/-- A capture without a part in the match, or without scopes, is passed over. -/
theorem resolveCapture_skip {reenter : Option Reenter} {number : Nat} {capture : Capture}
    (h : groups.clipped? number = none ∨ capture.scopes = [] ∧ capture.rule = none)
    (opened : List OpenGroup) (emission : Emission) :
    resolveCapture reenter line groups scopes number capture opened emission = (opened, emission) := by
  rw [resolveCapture]
  rcases h with hnone | ⟨hscopes, hrule⟩
  · rw [hnone]
  · split
    · rfl
    · rw [hscopes, hrule]
      rfl

/-- Any other capture closes the groups that end before its part, covers the text up to there, and
opens its group inside the one that is innermost there. -/
theorem resolveCapture_open {reenter : Option Reenter} {number : Nat} {capture : Capture} {part : Span}
    (hpart : groups.Spans number part) (hscopes : capture.scopes ≠ []) (hrule : capture.rule = none)
    (opened : List OpenGroup) (emission : Emission) :
    resolveCapture reenter line groups scopes number capture opened emission =
      (⟨part.stop, openScopes scopes opened part.start ++ capture.scopes⟩ ::
          opened.dropWhile (·.stop ≤ part.start),
        (closeGroups part.start opened emission).2.produce part.start
          (openScopes scopes opened part.start)) := by
  have hkept : (capture.scopes.isEmpty && capture.rule.isNone) = false := by
    rw [List.isEmpty_eq_false_iff.mpr hscopes, Bool.false_and]
  rw [resolveCapture, Groups.clipped?_eq_some_iff.mpr hpart]
  dsimp only
  rw [hkept, if_neg Bool.false_ne_true, closeGroups_fst, hrule]
  rfl

/-- A group that has been opened is innermost up to its end; from there on it makes no
difference. -/
theorem openScopes_opened {opened : List OpenGroup} {part : Span} (added : List String)
    (houtside : ∀ group ∈ opened, group.stop ≤ part.start ∨ part.stop ≤ group.stop) {position : Nat}
    (hstart : part.start ≤ position) :
    openScopes scopes (⟨part.stop, openScopes scopes opened part.start ++ added⟩ ::
        opened.dropWhile (·.stop ≤ part.start)) position =
      openScopes scopes opened position ++ if position < part.stop then added else [] := by
  split
  · next hstop =>
    have hsame : openScopes scopes opened position = openScopes scopes opened part.start :=
      openScopes_eq_of_outside (fun group hmem => by have := houtside group hmem; omega) hstart
    rw [openScopes_of_lt hstop, hsame]
  · next hstop =>
    rw [openScopes_of_le (Nat.le_of_not_lt hstop), openScopes_dropWhile opened hstart,
      List.append_nil]

/-- Passing over a capture leaves the others nested in what is open. -/
theorem Nested.tail {entry : Nat × Capture} {rest : CaptureMap} {opened : List OpenGroup}
    {position : Nat} (h : Nested groups (entry :: rest) opened position) :
    Nested groups rest opened position where
  inside := h.inside
  later := fun entry hmem => h.later entry (List.mem_cons_of_mem _ hmem)
  outside := fun entry hmem => h.outside entry (List.mem_cons_of_mem _ hmem)
  laminar := (List.pairwise_cons.mp h.laminar).2

/-- In front of the group of the first capture there are no others that are still to come. -/
theorem Nested.scopesAt_before {number : Nat} {capture : Capture} {rest : CaptureMap}
    {opened : List OpenGroup} {position : Nat}
    (h : Nested groups ((number, capture) :: rest) opened position) {part : Span}
    (hpart : groups.Spans number part) {place : Nat} (hplace : place < part.start) :
    groups.scopesAt ((number, capture) :: rest) place = [] := by
  refine Groups.scopesAt_eq_nil (List.forall_mem_cons.mpr
    ⟨fun part' hpart' => ?_, fun entry hentry part' hpart' => ?_⟩)
  · rwa [hpart'.unique hpart]
  · have hfirst := (List.pairwise_cons.mp h.laminar).1 entry hentry
    exact Nat.lt_of_lt_of_le hplace (hfirst part part' hpart hpart').1

/-- Once the group of the first capture has been opened, the others are nested in what is open
then. -/
theorem Nested.opened {number : Nat} {capture : Capture} {rest : CaptureMap} {opened : List OpenGroup}
    {position : Nat} (h : Nested groups ((number, capture) :: rest) opened position) {part : Span}
    (hpart : groups.Spans number part) (added : List String) :
    Nested groups rest (⟨part.stop, added⟩ :: opened.dropWhile (·.stop ≤ part.start)) part.start := by
  obtain ⟨hfirst, hlaminar⟩ := List.pairwise_cons.mp h.laminar
  have hmem {group : OpenGroup} (hgroup : group ∈ opened.dropWhile (·.stop ≤ part.start)) :
      group ∈ opened := (List.dropWhile_suffix _).subset hgroup
  refine ⟨List.forall_mem_cons.mpr ⟨?_, fun group hgroup => h.inside group (hmem hgroup)⟩,
    fun entry hentry part' hpart' => (hfirst entry hentry part part' hpart hpart').1,
    fun entry hentry part' hpart' => List.forall_mem_cons.mpr
      ⟨(hfirst entry hentry part part' hpart hpart').2, fun group hgroup =>
        h.outside entry (List.mem_cons_of_mem _ hentry) part' hpart' group (hmem hgroup)⟩, hlaminar⟩
  obtain ⟨span, _, _, _, _, rfl⟩ := hpart
  exact Nat.min_le_right _ _

/-- **The rest of a match** carries the scopes of the groups that are open and then those of the
groups that are still to come. By induction on the captures. -/
theorem resolveEach_paints (reenter : Option Reenter) (captures : CaptureMap)
    (hplain : ∀ entry ∈ captures, entry.2.rule = none) (opened : List OpenGroup) (emission : Emission)
    (h : Nested groups captures opened emission.sink.position) :
    Paints (fun position => openScopes scopes opened position ++ groups.scopesAt captures position)
      groups.whole.stop emission
      ((closeAllGroups (resolveEach reenter line groups scopes captures opened emission).1
        (resolveEach reenter line groups scopes captures opened emission).2).produce
          groups.whole.stop scopes) := by
  induction captures generalizing opened emission with
  | nil =>
    exact (closeAllGroups_paints h.inside emission).congr fun position _ _ =>
      (List.append_nil _).symm
  | cons entry rest ih =>
    obtain ⟨number, capture⟩ := entry
    obtain ⟨hrule, hrest⟩ := List.forall_mem_cons.mp hplain
    rw [resolveEach]
    by_cases hskip : groups.clipped? number = none ∨ capture.scopes = [] ∧ capture.rule = none
    · rw [resolveCapture_skip hskip]
      refine (ih hrest opened emission h.tail).congr fun position _ _ => ?_
      rw [Groups.scopesAt_skip (hskip.imp_right And.left)]
    · obtain ⟨hsome, hscopes⟩ := not_or.mp hskip
      obtain ⟨part, hclipped⟩ := Option.ne_none_iff_exists'.mp hsome
      have hpart := Groups.clipped?_eq_some_iff.mp hclipped
      have hcaptureScopes : capture.scopes ≠ [] := fun hnil => hscopes ⟨hnil, hrule⟩
      rw [resolveCapture_open hpart hcaptureScopes hrule]
      dsimp only
      -- the text up to the group, and then the rest of the match
      have hclose := closeGroups_paints scopes part.start opened emission
      generalize (closeGroups part.start opened emission).2.produce part.start
        (openScopes scopes opened part.start) = next at hclose ⊢
      have hposition : next.sink.position = part.start := by
        rw [hclose.position]
        exact Nat.max_eq_right (h.later _ List.mem_cons_self part hpart)
      have hnested : Nested groups rest (⟨part.stop, openScopes scopes opened part.start ++
          capture.scopes⟩ :: opened.dropWhile (·.stop ≤ part.start)) next.sink.position := by
        rw [hposition]
        exact h.opened hpart _
      have hstop : part.start ≤ groups.whole.stop := by
        obtain ⟨span, _, _, _, hlt, rfl⟩ := hpart
        exact Nat.le_of_lt hlt
      have hbefore : ∀ position, emission.sink.position ≤ position → position < part.start →
          openScopes scopes opened position = openScopes scopes opened position ++
            groups.scopesAt ((number, capture) :: rest) position := by
        intro position _ hlt
        rw [h.scopesAt_before hpart hlt, List.append_nil]
      have hboth := (hclose.congr hbefore).trans ((ih hrest _ next hnested).congr ?_)
      · rwa [Nat.max_eq_right hstop] at hboth
      · intro position hfrom _
        rw [hposition] at hfrom
        rw [openScopes_opened capture.scopes (h.outside _ List.mem_cons_self part hpart) hfrom,
          Groups.scopesAt_cons, List.append_assoc]
        simp only [hpart.contains_iff, hfrom, true_and]

/-- **A match carries its own scopes and those of the groups that contain each place.** The groups
are laminar and have no rules of their own, and the line has been covered up to the match. Then the
bytes of the match that are visible are covered, and nothing else, each with the scopes of the match
followed by those of all groups that contain it. -/
theorem resolveCaptures_bytes (reenter : Option Reenter) (line : Line) (groups : Groups)
    (captures : CaptureMap) (scopes : List String) (emission : Emission)
    (hplain : ∀ entry ∈ captures, entry.2.rule = none)
    (hlaminar : captures.Pairwise fun first second => groups.Laminar first.1 second.1)
    (hposition : emission.sink.position = groups.whole.start) :
    let resolved := resolveCaptures reenter line groups captures scopes emission
    resolved.sink.bytes = emission.sink.bytes ++
        emission.sink.stretch groups.whole.start groups.whole.stop
          (fun position => scopes ++ groups.scopesAt captures position) ∧
      (∀ position, groups.whole.start ≤ position → position < groups.whole.stop →
        position < emission.sink.visible →
        ∃ token ∈ resolved.sink.tokens.toList, token.start ≤ emission.sink.lineStart + position ∧
          emission.sink.lineStart + position < token.stop ∧
          token.scopes = scopes ++ groups.scopesAt captures position) ∧
      resolved.sink.position = max groups.whole.start groups.whole.stop ∧
      resolved.diagnostics = emission.diagnostics := by
  have hnested : Nested groups captures [] emission.sink.position := by
    refine ⟨by simp, fun entry _ part hpart => ?_, by simp, hlaminar⟩
    obtain ⟨span, _, _, hfrom, _, rfl⟩ := hpart
    rwa [hposition]
  have hpaints := @resolveEach_paints line groups scopes reenter captures hplain [] emission hnested
  have hbytes := hpaints.bytes
  rw [hposition] at hbytes
  refine ⟨hbytes, fun position hstart hstop hvisible => ?_, ?_, hpaints.diagnostics⟩
  · refine Sink.mem_bytes.mp ?_
    rw [resolveCaptures, hbytes]
    exact List.mem_append_right _ (Sink.mem_stretch hstart hstop hvisible)
  · rw [← hposition]
    exact hpaints.position

/-- A match `abcd` with two groups on `abc`, an empty one, one on `b` inside them, one that starts
at `d` and goes on behind the match, and one that takes no part. -/
def nestedGroups : Groups :=
  ⟨[some ⟨1, 5⟩, some ⟨1, 4⟩, some ⟨1, 4⟩, some ⟨2, 2⟩, some ⟨2, 3⟩, some ⟨4, 7⟩, none]⟩

/-- Scopes for all of them. -/
def nestedCaptures : CaptureMap :=
  [(1, { scopes := ["outer"] }), (2, { scopes := ["twin"] }), (3, { scopes := ["empty"] }),
    (4, { scopes := ["inner"] }), (5, { scopes := ["ahead"] }), (6, { scopes := ["absent"] })]

/-- A line whose first byte has been covered. -/
def coveredLine : Emission where
  sink := { merge := true, tokens := #[⟨10, 1, ["m"]⟩], lineStart := 10, visible := 7, position := 1 }

/-- Each byte carries the scopes of the groups around it. -/
theorem resolveCaptures_bytes_nested :
    (∀ entry ∈ nestedCaptures, entry.2.rule = none) ∧
      (nestedCaptures.Pairwise fun first second => nestedGroups.Laminar first.1 second.1) ∧
      coveredLine.sink.position = nestedGroups.whole.start ∧
      (resolveCaptures none (Line.ofString "xabcdyz") nestedGroups nestedCaptures ["m"]
          coveredLine).sink.bytes =
        [(10, ["m"]), (11, ["m", "outer", "twin"]), (12, ["m", "outer", "twin", "inner"]),
          (13, ["m", "outer", "twin"]), (14, ["m", "ahead"])] ∧
      (resolveCaptures none (Line.ofString "xabcdyz") nestedGroups nestedCaptures ["m"]
          coveredLine).sink.position = 5 := by
  have hplain : ∀ entry ∈ nestedCaptures, entry.2.rule = none := by decide
  have hlaminar : nestedCaptures.Pairwise fun first second =>
      nestedGroups.Laminar first.1 second.1 := by decide
  have hposition : coveredLine.sink.position = nestedGroups.whole.start := rfl
  obtain ⟨hbytes, _, hend, _⟩ := resolveCaptures_bytes none (Line.ofString "xabcdyz") nestedGroups
    nestedCaptures ["m"] coveredLine hplain hlaminar hposition
  exact ⟨hplain, hlaminar, hposition, hbytes.trans (by decide), hend.trans (by decide)⟩

end

end ScopeScanner
