import Mathlib.Data.List.Forall2
import Mathlib.Data.List.Induction
import ScopeScanner.Proofs.Scanner.Bytes

/-!
# What a sink makes of its calls

A sink is told to begin lines and to cover the present line up to positions, in any order and with any
arguments. What it has collected then is said of the calls alone, whether it merges tokens or not:

* **`Sink.Holds.produce`**: a call that covers the line up to a position leaves the first call that
  reaches beyond a byte in charge of this byte.
* **`Sink.run_lines`**: so every line yields a row of tokens that tiles the line as far as it is visible
  and has been covered, each byte with the scopes of the first call that reaches beyond it. The rows
  stand one behind the other, and later lines do not change them.
-/

namespace ScopeScanner

namespace Sink

/-- A call that covers the present line up to a position. -/
structure Cover where
  stop : Nat
  scopes : List String

/-- A call of a sink. -/
inductive Request where
  | beginLine (lineStart visible : Nat)
  | produce (cover : Cover)

/-- The sink after a call. -/
def answer (sink : Sink) : Request → Sink
  | .beginLine lineStart visible => sink.beginLine lineStart visible
  | .produce cover => sink.produce cover.stop cover.scopes

/-- The sink after several calls. -/
def run (sink : Sink) (requests : List Request) : Sink :=
  requests.foldl answer sink

/-! ## Lines and the calls that cover them -/

/-- A line with the calls that cover it. -/
structure CoveredLine where
  lineStart : Nat := 0
  visible : Nat := 0
  covers : List Cover := []

namespace CoveredLine

/-- The line with one more call. -/
def more (line : CoveredLine) (cover : Cover) : CoveredLine :=
  { line with covers := line.covers ++ [cover] }

/-- The largest position up to which the line is to be covered. -/
def reach (line : CoveredLine) : Nat :=
  (line.covers.map Cover.stop).foldl max 0

/-- The first call that reaches beyond a position. -/
def first? (line : CoveredLine) (position : Nat) : Option Cover :=
  line.covers.find? (position < ·.stop)

/-- The scopes of the first call that reaches beyond a position. -/
def scopesAt (line : CoveredLine) (position : Nat) : List String :=
  (line.first? position).elim [] Cover.scopes

/-- The tokens of a line tile it as far as it is visible and is to be covered, and each byte carries the
scopes of the first call that reaches beyond it. -/
structure Yields (line : CoveredLine) (tokens : List Token) : Prop where
  tiles : Tiles line.lineStart tokens (line.lineStart + min line.visible line.reach)
  carries : ∀ position < line.visible, ∀ scopes,
    (∃ token ∈ tokens, token.start ≤ line.lineStart + position ∧
      line.lineStart + position < token.stop ∧ token.scopes = scopes) ↔
    (line.first? position).map Cover.scopes = some scopes

variable {line : CoveredLine} {cover : Cover} {position : Nat}

@[simp] theorem reach_more (line : CoveredLine) (cover : Cover) :
    (line.more cover).reach = max line.reach cover.stop := by
  simp [reach, more]

/-- A call reaches beyond every position in front of the largest. -/
theorem isSome_first?_iff (line : CoveredLine) (position : Nat) :
    (line.first? position).isSome ↔ position < line.reach := by
  obtain ⟨lineStart, visible, covers⟩ := line
  induction covers using List.reverseRecOn with
  | nil => simp [first?, reach]
  | append_singleton covers cover ih =>
    have hreach := reach_more { lineStart, visible, covers } cover
    simp only [first?, more, List.find?_append, Option.isSome_or, Bool.or_eq_true] at ih hreach ⊢
    rw [hreach, ih]
    simp only [List.find?_singleton, decide_eq_true_eq]
    split
    · simp; omega
    · simp; omega

/-- Where a call has reached already, one more changes nothing. -/
theorem scopesAt_more_of_lt (h : position < line.reach) :
    (line.more cover).scopesAt position = line.scopesAt position := by
  obtain ⟨found, hfound⟩ := Option.isSome_iff_exists.mp ((line.isSome_first?_iff position).mpr h)
  have hmore : (line.more cover).first? position = some found := by
    rw [first?] at hfound
    rw [first?, more, List.find?_append, hfound, Option.some_or]
  rw [scopesAt, scopesAt, hmore, hfound]

/-- Where none has reached, one more that does is the first. -/
theorem scopesAt_more_of_le (h : line.reach ≤ position) (hstop : position < cover.stop) :
    (line.more cover).scopesAt position = cover.scopes := by
  have hnone : line.first? position = none := by
    rw [← Option.not_isSome_iff_eq_none, isSome_first?_iff]
    omega
  have hmore : (line.more cover).first? position = some cover := by
    rw [first?] at hnone
    rw [first?, more, List.find?_append, hnone, Option.none_or]
    simp [hstop]
  rw [scopesAt, hmore]
  rfl

end CoveredLine

/-- The lines that calls cover, beginning with the present one. -/
def linesFrom (line : CoveredLine) : List Request → List CoveredLine
  | [] => [line]
  | .beginLine lineStart visible :: rest => line :: linesFrom { lineStart, visible } rest
  | .produce cover :: rest => linesFrom (line.more cover) rest

/-- The lines that the calls of a new sink cover. Before the first line begins nothing is visible. -/
def linesOf (requests : List Request) : List CoveredLine :=
  linesFrom {} requests

/-! ## What each call keeps -/

/-- A sink is at a line behind earlier tokens: the line has been tiled and its bytes carry the scopes of
the first calls that reach beyond them. -/
structure Holds (earlier : List Token) (line : CoveredLine) (sink : Sink) : Prop where
  lineStart : sink.lineStart = line.lineStart
  visible : sink.visible = line.visible
  position : sink.position = line.reach
  tiled : sink.Tiled (fun _ => True) earlier
  bytes : sink.bytes = earlier.flatMap Token.bytes ++ sink.stretch 0 line.reach line.scopesAt

namespace Holds

variable {earlier : List Token} {line : CoveredLine} {sink : Sink}

/-- A new sink is at a line of which nothing is visible. -/
theorem new (merge : Bool) : Holds [] {} { merge } where
  lineStart := rfl
  visible := rfl
  position := rfl
  tiled := ⟨rfl, [], rfl, rfl, fun _ _ => trivial⟩
  bytes := rfl

/-- A line that begins has not been covered. -/
theorem beginLine (sink : Sink) (lineStart visible : Nat) :
    Holds sink.tokens.toList { lineStart, visible } (sink.beginLine lineStart visible) where
  lineStart := rfl
  visible := rfl
  position := rfl
  tiled := .beginLine lineStart visible
  bytes := by simp [Sink.bytes, Sink.beginLine, stretch, CoveredLine.reach]

/-- **One more call covers what no call before it has reached.** -/
theorem produce (h : sink.Holds earlier line) (cover : Cover) :
    (sink.produce cover.stop cover.scopes).Holds earlier (line.more cover) where
  lineStart := (sink.produce_lineStart _ _).trans h.lineStart
  visible := (sink.produce_visible _ _).trans h.visible
  position := by rw [produce_position, h.position, CoveredLine.reach_more]
  tiled := h.tiled.produce cover.stop cover.scopes trivial
  bytes := by
    rw [bytes_produce, h.bytes, h.position, List.append_assoc,
      stretch_congr_sink (sink.produce_lineStart _ _) (sink.produce_visible _ _),
      CoveredLine.reach_more]
    congr 1
    calc sink.stretch 0 line.reach line.scopesAt ++
          sink.stretch line.reach cover.stop (fun _ => cover.scopes)
      _ = sink.stretch 0 line.reach (line.more cover).scopesAt ++
          sink.stretch (max 0 line.reach) cover.stop (line.more cover).scopesAt := by
        rw [Nat.zero_max]
        congr 1
        · exact stretch_congr _ fun _ _ hlt => (CoveredLine.scopesAt_more_of_lt hlt).symm
        · exact stretch_congr _ fun _ hle hlt => (CoveredLine.scopesAt_more_of_le hle hlt).symm
      _ = sink.stretch 0 (max line.reach cover.stop) (line.more cover).scopesAt :=
        stretch_append _ _ _ _ _

/-- The tokens behind the earlier ones are those that the line yields. -/
theorem exists_yields (h : sink.Holds earlier line) :
    ∃ tokens, sink.tokens.toList = earlier ++ tokens ∧ line.Yields tokens := by
  obtain ⟨_, tokens, htokens, htiles, _⟩ := h.tiled
  have hbytes : tokens.flatMap Token.bytes = sink.stretch 0 line.reach line.scopesAt := by
    have hall := h.bytes
    rw [Sink.bytes, htokens, List.flatMap_append] at hall
    exact List.append_cancel_left hall
  rw [h.lineStart, h.position, h.visible, Nat.min_comm] at htiles
  refine ⟨tokens, htokens, htiles, fun position hvisible scopes => ?_⟩
  -- a token with this byte and these scopes is a byte that is carried, and so one of the stretch
  have hcarried : (∃ token ∈ tokens, token.start ≤ line.lineStart + position ∧
      line.lineStart + position < token.stop ∧ token.scopes = scopes) ↔
      (line.lineStart + position, scopes) ∈ sink.stretch 0 line.reach line.scopesAt := by
    rw [← hbytes, List.mem_flatMap]
    refine exists_congr fun token => and_congr_right fun _ => ?_
    rw [Token.mem_bytes, and_assoc, eq_comm (a := scopes)]
  have hstretch : (line.lineStart + position, scopes) ∈ sink.stretch 0 line.reach line.scopesAt ↔
      position < line.reach ∧ scopes = line.scopesAt position := by
    rw [stretch, h.lineStart, h.visible]
    simp only [List.mem_map, List.mem_range'_1, Prod.mk.injEq]
    constructor
    · rintro ⟨place, hplace, hsame, rfl⟩
      obtain rfl : place = position := by omega
      exact ⟨by omega, rfl⟩
    · rintro ⟨hreach, rfl⟩
      exact ⟨position, by omega, rfl, rfl⟩
  rw [hcarried, hstretch, ← line.isSome_first?_iff, CoveredLine.scopesAt]
  cases line.first? position with
  | none => simp
  | some cover => simp [eq_comm]

end Holds

/-! ## What all calls come to -/

theorem run_append (sink : Sink) (first second : List Request) :
    sink.run (first ++ second) = (sink.run first).run second :=
  List.foldl_append

/-- By induction on the calls: one that covers the present line keeps the sink at it, and one that begins
a line puts what the present one has yielded behind the earlier tokens. -/
theorem Holds.run {earlier : List Token} {line : CoveredLine} {sink : Sink}
    (h : sink.Holds earlier line) (requests : List Request) :
    (∃ rows, (sink.run requests).tokens.toList = earlier ++ rows.flatten ∧
      List.Forall₂ CoveredLine.Yields (linesFrom line requests) rows) ∧
    ((linesFrom line requests).getLast?.map CoveredLine.reach) =
      some (sink.run requests).position := by
  induction requests generalizing earlier line sink with
  | nil =>
    obtain ⟨tokens, htokens, hyields⟩ := h.exists_yields
    refine ⟨⟨[tokens], ?_, .cons hyields .nil⟩, ?_⟩
    · rw [List.flatten_singleton]
      exact htokens
    · exact congrArg some h.position.symm
  | cons request rest ih =>
    cases request with
    | produce cover => exact ih (h.produce cover)
    | beginLine lineStart visible =>
      obtain ⟨tokens, htokens, hyields⟩ := h.exists_yields
      obtain ⟨⟨rows, hrows, hall⟩, hposition⟩ := ih (.beginLine sink lineStart visible)
      refine ⟨⟨tokens :: rows, ?_, .cons hyields hall⟩, ?_⟩
      · rw [List.flatten_cons, ← List.append_assoc, ← htokens]
        exact hrows
      · rw [linesFrom, List.getLast?_cons]
        cases hlast : (linesFrom { lineStart, visible } rest).getLast? with
        | none =>
          rw [hlast] at hposition
          cases hposition
        | some last =>
          rw [hlast] at hposition
          exact hposition

/-- **What a sink has collected after any calls.** There is a row of tokens for each line, and they stand
one behind the other: each tiles its line up to the largest position that the calls on this line have
asked for, as far as it is visible, and each byte carries the scopes of the first of these calls that
reaches beyond it. The position is the largest that was asked for on the present line, and once another
line begins the tokens of a line stay as they are. -/
theorem run_lines (merge : Bool) (requests : List Request) :
    let sink := ({ merge } : Sink).run requests
    (∃ rows, sink.tokens.toList = rows.flatten ∧
      List.Forall₂ CoveredLine.Yields (linesOf requests) rows) ∧
    (linesOf requests).getLast?.map CoveredLine.reach = some sink.position ∧
    ∀ before lineStart visible after, requests = before ++ .beginLine lineStart visible :: after →
      (({ merge } : Sink).run before).tokens.toList <+: sink.tokens.toList := by
  obtain ⟨hrows, hposition⟩ := (Holds.new merge).run requests
  refine ⟨hrows, hposition, ?_⟩
  rintro before lineStart visible after rfl
  obtain ⟨⟨rows, hlater, _⟩, _⟩ :=
    (Holds.beginLine (({ merge } : Sink).run before) lineStart visible).run after
  rw [run_append]
  exact ⟨rows.flatten, hlater.symm⟩

/-- Calls that cover a line beyond its visible part and back again, and a call on the next line. -/
def crossing : List Request :=
  [.beginLine 0 3, .produce ⟨2, ["a"]⟩, .produce ⟨1, ["b"]⟩, .produce ⟨5, ["a"]⟩, .beginLine 3 2,
    .produce ⟨4, ["a"]⟩]

theorem run_lines_crossing :
    (({ merge := true } : Sink).run (crossing.take 4)).tokens.toList <+:
        (({ merge := true } : Sink).run crossing).tokens.toList ∧
      (({ merge := true } : Sink).run crossing).tokens.toList = [⟨0, 3, ["a"]⟩, ⟨3, 2, ["a"]⟩] := by
  obtain ⟨_, _, hearlier⟩ := run_lines true crossing
  exact ⟨hearlier (crossing.take 4) 3 2 [.produce ⟨4, ["a"]⟩] rfl, by decide⟩

end Sink

end ScopeScanner
