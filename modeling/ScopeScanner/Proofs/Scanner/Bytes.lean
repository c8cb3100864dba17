import ScopeScanner.Proofs.Scanner.Tiling
import ScopeScanner.Scanner.Session

/-!
# What each byte carries

Tokens with equal scopes may stand side by side or be joined; what their bytes carry is the same. So
the effect of a sink is said byte by byte:

* **`Sink.bytes_produce`**: covering the line up to a position adds the bytes from the present
  position up to there, as far as the line is visible, with the scopes that are given.
* **`Emission.Paints`**: covering the line up to a position in several calls, with scopes that
  depend on the place. `Emission.Paints.trans` puts two such stretches together.
-/

namespace ScopeScanner

/-- The bytes that a token covers, with the scopes that they carry. -/
def Token.bytes (token : Token) : List (Nat × List String) :=
  (List.range' token.start token.length).map (·, token.scopes)

/-- What the bytes of a stretch carry if their scopes depend on the place. -/
theorem mem_carried {start length place : Nat} {scopes : List String} {carried : Nat → List String} :
    (place, scopes) ∈ (List.range' start length).map (fun place => (place, carried place)) ↔
      (start ≤ place ∧ place < start + length) ∧ scopes = carried place := by
  simp only [List.mem_map, List.mem_range'_1, Prod.mk.injEq]
  constructor
  · rintro ⟨_, hbounds, rfl, rfl⟩
    exact ⟨hbounds, rfl⟩
  · rintro ⟨hbounds, rfl⟩
    exact ⟨place, hbounds, rfl, rfl⟩

/-- A byte of a token carries the scopes of the token. -/
theorem Token.mem_bytes {token : Token} {place : Nat} {scopes : List String} :
    (place, scopes) ∈ token.bytes ↔
      (token.start ≤ place ∧ place < token.stop) ∧ scopes = token.scopes :=
  mem_carried

namespace Sink

/-- The bytes that have been covered, with the scopes that they carry. -/
def bytes (sink : Sink) : List (Nat × List String) :=
  sink.tokens.toList.flatMap Token.bytes

/-- The bytes between two positions of the present line, as far as it is visible, with the scopes
that are given for each position. -/
def stretch (sink : Sink) (start stop : Nat) (scopes : Nat → List String) :
    List (Nat × List String) :=
  (List.range' start (min stop sink.visible - start)).map fun position =>
    (sink.lineStart + position, scopes position)

/-- A byte carries the scopes of a token that covers it. -/
theorem mem_bytes {sink : Sink} {position : Nat} {scopes : List String} :
    (position, scopes) ∈ sink.bytes ↔
      ∃ token ∈ sink.tokens.toList, token.start ≤ position ∧ position < token.stop ∧
        token.scopes = scopes := by
  rw [bytes, List.mem_flatMap]
  constructor
  · rintro ⟨token, hmem, hbytes⟩
    obtain ⟨⟨hstart, hstop⟩, rfl⟩ := Token.mem_bytes.mp hbytes
    exact ⟨token, hmem, hstart, hstop, rfl⟩
  · rintro ⟨token, hmem, hstart, hstop, rfl⟩
    exact ⟨token, hmem, Token.mem_bytes.mpr ⟨⟨hstart, hstop⟩, rfl⟩⟩

theorem mem_stretch {sink : Sink} {start stop position : Nat} {scopes : Nat → List String}
    (hstart : start ≤ position) (hstop : position < stop) (hvisible : position < sink.visible) :
    (sink.lineStart + position, scopes position) ∈ sink.stretch start stop scopes :=
  List.mem_map.mpr ⟨position, List.mem_range'_1.mpr (by omega), rfl⟩

/-- Two sinks on one line have the same stretches. -/
theorem stretch_congr_sink {sink sink' : Sink} (hstart : sink'.lineStart = sink.lineStart)
    (hvisible : sink'.visible = sink.visible) (start stop : Nat) (scopes : Nat → List String) :
    sink'.stretch start stop scopes = sink.stretch start stop scopes := by
  rw [stretch, stretch, hstart, hvisible]

theorem stretch_congr (sink : Sink) {start stop : Nat} {scopes scopes' : Nat → List String}
    (h : ∀ position, start ≤ position → position < stop → scopes position = scopes' position) :
    sink.stretch start stop scopes = sink.stretch start stop scopes' := by
  refine List.map_congr_left fun position hmem => ?_
  have hbounds := List.mem_range'_1.mp hmem
  rw [h position hbounds.1 (by omega)]

/-- Two stretches, one after the other, are one. -/
theorem stretch_append (sink : Sink) (start middle stop : Nat) (scopes : Nat → List String) :
    sink.stretch start middle scopes ++ sink.stretch (max start middle) stop scopes =
      sink.stretch start (max middle stop) scopes := by
  rw [stretch, stretch, stretch, ← List.map_append]
  congr 1
  rcases Nat.lt_or_ge (max start middle) (min stop sink.visible) with hlt | hge
  · have hnext : max start middle = start + (min middle sink.visible - start) := by omega
    rw [hnext, List.range'_append_1]
    congr 1
    omega
  · have hnone : min stop sink.visible - max start middle = 0 := by omega
    rw [hnone, List.range'_zero, List.append_nil]
    congr 1
    omega

/-- Whether a token is put behind the others or joined to the last one, its bytes are added. -/
theorem bytes_add (sink : Sink) (token : Token) : (sink.add token).bytes = sink.bytes ++ token.bytes := by
  have hpush : (sink.tokens.push token).toList.flatMap Token.bytes = sink.bytes ++ token.bytes := by
    simp [bytes]
  rw [bytes, add]
  split
  · next last hlast =>
    split
    · next hjoins =>
      simp only [Bool.and_eq_true, decide_eq_true_eq] at hjoins
      obtain ⟨⟨_, hstop⟩, hscopes⟩ := hjoins
      rw [← Array.getLast?_toList] at hlast
      obtain ⟨before, hbefore⟩ := List.getLast?_eq_some_iff.mp hlast
      have hlonger : ({ last with length := last.length + token.length } : Token).bytes =
          last.bytes ++ token.bytes := by
        simp only [Token.bytes]
        rw [← hstop, Token.stop, ← hscopes, ← List.map_append, List.range'_append_1]
      simp [bytes, hbefore, hlonger]
    · exact hpush
  · exact hpush

/-- **What a call of the sink adds.** -/
theorem bytes_produce (sink : Sink) (stop : Nat) (scopes : List String) :
    (sink.produce stop scopes).bytes =
      sink.bytes ++ sink.stretch sink.position stop fun _ => scopes := by
  rw [produce]
  split
  · next hle =>
    have hnone : min stop sink.visible - sink.position = 0 := by omega
    rw [stretch, hnone, List.range'_zero, List.map_nil, List.append_nil]
  · next hlt =>
    dsimp only
    split
    · -- nothing visible is covered
      next hle =>
      have hnone : min stop sink.visible - sink.position = 0 := by omega
      rw [stretch, hnone, List.range'_zero, List.map_nil, List.append_nil]
      rfl
    · next hgrow =>
      have hfirst : min sink.position sink.visible = sink.position := by omega
      rw [bytes_add, hfirst]
      congr 1
      rw [Token.bytes, stretch, ← List.map_add_range', List.map_map]
      rfl

end Sink

namespace Emission

/-- One emission comes from another by covering the line up to a position, with scopes that depend
on the place. Nothing else changes. -/
structure Paints (scopes : Nat → List String) (stop : Nat) (emission emission' : Emission) : Prop where
  bytes : emission'.sink.bytes =
    emission.sink.bytes ++ emission.sink.stretch emission.sink.position stop scopes
  position : emission'.sink.position = max emission.sink.position stop
  lineStart : emission'.sink.lineStart = emission.sink.lineStart
  visible : emission'.sink.visible = emission.sink.visible
  diagnostics : emission'.diagnostics = emission.diagnostics
  session : emission'.session = emission.session

namespace Paints

variable {scopes scopes' : Nat → List String} {middle stop : Nat} {emission emission' emission'' : Emission}

/-- A single call. -/
theorem produce (emission : Emission) (stop : Nat) (scopes : List String) :
    Paints (fun _ => scopes) stop emission (emission.produce stop scopes) where
  bytes := Sink.bytes_produce _ _ _
  position := Sink.produce_position _ _ _
  lineStart := Sink.produce_lineStart _ _ _
  visible := Sink.produce_visible _ _ _
  diagnostics := rfl
  session := rfl

/-- Only the scopes given for the places in question matter. -/
theorem congr (h : Paints scopes stop emission emission')
    (hscopes : ∀ position, emission.sink.position ≤ position → position < stop →
      scopes position = scopes' position) : Paints scopes' stop emission emission' where
  bytes := by rw [h.bytes, Sink.stretch_congr _ hscopes]
  position := h.position
  lineStart := h.lineStart
  visible := h.visible
  diagnostics := h.diagnostics
  session := h.session

/-- Covering the line up to one position and then up to another. -/
theorem trans (h : Paints scopes middle emission emission')
    (h' : Paints scopes stop emission' emission'') :
    Paints scopes (max middle stop) emission emission'' where
  bytes := by
    rw [h'.bytes, h.bytes, h.position, Sink.stretch_congr_sink h.lineStart h.visible,
      List.append_assoc, Sink.stretch_append]
  position := by rw [h'.position, h.position, Nat.max_assoc]
  lineStart := h'.lineStart.trans h.lineStart
  visible := h'.visible.trans h.visible
  diagnostics := h'.diagnostics.trans h.diagnostics
  session := h'.session.trans h.session

end Paints

end Emission

end ScopeScanner
