import ScopeScanner.Scanner.Token

/-!
# Tilings

A row of tokens tiles a stretch of the buffer if the tokens are not empty, the first starts where the
stretch does, each other one where the one before ended, and the last ends where the stretch does.

A sink keeps its present line tiled up to its position, as far as the line is visible
(`Sink.Tiled`). Every call of `Sink.produce` keeps it so, whatever position is asked for
(`Sink.Tiled.produce`), and leaves the tokens of earlier lines alone.
-/

namespace ScopeScanner

/-- The tokens tile the buffer from `start` to `stop`. -/
def Tiles : (start : Nat) → List Token → (stop : Nat) → Prop
  | start, [], stop => start = stop
  | start, token :: rest, stop => token.start = start ∧ 0 < token.length ∧ Tiles token.stop rest stop

namespace Tiles

theorem append {start middle stop : Nat} {first second : List Token}
    (hfirst : Tiles start first middle) (hsecond : Tiles middle second stop) :
    Tiles start (first ++ second) stop := by
  induction first generalizing start with
  | nil =>
    rw [Tiles] at hfirst
    rw [hfirst]
    exact hsecond
  | cons token rest ih =>
    obtain ⟨hstart, hlength, hrest⟩ := hfirst
    exact ⟨hstart, hlength, ih hrest⟩

/-- A tiling can be cut between any two of its tokens. -/
theorem of_append {start stop : Nat} {first second : List Token}
    (h : Tiles start (first ++ second) stop) :
    ∃ middle, Tiles start first middle ∧ Tiles middle second stop := by
  induction first generalizing start with
  | nil => exact ⟨start, rfl, h⟩
  | cons token rest ih =>
    obtain ⟨hstart, hlength, hrest⟩ := h
    obtain ⟨middle, hfirst, hsecond⟩ := ih hrest
    exact ⟨middle, ⟨hstart, hlength, hfirst⟩, hsecond⟩

/-- One token tiles the stretch from its start to its end. -/
theorem singleton {token : Token} (h : 0 < token.length) : Tiles token.start [token] token.stop :=
  ⟨rfl, h, rfl⟩

theorem start_le_stop {start stop : Nat} {tokens : List Token} (h : Tiles start tokens stop) :
    start ≤ stop := by
  induction tokens generalizing start with
  | nil => exact Nat.le_of_eq h
  | cons token rest ih =>
    obtain ⟨hstart, _, hrest⟩ := h
    have hle := ih hrest
    rw [Token.stop] at hle
    omega

/-- Every token of a tiling lies in the stretch. -/
theorem mem_bounds {start stop : Nat} {tokens : List Token} {token : Token}
    (h : Tiles start tokens stop) (hmem : token ∈ tokens) :
    start ≤ token.start ∧ token.stop ≤ stop := by
  obtain ⟨before, after, rfl⟩ := List.append_of_mem hmem
  obtain ⟨middle, hbefore, hstart, _, hafter⟩ := h.of_append
  have hle := hbefore.start_le_stop
  have hge := hafter.start_le_stop
  omega

/-- No token of a tiling is empty. -/
theorem start_lt_stop {start stop : Nat} {tokens : List Token} {token : Token}
    (h : Tiles start tokens stop) (hmem : token ∈ tokens) : token.start < token.stop := by
  obtain ⟨before, after, rfl⟩ := List.append_of_mem hmem
  obtain ⟨_, _, _, hlength, _⟩ := h.of_append
  rw [Token.stop]
  omega

/-- Tokens start where the stretch starts or another token ends. -/
theorem start_of_stops {Edge : Nat → Prop} {start stop : Nat} {tokens : List Token}
    (h : Tiles start tokens stop) (hstart : Edge start) (hstops : ∀ token ∈ tokens, Edge token.stop) :
    ∀ token ∈ tokens, Edge token.start := by
  induction tokens generalizing start with
  | nil => intro token hmem; cases hmem
  | cons first rest ih =>
    obtain ⟨hfirst, _, hrest⟩ := h
    intro token hmem
    rcases List.mem_cons.mp hmem with rfl | hmem
    · rw [hfirst]
      exact hstart
    · exact ih hrest (hstops first List.mem_cons_self)
        (fun token hmem => hstops token (List.mem_cons_of_mem _ hmem)) token hmem

/-- Nothing is tiled by no tokens, and only nothing. -/
theorem nil_iff {start stop : Nat} {tokens : List Token} (h : Tiles start tokens stop) :
    tokens = [] ↔ start = stop := by
  cases tokens with
  | nil => exact ⟨fun _ => h, fun _ => rfl⟩
  | cons token rest =>
    obtain ⟨hstart, hlength, hrest⟩ := h
    have hle := hrest.start_le_stop
    rw [Token.stop] at hle
    constructor
    · intro hnil; cases hnil
    · intro heq; omega

end Tiles

namespace Sink

/-- The tokens of the present line follow those of earlier lines and tile the line up to the
position of the sink, as far as the line is visible. Each of them ends on an edge. -/
def Tiled (Edge : Nat → Prop) (earlier : List Token) (sink : Sink) : Prop :=
  sink.earlier = earlier.length ∧
    ∃ current, sink.tokens.toList = earlier ++ current ∧
      Tiles sink.lineStart current (sink.lineStart + min sink.position sink.visible) ∧
      ∀ token ∈ current, Edge token.stop

/-- What `add` does to the row of tokens: it grows by the token, or the last one takes it in. -/
theorem toList_add (sink : Sink) (token : Token) :
    (sink.add token).tokens.toList = sink.tokens.toList ++ [token] ∨
      ∃ before last, sink.tokens.toList = before ++ [last] ∧ sink.earlier < sink.tokens.size ∧
        last.stop = token.start ∧
        (sink.add token).tokens.toList =
          before ++ [{ last with length := last.length + token.length }] := by
  unfold add
  split
  · next last hlast =>
    split
    · next hmerge =>
      simp only [Bool.and_eq_true, decide_eq_true_eq] at hmerge
      obtain ⟨⟨⟨_, hsize⟩, hstop⟩, _⟩ := hmerge
      rw [← Array.getLast?_toList] at hlast
      obtain ⟨before, hbefore⟩ := List.getLast?_eq_some_iff.mp hlast
      refine Or.inr ⟨before, last, hbefore, hsize, hstop, ?_⟩
      simp [hbefore]
    · exact Or.inl (Array.toList_push)
  · exact Or.inl (Array.toList_push)

/-- What holds of all tokens and of one more holds of all tokens once that is added, if it is not lost
when a token is made longer. -/
theorem forall_mem_add {Good : Token → Prop} {sink : Sink} {token : Token}
    (h : ∀ other ∈ sink.tokens.toList, Good other) (htoken : Good token)
    (hlonger : ∀ last, Good last → last.stop = token.start →
      Good { last with length := last.length + token.length }) :
    ∀ other ∈ (sink.add token).tokens.toList, Good other := by
  intro other hmem
  rcases sink.toList_add token with hpush | ⟨before, last, hconcat, _, hjoin, hextend⟩
  · rw [hpush] at hmem
    rcases List.mem_append.mp hmem with hmem | hmem
    · exact h other hmem
    · rwa [List.mem_singleton.mp hmem]
  · rw [hconcat] at h
    rw [hextend] at hmem
    rcases List.mem_append.mp hmem with hmem | hmem
    · exact h other (List.mem_append_left _ hmem)
    · rw [List.mem_singleton.mp hmem]
      exact hlonger last (h last (by simp)) hjoin

@[simp] theorem add_merge (sink : Sink) (token : Token) : (sink.add token).merge = sink.merge := by
  unfold add
  repeat' split
  all_goals rfl

@[simp] theorem add_earlier (sink : Sink) (token : Token) :
    (sink.add token).earlier = sink.earlier := by
  unfold add
  repeat' split
  all_goals rfl

@[simp] theorem add_lineStart (sink : Sink) (token : Token) :
    (sink.add token).lineStart = sink.lineStart := by
  unfold add
  repeat' split
  all_goals rfl

@[simp] theorem add_visible (sink : Sink) (token : Token) :
    (sink.add token).visible = sink.visible := by
  unfold add
  repeat' split
  all_goals rfl

@[simp] theorem add_position (sink : Sink) (token : Token) :
    (sink.add token).position = sink.position := by
  unfold add
  repeat' split
  all_goals rfl

@[simp] theorem produce_merge (sink : Sink) (stop : Nat) (scopes : List String) :
    (sink.produce stop scopes).merge = sink.merge := by
  unfold produce
  split
  · rfl
  · dsimp only
    split
    · rfl
    · exact add_merge _ _

@[simp] theorem produce_lineStart (sink : Sink) (stop : Nat) (scopes : List String) :
    (sink.produce stop scopes).lineStart = sink.lineStart := by
  unfold produce
  split
  · rfl
  · dsimp only
    split
    · rfl
    · exact add_lineStart _ _

@[simp] theorem produce_visible (sink : Sink) (stop : Nat) (scopes : List String) :
    (sink.produce stop scopes).visible = sink.visible := by
  unfold produce
  split
  · rfl
  · dsimp only
    split
    · rfl
    · exact add_visible _ _

/-- The position is the furthest one asked for so far. -/
@[simp] theorem produce_position (sink : Sink) (stop : Nat) (scopes : List String) :
    (sink.produce stop scopes).position = max sink.position stop := by
  unfold produce
  split
  · next hle => exact (Nat.max_eq_left hle).symm
  · next hlt =>
    rw [Nat.max_eq_right (by omega)]
    dsimp only
    split
    · rfl
    · exact add_position _ _

namespace Tiled

variable {Edge : Nat → Prop} {earlier : List Token} {sink : Sink}

/-- A token that starts where the tiling ends makes it longer. -/
theorem add {token : Token} {current : List Token} {stop : Nat}
    (hearlier : sink.earlier = earlier.length) (htokens : sink.tokens.toList = earlier ++ current)
    (htiles : Tiles sink.lineStart current token.start)
    (hedges : ∀ token ∈ current, Edge token.stop) (hlength : 0 < token.length)
    (hstop : token.stop = stop) (hedge : Edge stop) :
    ∃ current, (sink.add token).tokens.toList = earlier ++ current ∧
      Tiles sink.lineStart current stop ∧ ∀ token ∈ current, Edge token.stop := by
  subst hstop
  rcases sink.toList_add token with hpush | ⟨before, last, hlast, hsize, hjoin, hextend⟩
  · refine ⟨current ++ [token], ?_, htiles.append (.singleton hlength), ?_⟩
    · rw [hpush, htokens, List.append_assoc]
    · intro t ht
      rcases List.mem_append.mp ht with ht | ht
      · exact hedges t ht
      · rw [List.mem_singleton.mp ht]
        exact hedge
  · -- tokens of the present line are there, so the one made longer is the last of them
    have hcount : sink.tokens.size = earlier.length + current.length := by
      have := congrArg List.length htokens
      simpa using this
    have hne : current ≠ [] := by
      intro hnil
      rw [hnil] at hcount
      simp only [List.length_nil] at hcount
      omega
    obtain ⟨init, final, rfl⟩ : ∃ init final, current = init ++ [final] :=
      ⟨current.dropLast, current.getLast hne, (List.dropLast_concat_getLast hne).symm⟩
    have hsplit : before = earlier ++ init ∧ last = final := by
      rw [htokens, ← List.append_assoc] at hlast
      obtain ⟨hinit, hfinal⟩ := List.append_inj' hlast rfl
      exact ⟨hinit.symm, by simpa using hfinal.symm⟩
    obtain ⟨rfl, rfl⟩ := hsplit
    obtain ⟨middle, hinit, hstart, hpos, _⟩ := htiles.of_append
    have hstop : last.start + (last.length + token.length) = token.stop := by
      rw [Token.stop] at hjoin ⊢
      omega
    refine ⟨init ++ [{ last with length := last.length + token.length }], ?_, ?_, ?_⟩
    · rw [hextend, List.append_assoc]
    · refine hinit.append ⟨hstart, ?_, hstop⟩
      show 0 < last.length + token.length
      omega
    · intro t ht
      rcases List.mem_append.mp ht with ht | ht
      · exact hedges t (List.mem_append_left _ ht)
      · rw [List.mem_singleton.mp ht]
        show Edge (last.start + (last.length + token.length))
        rw [hstop]
        exact hedge

/-- Covering the line up to any position whatever keeps it tiled, if the visible part of the line up
to there ends on an edge. -/
theorem produce (h : sink.Tiled Edge earlier) (stop : Nat) (scopes : List String)
    (hedge : Edge (sink.lineStart + min stop sink.visible)) :
    (sink.produce stop scopes).Tiled Edge earlier := by
  obtain ⟨hearlier, current, htokens, htiles, hedges⟩ := h
  unfold Sink.produce
  split
  · exact ⟨hearlier, current, htokens, htiles, hedges⟩
  · next hlt =>
    dsimp only
    split
    · -- both positions lie beyond the visible part, so nothing is added
      next hle =>
      refine ⟨hearlier, current, htokens, ?_, hedges⟩
      have hsame : min stop sink.visible = min sink.position sink.visible := by omega
      rw [hsame]
      exact htiles
    · next hgrow =>
      refine ⟨by rw [add_earlier]; exact hearlier, ?_⟩
      rw [add_lineStart, add_position, add_visible]
      refine Tiled.add hearlier htokens htiles hedges ?_ ?_ hedge
      · show 0 < min stop sink.visible - min sink.position sink.visible
        omega
      · show sink.lineStart + min sink.position sink.visible
          + (min stop sink.visible - min sink.position sink.visible)
          = sink.lineStart + min stop sink.visible
        omega

/-- A line that has just begun holds no tokens. -/
theorem beginLine (lineStart visible : Nat) :
    (sink.beginLine lineStart visible).Tiled Edge sink.tokens.toList := by
  refine ⟨by simp [Sink.beginLine], [], by simp [Sink.beginLine], ?_, ?_⟩
  · show lineStart = lineStart + min 0 visible
    omega
  · intro token hmem
    cases hmem

end Tiled

end Sink

end ScopeScanner
