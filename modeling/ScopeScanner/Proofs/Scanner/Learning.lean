import ScopeScanner.Scanner.Session

/-!
# What a session learns

A session is sound for a repository if everything it has learned is what the repository would compute
anew. A new session is (`Session.Sound.new`), and every lookup keeps it so and yields what would be
computed without a session: **`Session.Sound.rules`** for flattened lists, **`Session.Sound.closing`**
for ends made from templates.
-/

namespace ScopeScanner

/-- The end of a region that begins with the given match, made without a session. -/
def EndPattern.made? (budget : Nat) (groups : Groups) (line : Line) : EndPattern → Option Pattern
  | .fixed pattern => some pattern
  | .template ending =>
    (Pattern.compile (ending.instantiate (groups.texts line)) budget).toOption

namespace Session

/-- What a session has learned is what the repository would compute anew. -/
structure Sound (repository : Repository) (session : Session) : Prop where
  lists : ∀ id rules, session.flattener.table[id]? = some rules → rules = repository.flatten id
  ends : ∀ source known, session.ends[source]? = some known →
    known = (Pattern.compile source repository.budget).toOption

namespace Sound

variable {repository : Repository} {session : Session}

theorem new (repository : Repository) : Sound repository {} where
  lists := by intro id rules h; simp at h
  ends := by intro source known h; simp at h

/-- The rules that compete are those reachable from the list of the rule. -/
theorem rules (h : session.Sound repository) (id : RuleId) :
    (session.rules repository id).1 = repository.flatten id ∧
      (session.rules repository id).2.Sound repository := by
  unfold Session.rules Flattener.rules
  cases hfound : session.flattener.table[id]? with
  | some rules => exact ⟨h.lists id rules hfound, h⟩
  | none =>
    refine ⟨rfl, ?_, h.ends⟩
    intro other rules hother
    dsimp only at hother
    rw [Std.TreeMap.getElem?_insert] at hother
    split at hother
    · next heq =>
      obtain rfl := Std.LawfulEqCmp.eq_of_compare heq
      exact (Option.some.inj hother).symm
    · exact h.lists other rules hother

/-- The end of a region is the one made from the texts of its begin. -/
theorem closing (h : session.Sound repository) (closing : EndPattern) (groups : Groups)
    (line : Line) :
    (session.closing repository closing groups line).1 =
        closing.made? repository.budget groups line ∧
      (session.closing repository closing groups line).2.Sound repository := by
  cases closing with
  | fixed pattern => exact ⟨rfl, h⟩
  | template ending =>
    simp only [Session.closing, EndPattern.made?]
    cases hfound : session.ends[ending.instantiate (groups.texts line)]? with
    | some known => exact ⟨h.ends _ known hfound, h⟩
    | none =>
      refine ⟨rfl, h.lists, ?_⟩
      intro other known hother
      dsimp only at hother
      rw [Std.TreeMap.getElem?_insert] at hother
      split at hother
      · next heq =>
        obtain rfl := Std.LawfulEqCmp.eq_of_compare heq
        exact (Option.some.inj hother).symm
      · exact h.ends other known hother

end Sound

end Session

end ScopeScanner
