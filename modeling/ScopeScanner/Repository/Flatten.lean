import ScopeScanner.Repository.Basic
import Std.Data.TreeMap

/-!
# Flattened lists of rules

Inside a region, or at the top level, the rules that compete are those reachable from its list
through any chain of groups and links, in the order in which they are written. A group or link that
is met a second time is skipped, which is what keeps cycles from looping.

Flattening a list is repeated for every match, so the results are kept in a table.
-/

namespace ScopeScanner

/-- Rules collected so far. -/
structure Flat where
  /-- Groups and links that have been entered. -/
  entered : List RuleId
  /-- Simple rules and regions that have been met, the latest first. -/
  rules : List RuleId := []

/-- Collects the rules reachable from a list. Each level of `fuel` enters a rule that has not been
entered before, so as many levels as there are rules suffice. -/
def Flat.expand (repository : Repository) : (fuel : Nat) → List RuleRef → Flat → Flat
  | 0, _, flat => flat
  | fuel + 1, references, flat =>
    references.foldl
      (fun flat reference =>
        match repository.lookup? reference with
        | none => flat
        | some rule =>
          match rule.kind with
          | .simple _ _ | .region _ => { flat with rules := rule.id :: flat.rules }
          | .group patterns =>
            if flat.entered.contains rule.id then flat
            else expand repository fuel patterns { flat with entered := rule.id :: flat.entered }
          | .link target =>
            if flat.entered.contains rule.id then flat
            else expand repository fuel [target] { flat with entered := rule.id :: flat.entered })
      flat

namespace Repository

/-- The simple rules and regions reachable from the list of a rule, in order of priority. -/
def flatten (repository : Repository) (id : RuleId) : List RuleId :=
  let patterns := (repository.rule? id).elim [] Rule.patterns
  (Flat.expand repository (repository.rules.size + 1) patterns { entered := [id] }).rules.reverse

end Repository

/-- Flattened lists by rule. -/
structure Flattener where
  table : Std.TreeMap RuleId (List RuleId) := ∅

namespace Flattener

/-- The flattened list of a rule, from the table if it is there and else added to it. -/
def rules (flattener : Flattener) (repository : Repository) (id : RuleId) :
    List RuleId × Flattener :=
  match flattener.table[id]? with
  | some rules => (rules, flattener)
  | none =>
    let rules := repository.flatten id
    (rules, { table := flattener.table.insert id rules })

/-- Number of lists in the table. -/
def size (flattener : Flattener) : Nat :=
  flattener.table.size

end Flattener

end ScopeScanner
