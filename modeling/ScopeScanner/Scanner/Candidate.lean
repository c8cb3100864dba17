import ScopeScanner.Pattern.Basic

/-!
# Competing patterns

At every position several patterns compete: the end of the innermost region and the rules that may
apply inside it. The match that starts earliest wins, and among matches that start at the same
place the one whose pattern comes first. The length of a match plays no part. A pattern whose
search runs out of budget counts as not matching.
-/

namespace ScopeScanner

/-- Position of a rule among the rules of a repository. -/
abbrev RuleId := Nat

/-- What a pattern stands for when it matches. -/
inductive Target where
  /-- The end of the innermost region. -/
  | regionEnd
  /-- A simple rule, or the begin of a region. -/
  | rule (id : RuleId)
deriving DecidableEq, Repr

/-- A pattern that competes for the next match. -/
structure Candidate where
  target : Target
  pattern : Pattern

/-- The winner of a competition. -/
structure Winner where
  target : Target
  groups : Groups
deriving DecidableEq, Repr

namespace Candidate

/-- The match of a candidate; running out of budget counts as none. -/
def match? (candidate : Candidate) (line : Line) (start : Nat) (atAnchor : Bool) : Option Winner :=
  match candidate.pattern.findAt line start atAnchor with
  | .ok (some groups) => some { target := candidate.target, groups }
  | _ => none

end Candidate

/-- Goes through the candidates that are left with the best match so far, and stops once nothing
can start earlier. -/
def findAmong (line : Line) (start : Nat) (atAnchor : Bool) :
    List Candidate → (best : Option Winner) → Option Winner
  | [], best => best
  | candidate :: rest, best =>
    match candidate.match? line start atAnchor with
    | none => findAmong line start atAnchor rest best
    | some winner =>
      let better := match best with
        | none => true
        | some best => winner.groups.whole.start < best.groups.whole.start
      if better then
        if winner.groups.whole.start = start then some winner
        else findAmong line start atAnchor rest (some winner)
      else findAmong line start atAnchor rest best

/-- The leftmost match at or after `start`; ties go to the earlier candidate. -/
def findNext (candidates : List Candidate) (line : Line) (start : Nat) (atAnchor : Bool) :
    Option Winner :=
  findAmong line start atAnchor candidates none

end ScopeScanner
