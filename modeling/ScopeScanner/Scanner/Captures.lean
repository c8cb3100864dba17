import ScopeScanner.Scanner.Session

/-!
# Scopes inside a match

A match is cut into tokens by its groups. The groups that stand for something are visited in
ascending order of their numbers; a group opens no later than the groups nested in it, so a pile of
open groups is enough to nest their scopes. Text of the match outside of all these groups keeps the
scopes of the match itself.

A group with rules of its own is scanned again, restricted to its text, with a stack whose bottom
carries the scopes of the group.
-/

namespace ScopeScanner

/-- A scan of the part of a line that a group covers: the line cut off at the end of the group, where
the group starts, and the stack to scan with. -/
abbrev Reenter := Line → (start : Nat) → ScopeStack → Emission → Emission

/-- A group whose text has not been covered to its end. -/
structure OpenGroup where
  stop : Nat
  scopes : List String

/-- Covers the text of the open groups that end at or before a position; the innermost group comes
first. -/
def closeGroups (position : Nat) : List OpenGroup → Emission → List OpenGroup × Emission
  | [], emission => ([], emission)
  | group :: rest, emission =>
    if group.stop ≤ position then
      closeGroups position rest (emission.produce group.stop group.scopes)
    else (group :: rest, emission)

/-- Covers the text of all open groups. -/
def closeAllGroups : List OpenGroup → Emission → Emission
  | [], emission => emission
  | group :: rest, emission => closeAllGroups rest (emission.produce group.stop group.scopes)

/-- The scopes of the innermost open group, or those of the match. -/
def innermostScopes (scopes : List String) : List OpenGroup → List String
  | [] => scopes
  | group :: _ => group.scopes

/-- The part of a match that a group spans. There is none if the group took no part, is empty, or
starts outside of the match. -/
def Groups.clipped? (groups : Groups) (number : Nat) : Option Span :=
  (groups.get? number).bind fun span =>
    if span.isEmpty || span.start < groups.whole.start || groups.whole.stop ≤ span.start then none
    else some ⟨span.start, min span.stop groups.whole.stop⟩

/-- Opens a group up to which the line has been covered, or scans its text. -/
def enterGroup (reenter : Option Reenter) (line : Line) (span : Span) (rule : Option RuleId)
    (scopes : List String) (opened : List OpenGroup) (emission : Emission) :
    List OpenGroup × Emission :=
  match rule, reenter with
  | some rule, some reenter =>
    (opened,
      reenter (line.take span.stop) span.start { bottom := { rule, nameScopes := scopes } } emission)
  | _, _ => (⟨span.stop, scopes⟩ :: opened, emission)

/-- Opens the group of one capture, or scans its text. Groups that span nothing of the match are
passed over, and so are captures that stand for nothing. -/
def resolveCapture (reenter : Option Reenter) (line : Line) (groups : Groups)
    (scopes : List String) (number : Nat) (capture : Capture)
    (opened : List OpenGroup) (emission : Emission) : List OpenGroup × Emission :=
  match groups.clipped? number with
  | none => (opened, emission)
  | some span =>
    if capture.scopes.isEmpty && capture.rule.isNone then (opened, emission)
    else
      let (opened, emission) := closeGroups span.start opened emission
      let parent := innermostScopes scopes opened
      enterGroup reenter line span capture.rule (parent ++ capture.scopes) opened
        (emission.produce span.start parent)

/-- Goes through the captures that are left. -/
def resolveEach (reenter : Option Reenter) (line : Line) (groups : Groups) (scopes : List String) :
    CaptureMap → List OpenGroup → Emission → List OpenGroup × Emission
  | [], opened, emission => (opened, emission)
  | (number, capture) :: rest, opened, emission =>
    let (opened, emission) :=
      resolveCapture reenter line groups scopes number capture opened emission
    resolveEach reenter line groups scopes rest opened emission

/-- Covers a match with tokens, the scopes of its groups on top of `scopes`. -/
def resolveCaptures (reenter : Option Reenter) (line : Line) (groups : Groups)
    (captures : CaptureMap) (scopes : List String) (emission : Emission) : Emission :=
  let (opened, emission) := resolveEach reenter line groups scopes captures [] emission
  (closeAllGroups opened emission).produce groups.whole.stop scopes

end ScopeScanner
