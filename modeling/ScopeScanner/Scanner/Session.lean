import ScopeScanner.Repository.Flatten
import ScopeScanner.Scanner.Diagnostic
import ScopeScanner.Scanner.ScopeStack
import ScopeScanner.Scanner.Token

/-!
# Scanning sessions

Several scans over one repository can share what they compute along the way: flattened lists of
rules, and the ends that were made from templates.
-/

namespace ScopeScanner

/-- What scans over one repository share. -/
structure Session where
  flattener : Flattener := {}
  /-- Ends made from templates, by source; none for a source that does not compile. -/
  ends : Std.TreeMap String (Option Pattern) := ∅

namespace Session

/-- The rules that compete inside a rule. -/
def rules (session : Session) (repository : Repository) (id : RuleId) : List RuleId × Session :=
  let (rules, flattener) := session.flattener.rules repository id
  (rules, { session with flattener })

/-- The end of a region that begins with the given match. A template is compiled with the texts of
the match; if the result does not compile, the region has no end. -/
def closing (session : Session) (repository : Repository) (closing : EndPattern) (groups : Groups)
    (line : Line) : Option Pattern × Session :=
  match closing with
  | .fixed pattern => (some pattern, session)
  | .template template =>
    let source := template.instantiate (groups.texts line)
    match session.ends[source]? with
    | some known => (known, session)
    | none =>
      let compiled := (Pattern.compile source repository.budget).toOption
      (compiled, { session with ends := session.ends.insert source compiled })

end Session

/-- Everything a scan gives out, and the session it runs in. -/
structure Emission where
  sink : Sink
  diagnostics : Array Diagnostic := #[]
  session : Session := {}

namespace Emission

/-- Covers the line up to a position with scopes. -/
def produce (emission : Emission) (stop : Nat) (scopes : List String) : Emission :=
  { emission with sink := emission.sink.produce stop scopes }

/-- Adds a remark. -/
def remark (emission : Emission) (diagnostic : Diagnostic) : Emission :=
  { emission with diagnostics := emission.diagnostics.push diagnostic }

end Emission

end ScopeScanner
