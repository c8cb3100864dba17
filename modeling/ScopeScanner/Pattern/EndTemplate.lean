import ScopeScanner.Pattern.Escaping

/-!
# End templates

The end of a region may depend on how it began: `\1` to `\9` stand for the groups of the match
that opened it. Such an end is kept as a template. Once the texts of those groups are known, they
are put in literally and the result is an ordinary pattern source.
-/

namespace ScopeScanner

/-- The source of an end that refers to groups of the begin. -/
structure EndTemplate where
  source : String
deriving DecidableEq, Repr

namespace EndTemplate

/-- Whether an escaped character refers to a group of the begin. -/
def isReference (c : Char) : Bool :=
  '1' ≤ c && c ≤ '9'

/-- The template a source is, if it refers to groups of the begin. -/
def ofSource? (source : String) : Option EndTemplate :=
  if Escaping.any isReference source.toList then some ⟨source⟩ else none

/-- The pattern source for the given texts of the begin; the text of the whole begin comes first,
and a group that took no part counts as empty. -/
def instantiate (template : EndTemplate) (texts : List (Option (List Char))) : String :=
  String.ofList <| Escaping.substitute
    (fun c =>
      if isReference c then some (Escaping.quote (texts[c.toNat - '0'.toNat]?.join.getD []))
      else none)
    template.source.toList

end EndTemplate

end ScopeScanner
