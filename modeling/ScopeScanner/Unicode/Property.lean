import ScopeScanner.Unicode.Age
import ScopeScanner.Unicode.Derived
import ScopeScanner.Unicode.Script

/-!
# Properties by name

The sets of characters that can be named in a property escape. Names are compared without regard to
case, blanks, hyphens, underscores and a leading `is`; characters outside ASCII are left out of
them.
-/

namespace ScopeScanner.Unicode

/-- A set of characters that can be named in a property escape. -/
inductive Property where
  | any
  | ascii
  | assigned
  | listed (set : Boundaries)
  | alphabetic
  | lowercase
  | uppercase
  | cased
  | caseIgnorable
  | math
  | idStart
  | idContinue
  | xidStart
  | xidContinue
  | defaultIgnorable
  | graphemeExtend
  | graphemeBase
  | changesWhenCasemapped
  /-- Upper-case, lower-case and title-case letters together. -/
  | casedLetter
  /-- All categories whose abbreviations share their first letter. -/
  | major (letter : Char)
  | category (category : Category)
  | script (code : String)
  /-- Used in a script, as the character's own script or as one of several. -/
  | usedInScript (code : String)
  /-- Assigned by a version or an earlier one. -/
  | assignedBy (version : Nat)
  | breakClass (kind : BreakKind) (label : String)
deriving DecidableEq, Repr

namespace Property

/-- Whether a character has the property. -/
def holds : Property → Char → Bool
  | any, _ => true
  | ascii, c => c.toNat < 128
  | assigned, c => Unicode.category c ≠ .unassigned
  | listed set, c => set.contains c
  | alphabetic, c => isAlphabetic c
  | lowercase, c => isLowercase c
  | uppercase, c => isUppercase c
  | cased, c => isCased c
  | caseIgnorable, c => isCaseIgnorable c
  | math, c => isMath c
  | idStart, c => startsIdentifier c
  | idContinue, c => continuesIdentifier c
  | xidStart, c => startsStableIdentifier c
  | xidContinue, c => continuesStableIdentifier c
  | defaultIgnorable, c => isDefaultIgnorable c
  | graphemeExtend, c => extendsGrapheme c
  | graphemeBase, c => startsGrapheme c
  | changesWhenCasemapped, c => Unicode.changesWhenCasemapped c
  | casedLetter, c =>
    match Unicode.category c with
    | .uppercaseLetter | .lowercaseLetter | .titlecaseLetter => true
    | _ => false
  | major letter, c => (Unicode.category c).major = letter
  | category wanted, c => Unicode.category c = wanted
  | script code, c => Unicode.script c = code
  | usedInScript code, c => extendsTo c code
  | assignedBy version, c => (age? c).any (· ≤ version)
  | breakClass kind label, c => kind.classOf c = label

/-- Names of the categories and of their major classes. -/
def categoryNames : List (List String × Property) := [
  (["lu", "uppercaseletter"], .category .uppercaseLetter),
  (["ll", "lowercaseletter"], .category .lowercaseLetter),
  (["lt", "titlecaseletter"], .category .titlecaseLetter),
  (["lm", "modifierletter"], .category .modifierLetter),
  (["lo", "otherletter"], .category .otherLetter),
  (["lc", "casedletter"], .casedLetter),
  (["l", "letter"], .major 'L'),
  (["mn", "nonspacingmark"], .category .nonspacingMark),
  (["mc", "spacingmark"], .category .spacingMark),
  (["me", "enclosingmark"], .category .enclosingMark),
  (["m", "mark", "combiningmark"], .major 'M'),
  (["nd", "decimalnumber", "digit"], .category .decimalNumber),
  (["nl", "letternumber"], .category .letterNumber),
  (["no", "othernumber"], .category .otherNumber),
  (["n", "number"], .major 'N'),
  (["pc", "connectorpunctuation"], .category .connectorPunctuation),
  (["pd", "dashpunctuation"], .category .dashPunctuation),
  (["ps", "openpunctuation"], .category .openPunctuation),
  (["pe", "closepunctuation"], .category .closePunctuation),
  (["pi", "initialpunctuation"], .category .initialPunctuation),
  (["pf", "finalpunctuation"], .category .finalPunctuation),
  (["po", "otherpunctuation"], .category .otherPunctuation),
  (["p", "punctuation", "punct"], .major 'P'),
  (["sm", "mathsymbol"], .category .mathSymbol),
  (["sc", "currencysymbol"], .category .currencySymbol),
  (["sk", "modifiersymbol"], .category .modifierSymbol),
  (["so", "othersymbol"], .category .otherSymbol),
  (["s", "symbol"], .major 'S'),
  (["zs", "spaceseparator"], .category .spaceSeparator),
  (["zl", "lineseparator"], .category .lineSeparator),
  (["zp", "paragraphseparator"], .category .paragraphSeparator),
  (["z", "separator"], .major 'Z'),
  (["cc", "control", "cntrl"], .category .control),
  (["cf", "format"], .category .format),
  (["co", "privateuse"], .category .privateUse),
  (["cn", "unassigned"], .category .unassigned),
  (["c", "other"], .major 'C'),
  (["any"], .any),
  (["ascii"], .ascii),
  (["assigned"], .assigned)]

/-- Names of the derived properties. -/
def derivedNames : List (List String × Property) := [
  (["alphabetic", "alpha"], .alphabetic),
  (["uppercase", "upper"], .uppercase),
  (["lowercase", "lower"], .lowercase),
  (["cased"], .cased),
  (["caseignorable", "ci"], .caseIgnorable),
  (["math"], .math),
  (["idstart", "ids"], .idStart),
  (["idcontinue", "idc"], .idContinue),
  (["xidstart", "xids"], .xidStart),
  (["xidcontinue", "xidc"], .xidContinue),
  (["defaultignorablecodepoint", "di"], .defaultIgnorable),
  (["graphemeextend", "grext"], .graphemeExtend),
  (["graphemebase", "grbase"], .graphemeBase),
  (["changeswhencasemapped", "cwcm"], .changesWhenCasemapped)]

/-- A name without a leading `is`, blanks, hyphens, underscores and characters outside ASCII, in
lower case. The abbreviation `isc` stays apart from `c`. -/
def normalizeName (name : String) : String :=
  let plain (name : List Char) :=
    (name.filter fun c => c.toNat < 128 && c ≠ ' ' && c ≠ '-' && c ≠ '_').map Char.toLower
  match name.toList with
  | i :: s :: rest =>
    if i.toLower = 'i' && s.toLower = 's' then
      if plain rest = ['c'] then "isc" else String.ofList (plain rest)
    else String.ofList (plain (i :: s :: rest))
  | short => String.ofList (plain short)

/-- The property listed under a normalized name. -/
def named? (table : List (List String × Property)) (name : String) : Option Property :=
  (table.find? fun entry => entry.1.contains name).map (·.2)

/-- The listed property with a normalized name. -/
def listedNamed? (name : String) : Option Property :=
  (Listed.all.find? fun entry => entry.1.contains name).map fun entry => listed entry.2

/-- The property meant by a single name: a yes-or-no property, a category or a script. -/
def ofName? (name : String) : Option Property :=
  let name := normalizeName name
  (named? derivedNames name).orElse fun _ =>
    (listedNamed? name).orElse fun _ =>
      (named? categoryNames name).orElse fun _ => (scriptCode? name).map script

/-- The property meant by a name and a value, such as `gc=Lu` or `script=Greek`. -/
def ofNameValue? (name value : String) : Option Property :=
  let value := normalizeName value
  match normalizeName name with
  | "gc" | "generalcategory" => named? categoryNames value
  | "sc" | "script" => (scriptCode? value).map script
  | "scx" | "scriptextensions" => (scriptCode? value).map usedInScript
  | "age" => (versionNamed? value).map assignedBy
  | "gcb" | "graphemeclusterbreak" =>
    (BreakKind.grapheme.classNamed? value).map (breakClass .grapheme)
  | "wb" | "wordbreak" => (BreakKind.word.classNamed? value).map (breakClass .word)
  | "sb" | "sentencebreak" => (BreakKind.sentence.classNamed? value).map (breakClass .sentence)
  | _ => none

end Property

end ScopeScanner.Unicode
