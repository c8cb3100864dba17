import ScopeScanner.Grammar.Basic

/-!
# The grammar of clove

The grammar that is used unless another one is asked for. Names and operators are put together from
classes of characters once and shared by all rules.

The order of each list decides which rule wins when two match in the same place, so the lists are
not sorted.
-/

namespace ScopeScanner.Clove

open RuleSpec

/-- The root scope. -/
def scopeName : String := "source.clove"

/-- Content of a class of letters that names of types start with. -/
def upperLetters : String := "A-Z\\p\x7bLt\x7d\\p\x7bLu\x7d"

/-- Content of a class of letters that other names start with, the dollar sign set apart. -/
def lowerLettersBefore : String := "_a-z"

def lowerLettersAfter : String := "\\p\x7bLo\x7d\\p\x7bNl\x7d\\p\x7bLl\x7d"

/-- Content of a class of letters that other names start with. -/
def lowerLetters : String := lowerLettersBefore ++ "\\$" ++ lowerLettersAfter

/-- A character of an operator. The number sign is escaped so that the class can stand where
comments are allowed. -/
def operatorChar : String := "[!\\#%&*+\\-/:<>=?@^|~\\p\x7bSm\x7d\\p\x7bSo\x7d]"

/-- A name in back quotes. -/
def quotedName : String := "`[^`]+`"

def letters : String := upperLetters ++ lowerLetters

def letter : String := "[" ++ letters ++ "]"

def letterOrDigit : String := "[" ++ letters ++ "0-9]"

/-- A letter or digit without the dollar sign. -/
def plainLetterOrDigit : String :=
  "[" ++ upperLetters ++ lowerLettersBefore ++ lowerLettersAfter ++ "0-9]"

/-- Operator characters belong to a name only after an underscore. -/
def operatorSuffix : String := "(?:(?<=_)" ++ operatorChar ++ "+)?"

def alphabeticName : String := letter ++ "+"

def interpolatedName : String := letter ++ plainLetterOrDigit ++ "*"

def upperName : String := "[" ++ upperLetters ++ "]" ++ letterOrDigit ++ "*" ++ operatorSuffix

def lowerName : String := "[" ++ lowerLetters ++ "]" ++ letterOrDigit ++ "*" ++ operatorSuffix

/-- A name or an operator. -/
def plainName : String :=
  "(?:" ++ letter ++ letterOrDigit ++ "*" ++ operatorSuffix ++ "|" ++ operatorChar ++ "+)"

/-- A name in back quotes or a plain one, as alternatives without a group. -/
def anyName : String := quotedName ++ "|" ++ plainName

/-! ## Rules -/

def code : RuleSpec :=
  group <| List.map link [
    "#script-header", "#storage-modifiers", "#declarations", "#inheritance", "#imports",
    "#comments", "#strings", "#initialization", "#xml-literal", "#keywords", "#constants",
    "#clove-symbol", "#clove-quoted", "#char-literal", "#empty-parentheses", "#parameter-list",
    "#qualifiedClassName", "#backQuotedVariable", "#curly-braces", "#meta-brackets",
    "#meta-bounds", "#meta-colons"]

def emptyParentheses : RuleSpec :=
  (simple "(\\(\\))")
    |>.withCapture 1 "meta.bracket.clove"
    |>.withScope "meta.parentheses.clove"

/-- The names in braces after an import. -/
def importSelector : RuleSpec :=
  (region "\\\x7b" "\\\x7d")
    |>.withOpeningCapture 0 "meta.bracket.clove"
    |>.withPattern ((simple ("(?x)\\s*(" ++ anyName ++ ")\\s*(=>)\\s*(" ++ anyName ++ ")\\s*"))
      |>.withCapture 1 "entity.name.import.renamed-from.clove"
      |>.withCapture 2 "keyword.other.arrow.clove"
      |>.withCapture 3 "entity.name.import.renamed-to.clove")
    |>.withPattern ((simple ("(given)(\\s+" ++ plainName ++ ")?(?=\\s*[,\x7d])"))
      |>.withCapture 1 "keyword.given.import.clove"
      |>.withCapture 2 "entity.name.type.import.clove")
    |>.withPattern ((simple "([^\\s.,\x7d]+)") |>.withScope "entity.name.import.clove")
    |>.withClosingCapture 0 "meta.bracket.clove"
    |>.withScope "meta.import.selector.clove"

def imports : RuleSpec :=
  (region "\\b(import)\\s+" "(?<=[\\n;])")
    |>.withOpeningCapture 1 "keyword.other.import.clove"
    |>.withPattern (link "#comments")
    |>.withPattern ((simple "(given)(?=\\s)") |>.withScope "keyword.given.import.clove")
    |>.withPattern ((simple ("(" ++ anyName ++ ")")) |>.withScope "entity.name.import.clove")
    |>.withPattern ((simple "\\.") |>.withScope "punctuation.definition.import")
    |>.withPattern importSelector
    |>.withScope "meta.import.clove"

/-- Numbers of all notations, with an optional letter for their type. -/
def numberPattern : String :=
  "\\b((0(x|X)[0-9a-fA-F]*)|(([0-9]+\\.[0-9]+)|(\\.[0-9]+))((e|E)(\\+|-)?[0-9]+)?|[0-9]+)" ++
    "([LlFfDd]|UL|ul)?\\b"

def constants : RuleSpec :=
  group [
    (simple "\\b(false|null|true)\\b") |>.withScope "constant.language.clove",
    (simple numberPattern) |>.withScope "constant.numeric.clove",
    (simple "\\b(this|super)\\b") |>.withScope "variable.language.clove"]

def scriptHeader : RuleSpec :=
  (simple "^#!(.*)$")
    |>.withCapture 1 "string.unquoted.shebang.clove"
    |>.withScope "comment.block.shebang.clove"

/-! ### Strings -/

def tripleEscape : RuleSpec :=
  (simple "\\\\\\\\|\\\\u[0-9A-Fa-f]\x7b4\x7d") |>.withScope "constant.character.escape.clove"

def tripleQuote : String := "\"\"\""

/-- Three quotes that no fourth one follows. -/
def tripleQuoteEnd : String := "\"\"\"(?!\")"

def stringEscape : RuleSpec :=
  (simple "\\\\(?:[btnfr\\\\\"']|[0-7]\x7b1,3\x7d|u[0-9A-Fa-f]\x7b4\x7d)")
    |>.withScope "constant.character.escape.clove"

def unknownStringEscape : RuleSpec :=
  (simple "\\\\.") |>.withScope "invalid.illegal.unrecognized-string-escape.clove"

def tripleString : RuleSpec :=
  (region tripleQuote tripleQuoteEnd)
    |>.withOpeningCapture 0 "punctuation.definition.string.begin.clove"
    |>.withPattern tripleEscape
    |>.withClosingCapture 0 "punctuation.definition.string.end.clove"
    |>.withScope "string.quoted.triple.clove"

def interpolatedTripleString : RuleSpec :=
  (region ("\\b(" ++ alphabeticName ++ ")(" ++ tripleQuote ++ ")") tripleQuoteEnd)
    |>.withOpeningCapture 1 "keyword.interpolation.clove"
    |>.withOpeningCapture 2
      "string.quoted.triple.interpolated.clove punctuation.definition.string.begin.clove"
    |>.withPattern (link "#string-interpolation")
    |>.withPattern tripleEscape
    |>.withPattern ((simple ".") |>.withScope "string.quoted.triple.interpolated.clove")
    |>.withClosingCapture 0
      "string.quoted.triple.interpolated.clove punctuation.definition.string.end.clove"

def doubleString : RuleSpec :=
  (region "\"" "\"")
    |>.withOpeningCapture 0 "punctuation.definition.string.begin.clove"
    |>.withPattern stringEscape
    |>.withPattern unknownStringEscape
    |>.withClosingCapture 0 "punctuation.definition.string.end.clove"
    |>.withScope "string.quoted.double.clove"

def interpolatedDoubleString : RuleSpec :=
  (region ("\\b(" ++ alphabeticName ++ ")(\")") "\"")
    |>.withOpeningCapture 1 "keyword.interpolation.clove"
    |>.withOpeningCapture 2
      "string.quoted.double.interpolated.clove punctuation.definition.string.begin.clove"
    |>.withPattern (link "#string-interpolation")
    |>.withPattern stringEscape
    |>.withPattern unknownStringEscape
    |>.withPattern ((simple ".") |>.withScope "string.quoted.double.interpolated.clove")
    |>.withClosingCapture 0
      "string.quoted.double.interpolated.clove punctuation.definition.string.end.clove"

def strings : RuleSpec :=
  group [tripleString, interpolatedTripleString, doubleString, interpolatedDoubleString]

def stringInterpolation : RuleSpec :=
  group [
    (simple "\\$\\$") |>.withScope "constant.character.escape.interpolation.clove",
    (simple ("(\\$)(" ++ interpolatedName ++ ")"))
      |>.withCapture 1 "punctuation.definition.template-expression.begin.clove"
      |>.withScope "meta.template.expression.clove",
    (region "\\$\\\x7b" "\\\x7d")
      |>.withScope "meta.template.expression.clove"
      |>.withOpeningCapture 0 "punctuation.definition.template-expression.begin.clove"
      |>.withClosingCapture 0 "punctuation.definition.template-expression.end.clove"
      |>.withPattern (link "#code")
      |>.withContentScope "meta.embedded.line.clove"]

def charLiteral : RuleSpec :=
  (region "'" "'|$")
    |>.withOpeningCapture 0 "punctuation.definition.character.begin.clove"
    |>.withPattern stringEscape
    |>.withPattern ((simple "\\\\.")
      |>.withScope "invalid.illegal.unrecognized-character-escape.clove")
    |>.withPattern ((simple "[^']\x7b2,\x7d") |>.withScope "invalid.illegal.character-literal-too-long")
    |>.withPattern ((simple "(?<!')[^']") |>.withScope "invalid.illegal.character-literal-too-long")
    |>.withClosingCapture 0 "punctuation.definition.character.end.clove"
    |>.withScope "string.quoted.other constant.character.literal.clove"

/-! ### Keywords and declarations -/

/-- The word that ends a block, alone on its line but for a comment. -/
def blockEnd : String :=
  "^\\s*end(?=\\s+(if|while|for|match|" ++ plainName ++ ")\\s*(//.*|/\\*(?!.*\\*/\\s*\\S.*).*)?$)"

def keywords : RuleSpec :=
  group [
    (simple "\\b(return|throw)\\b") |>.withScope "keyword.control.flow.jump.clove",
    (simple "\\b(classOf|isInstanceOf|asInstanceOf)\\b")
      |>.withScope "support.function.type-of.clove",
    (simple "\\b(else|if|then|do|while|for|yield|match|case)\\b")
      |>.withScope "keyword.control.flow.clove",
    (simple blockEnd) |>.withScope "keyword.control.flow.end.clove",
    (simple "\\b(catch|finally|try)\\b") |>.withScope "keyword.control.exception.clove",
    (simple "(==?|!=|<=|>=|<>|<|>)") |>.withScope "keyword.operator.comparison.clove",
    (simple "(\\-|\\+|\\*|/(?![/*])|%|~)") |>.withScope "keyword.operator.arithmetic.clove",
    (simple "(!|&&|\\|\\|)") |>.withScope "keyword.operator.logical.clove",
    (simple "(<-|←|->|→|=>|⇒|\\?|:+|@|\\|)+") |>.withScope "keyword.operator.clove"]

def packageClause : RuleSpec :=
  (region "\\b(package)\\s+" "(?<=[\\n;])")
    |>.withOpeningCapture 1 "keyword.other.import.clove"
    |>.withPattern (link "#comments")
    |>.withPattern ((simple ("(" ++ anyName ++ ")")) |>.withScope "entity.name.package.clove")
    |>.withPattern ((simple "\\.") |>.withScope "punctuation.definition.package")
    |>.withScope "meta.package.clove"

def declarations : RuleSpec :=
  group [
    (simple ("(?x)\\b(def)\\s+(" ++ anyName ++ ")"))
      |>.withCapture 1 "keyword.declaration.clove"
      |>.withCapture 2 "entity.name.function.declaration",
    (simple "\\b(trait)\\s+([^\\s\\\x7b\\(\\[]+)")
      |>.withCapture 1 "keyword.declaration.clove"
      |>.withCapture 2 "entity.name.class.declaration",
    (simple "\\b(?:(case)\\s+)?(class|object)\\s+([^\\s\\\x7b\\(\\[]+)")
      |>.withCapture 1 "keyword.declaration.clove"
      |>.withCapture 2 "keyword.declaration.clove"
      |>.withCapture 3 "entity.name.class.declaration",
    (simple ("\\b(type)\\s+(" ++ anyName ++ ")"))
      |>.withCapture 1 "keyword.declaration.clove"
      |>.withCapture 2 "entity.name.type.declaration",
    (simple ("\\b(val)\\s+(" ++ upperName ++ "(\\s*,\\s*" ++ upperName ++ ")*)\\b"))
      |>.withCapture 1 "keyword.declaration.stable.clove"
      |>.withCapture 2 "constant.other.declaration.clove",
    (simple ("\\b(?:(val)|(var))\\s+(?:(" ++ anyName ++ ")|(?=\\())"))
      |>.withCapture 1 "keyword.declaration.stable.clove"
      |>.withCapture 2 "keyword.declaration.volatile.clove"
      |>.withCapture 3 "variable.other.declaration.clove",
    (simple "\\b(package)\\s+(object)\\s+([^\\s\\\x7b\\(\\[]+)")
      |>.withCapture 1 "keyword.other.scoping.clove"
      |>.withCapture 2 "keyword.declaration.clove"
      |>.withCapture 3 "entity.name.class.declaration",
    packageClause]

def initialization : RuleSpec :=
  (simple "\\b(new)\\s+([^\\s,\\\x7b\\\x7d\\(\\)\\[\\]]+)")
    |>.withCapture 1 "keyword.declaration.clove"
    |>.withCapture 2 "entity.name.class"

def symbol : RuleSpec :=
  (simple ("(?>'" ++ plainName ++ ")(?!')")) |>.withScope "constant.other.symbol.clove"

def quoted : RuleSpec :=
  (simple "('\\\x7b|'\\[)(?!')") |>.withScope "constant.other.quoted.clove"

def qualifiedClassName : RuleSpec :=
  (simple "(\\b([A-Z][\\w]*))") |>.withCapture 1 "entity.name.class"

def storageModifiers : RuleSpec :=
  group [
    (simple "\\b(private\\[\\S+\\]|protected\\[\\S+\\]|private|protected)\\b")
      |>.withScope "storage.modifier.access",
    (simple ("\\b(synchronized|@volatile|abstract|final|lazy|sealed|implicit|given|enum" ++
        "|inline |opaque |override|@transient|@native)\\b"))
      |>.withScope "storage.modifier.other"]

def inheritance : RuleSpec :=
  group [
    (simple "(extends|with|derives)\\s+([^\\s\\\x7b\\[\\]]+)")
      |>.withCapture 1 "keyword.declaration.clove"
      |>.withCapture 2 "entity.other.inherited-class.clove"]

def parameterList : RuleSpec :=
  group [
    (simple ("(?<=[^\\._$a-zA-Z0-9])(" ++ quotedName ++ "|" ++ lowerName ++ ")\\s*(:)\\s+"))
      |>.withCapture 1 "variable.parameter.clove"
      |>.withCapture 2 "meta.colon.clove"]

/-! ### Brackets and bounds -/

def curlyBraces : RuleSpec :=
  (region "\\\x7b" "\\\x7d")
    |>.withOpeningCapture 0 "punctuation.section.block.begin.clove"
    |>.withClosingCapture 0 "punctuation.section.block.end.clove"
    |>.withPattern (link "#code")

def brackets : RuleSpec :=
  (group [
    (simple "\\\x7b")
      |>.withComment
        "The punctuation.section.*.begin is needed for return snippet in source bundle"
      |>.withScope "punctuation.section.block.begin.clove",
    (simple "\\\x7d")
      |>.withComment
        "The punctuation.section.*.end is needed for return snippet in source bundle"
      |>.withScope "punctuation.section.block.end.clove",
    (simple "\\\x7b|\\\x7d|\\(|\\)|\\[|\\]") |>.withScope "meta.bracket.clove"])
    |>.withComment "For themes: Brackets look nice when colored."

def bounds : RuleSpec :=
  (simple "<%|=:=|<:<|<%<|>:|<:")
    |>.withComment "For themes: Matching view bounds"
    |>.withScope "meta.bounds.clove"

def colons : RuleSpec :=
  (group [(simple "(?<!:):(?!:)") |>.withScope "meta.colon.clove"])
    |>.withComment "For themes: Matching type colons"

/-! ### Comments -/

def lineComment : RuleSpec :=
  (region "//" "\\n")
    |>.withOpeningCapture 0 "punctuation.definition.comment.clove"
    |>.withScope "comment.line.double-slash.clove"

/-- The begin matches nothing unless blanks come first, and the end follows the comment directly. -/
def comments : RuleSpec :=
  group [
    link "#block-comments",
    (region "(^[ \\t]+)?(?=//)" "(?!\\G)")
      |>.withOpeningCapture 1 "punctuation.whitespace.comment.leading.clove"
      |>.withPattern lineComment]

/-- The tags of documentation that stand alone. -/
def documentationTags : String :=
  "@(return|see|note|example|constructor|usecase|author|version|since|todo|deprecated" ++
    "|migration|define|inheritdoc)\\b"

def documentation : RuleSpec :=
  (region "^\\s*(/\\*\\*)(?!/)" "\\*/")
    |>.withOpeningCapture 1 "punctuation.definition.comment.clove"
    |>.withPattern ((simple "(@param)\\s+(\\S+)")
      |>.withCapture 1 "keyword.other.documentation.clovedoc.clove"
      |>.withCapture 2 "variable.parameter.clove")
    |>.withPattern ((simple "(@(?:tparam|throws))\\s+(\\S+)")
      |>.withCapture 1 "keyword.other.documentation.clovedoc.clove"
      |>.withCapture 2 "entity.name.class")
    |>.withPattern ((simple documentationTags)
      |>.withScope "keyword.other.documentation.clovedoc.clove")
    |>.withPattern ((simple "(\\[\\[)([^\\]]+)(\\]\\])")
      |>.withCapture 1 "punctuation.definition.documentation.link.clove"
      |>.withCapture 2 "string.other.link.title.markdown"
      |>.withCapture 3 "punctuation.definition.documentation.link.clove")
    |>.withPattern (link "#block-comments")
    |>.withClosingCapture 0 "punctuation.definition.comment.clove"
    |>.withScope "comment.block.documentation.clove"

def blockComments : RuleSpec :=
  group [
    (simple "/\\*\\*/")
      |>.withCapture 0 "punctuation.definition.comment.clove"
      |>.withScope "comment.block.empty.clove",
    documentation,
    (region "/\\*" "\\*/")
      |>.withCapture 0 "punctuation.definition.comment.clove"
      |>.withPattern (link "#block-comments")
      |>.withScope "comment.block.clove"]

/-! ### Markup -/

def xmlEntity : RuleSpec :=
  (simple "(&)([a-zA-Z_:][a-zA-Z0-9_.:-]*|#[0-9]+|#x[0-9a-fA-F]+)(;)")
    |>.withCapture 1 "punctuation.definition.constant.xml"
    |>.withCapture 3 "punctuation.definition.constant.xml"
    |>.withScope "constant.character.entity.xml"

def xmlString (quote scope : String) : RuleSpec :=
  (region quote quote)
    |>.withOpeningCapture 0 "punctuation.definition.string.begin.xml"
    |>.withPattern (link "#xml-entity")
    |>.withClosingCapture 0 "punctuation.definition.string.end.xml"
    |>.withScope scope

def xmlEmbeddedContent : RuleSpec :=
  group [
    (region "\\\x7b" "\\\x7d")
      |>.withPattern (link "#code")
      |>.withCapture 0 "meta.bracket.clove"
      |>.withScope "meta.source.embedded.clove",
    (simple " (?:([-_a-zA-Z0-9]+)((:)))?([_a-zA-Z-]+)=")
      |>.withCapture 1 "entity.other.attribute-name.namespace.xml"
      |>.withCapture 2 "entity.other.attribute-name.xml"
      |>.withCapture 3 "punctuation.separator.namespace.xml"
      |>.withCapture 4 "entity.other.attribute-name.localname.xml",
    link "#xml-doublequotedString",
    link "#xml-singlequotedString"]

/-- An element without content, which ends with the tag of the same name. -/
def xmlNoContent : RuleSpec :=
  (region
    ("(<)((?:([_a-zA-Z0-9][_a-zA-Z0-9]*)((:)))?([_a-zA-Z0-9][-_a-zA-Z0-9:]*))" ++
      "(?=(\\s[^>]*)?></\\2>)")
    "(>(<))/(?:([-_a-zA-Z0-9]+)((:)))?([-_a-zA-Z0-9:]*[_a-zA-Z0-9])(>)")
    |>.withOpeningCapture 1 "punctuation.definition.tag.xml"
    |>.withOpeningCapture 3 "entity.name.tag.namespace.xml"
    |>.withOpeningCapture 4 "entity.name.tag.xml"
    |>.withOpeningCapture 5 "punctuation.separator.namespace.xml"
    |>.withOpeningCapture 6 "entity.name.tag.localname.xml"
    |>.withPattern (link "#xml-embedded-content")
    |>.withComment ("We do not allow a tag name to start with a - since this would likely conflict" ++
      " with the <- operator. This is not very common for tag names anyway.  Also code such as" ++
      " -- if (val <val2 || val> val3) will falsly be recognized as an xml tag.  The solution is" ++
      " to put a space on either side of the comparison operator")
    |>.withClosingCapture 1 "punctuation.definition.tag.xml"
    |>.withClosingCapture 2 "meta.scope.between-tag-pair.xml"
    |>.withClosingCapture 3 "entity.name.tag.namespace.xml"
    |>.withClosingCapture 4 "entity.name.tag.xml"
    |>.withClosingCapture 5 "punctuation.separator.namespace.xml"
    |>.withClosingCapture 6 "entity.name.tag.localname.xml"
    |>.withClosingCapture 7 "punctuation.definition.tag.xml"
    |>.withScope "meta.tag.no-content.xml"

def xmlTag : RuleSpec :=
  (region
    ("(</?)(?:([_a-zA-Z0-9][-_a-zA-Z0-9]*)((:)))?([_a-zA-Z0-9][-_a-zA-Z0-9:]*)(?=[^>]*?>)")
    "(/?>)")
    |>.withPattern (link "#xml-embedded-content")
    |>.withCapture 1 "punctuation.definition.tag.xml"
    |>.withCapture 2 "entity.name.tag.namespace.xml"
    |>.withCapture 3 "entity.name.tag.xml"
    |>.withCapture 4 "punctuation.separator.namespace.xml"
    |>.withCapture 5 "entity.name.tag.localname.xml"
    |>.withScope "meta.tag.xml"

def xmlLiteral : RuleSpec :=
  group [xmlNoContent, xmlTag, link "#xml-entity"]

/-! ## The grammar -/

/-- The rules by name. -/
def rules : List (String × RuleSpec) := [
  ("empty-parentheses", emptyParentheses),
  ("imports", imports),
  ("constants", constants),
  ("script-header", scriptHeader),
  ("code", code),
  ("strings", strings),
  ("string-interpolation", stringInterpolation),
  ("xml-entity", xmlEntity),
  ("xml-singlequotedString", xmlString "'" "string.quoted.single.xml"),
  ("meta-colons", colons),
  ("keywords", keywords),
  ("clove-quoted", quoted),
  ("xml-doublequotedString", xmlString "\"" "string.quoted.double.xml"),
  ("declarations", declarations),
  ("char-literal", charLiteral),
  ("initialization", initialization),
  ("clove-symbol", symbol),
  ("curly-braces", curlyBraces),
  ("meta-brackets", brackets),
  ("qualifiedClassName", qualifiedClassName),
  ("backQuotedVariable", simple quotedName),
  ("storage-modifiers", storageModifiers),
  ("meta-bounds", bounds),
  ("comments", comments),
  ("block-comments", blockComments),
  ("xml-embedded-content", xmlEmbeddedContent),
  ("inheritance", inheritance),
  ("parameter-list", parameterList),
  ("xml-literal", xmlLiteral)]

/-- The grammar of clove. -/
def grammar : Grammar where
  name := some "clove"
  scopeName := scopeName
  fileTypes := ["clove"]
  firstLineMatch := some "^#!/.*\\b\\w*clove\\b"
  foldingStartMarker := some "/\\*\\*|\\\x7b\\s*$"
  foldingStopMarker := some "\\*\\*/|^\\s*\\\x7d"
  keyEquivalent := some "^~S"
  uuid := some "158C0929-299A-40C8-8D89-316BE0C446E8"
  patterns := [link "#code"]
  repository := rules

end ScopeScanner.Clove
