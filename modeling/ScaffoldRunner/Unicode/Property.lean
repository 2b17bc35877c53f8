import ScaffoldRunner.Text.Basic
import ScaffoldRunner.Unicode.Category
import ScaffoldRunner.Unicode.PropertyTables
import ScaffoldRunner.Unicode.Script

/-!
# Properties of characters

A property is named loosely: letter case, blanks, hyphens and underscores do not matter, and
neither does `is` in front. A name stands for a property of its own, for a general category, or
for a script, in this order.
-/

namespace ScaffoldRunner.Unicode

/-- A property that a character has or has not. -/
inductive Property where
  | any
  | ascii
  | blank
  | category (codes : List String)
  | script (code : String)
  | listed (ranges : Ranges)
  | either (p q : Property)
  | without (p q : Property)

namespace Property

def has : Property → Char → Bool
  | any, _ => true
  | ascii, c => c.toNat < 128
  | blank, c => Text.isBlank c
  | category codes, c => codes.contains (Unicode.category c)
  | script code, c => Unicode.script c = code
  | listed ranges, c => ranges.has c
  | either p q, c => p.has c || q.has c
  | without p q, c => p.has c && !q.has c

/-- Letters and letter numbers. -/
def letters : Property := .category ["Lu", "Ll", "Lt", "Lm", "Lo", "Nl"]

def alphabetic : Property := .either letters (.listed otherAlphabetic)

def lowercase : Property := .either (.category ["Ll"]) (.listed otherLowercase)

def uppercase : Property := .either (.category ["Lu"]) (.listed otherUppercase)

/-- The characters that start identifiers. -/
def idStart : Property :=
  .without (.either letters (.listed otherIdStart)) (.listed syntaxLetters)

/-- The characters that continue identifiers. -/
def idContinue : Property :=
  .either (.either idStart (.category ["Mn", "Mc", "Nd", "Pc"])) (.listed otherIdContinue)

def word : Property :=
  .either (.either alphabetic (.category ["Mn", "Mc", "Me", "Nd", "Pc"])) (.listed joinControl)

def digit : Property := .category ["Nd"]

/-- Letters and numbers of all kinds. -/
def alphanumeric : Property := .either alphabetic (.category ["Nd", "Nl", "No"])

def named : List (List String × Property) :=
  [(["alpha", "alphabetic"], .alphabetic), (["lower", "lowercase"], .lowercase),
    (["upper", "uppercase"], .uppercase), (["space", "wspace", "whitespace"], .blank),
    (["emoji"], .listed emoji), (["epres", "emojipresentation"], .listed emojiPresentation),
    (["emod", "emojimodifier"], .listed emojiModifier),
    (["ebase", "emojimodifierbase"], .listed emojiModifierBase),
    (["ecomp", "emojicomponent"], .listed emojiComponent),
    (["extpict", "extendedpictographic"], .listed extendedPictographic),
    (["hex", "hexdigit"], .listed hexDigit), (["ahex", "asciihexdigit"], .listed asciiHexDigit),
    (["dash"], .listed dash), (["dia", "diacritic"], .listed diacritic),
    (["ext", "extender"], .listed extender), (["ideo", "ideographic"], .listed ideographic),
    (["uideo", "unifiedideograph"], .listed unifiedIdeograph), (["radical"], .listed radical),
    (["joinc", "joincontrol"], .listed joinControl),
    (["nchar", "noncharactercodepoint"], .listed noncharacterCodePoint),
    (["qmark", "quotationmark"], .listed quotationMark),
    (["vs", "variationselector"], .listed variationSelector),
    (["ri", "regionalindicator"], .listed regionalIndicator),
    (["sd", "softdotted"], .listed softDotted),
    (["term", "terminalpunctuation"], .listed terminalPunctuation),
    (["sterm", "sentenceterminal"], .listed sentenceTerminal),
    (["bidic", "bidicontrol"], .listed bidiControl),
    (["di", "defaultignorablecodepoint"], .listed defaultIgnorableCodePoint),
    (["dep", "deprecated"], .listed deprecated),
    (["loe", "logicalorderexception"], .listed logicalOrderException),
    (["pcm", "prependedconcatenationmark"], .listed prependedConcatenationMark),
    (["idsb", "idsbinaryoperator"], .listed idsBinaryOperator),
    (["idst", "idstrinaryoperator"], .listed idsTrinaryOperator),
    (["xids", "xidstart"], .without .idStart (.listed unstableIdStart)),
    (["xidc", "xidcontinue"], .without .idContinue (.listed unstableIdContinue)),
    (["patsyn", "patternsyntax"], .listed patternSyntax),
    (["patws", "patternwhitespace"], .listed patternWhiteSpace),
    (["math"], .either (.category ["Sm"]) (.listed otherMath)),
    (["cased"], .either (.either .lowercase .uppercase) (.category ["Lt"])),
    (["ids", "idstart"], .idStart), (["idc", "idcontinue"], .idContinue)]

/-- The essential characters of a name. -/
def plainName (name : String) : String :=
  let plain (cs : List Char) : List Char :=
    (cs.filter fun c => c ≠ ' ' && c ≠ '_' && c ≠ '-' && c.toNat < 128).map Char.toLower
  let cs := name.toList
  let marked := (cs.take 2).map Char.toLower = ['i', 's']
  let rest := plain (cs.drop 2)
  String.ofList (if marked && rest ≠ ['c'] then rest else plain cs)

/-- The code that a name stands for in a list of codes with their other names. -/
def codeNamed? (codes : List (List String)) (name : String) : Option String :=
  (codes.find? fun names => names.any fun other => plainName other = name).bind List.head?

/-- The general category or group of categories that a name stands for. -/
def categoryNamed? (name : String) : Option Property :=
  if name = "any" then some .any
  else if name = "ascii" then some .ascii
  else if name = "assigned" then some (.without .any (.category ["Cn"]))
  else (codeNamed? categoryNames name).map fun code => .category (categoriesOf code)

def scriptNamed? (name : String) : Option Property :=
  (codeNamed? scriptNames name).map .script

def ofName? (name : String) : Option Property :=
  let name := plainName name
  match named.find? fun e => e.1.contains name with
  | some (_, property) => some property
  | none => (categoryNamed? name).orElse fun _ => scriptNamed? name

/-- The property that a value of a named kind stands for. -/
def ofValue? (kind value : String) : Option Property :=
  let kind := plainName kind
  let value := plainName value
  if kind = "gc" ∨ kind = "generalcategory" then categoryNamed? value
  else if kind = "sc" ∨ kind = "script" ∨ kind = "scx" ∨ kind = "scriptextensions" then
    scriptNamed? value
  else none

end Property

end ScaffoldRunner.Unicode
