import LineSelect.Unicode.Age
import LineSelect.Unicode.Category
import LineSelect.Unicode.Property
import LineSelect.Unicode.Script
import LineSelect.Unicode.ScriptExtensions
import LineSelect.Unicode.Segmentation

/-!
Sets of characters by name. Names are compared in lower case and without separators.
-/

namespace LineSelect.Unicode

/-- The form in which names are compared: ASCII only, lower case, without blanks, underscores and
hyphens, and without an `is` in front. The name `isc` alone keeps its front part. -/
def normalizeName (name : String) : String :=
  let chars := name.toList
  let hasFront := match chars with
    | a :: b :: _ => a.toLower == 'i' && b.toLower == 's'
    | _ => false
  let kept := ((if hasFront then chars.drop 2 else chars).filter fun c =>
    c.toNat < 128 && c != ' ' && c != '_' && c != '-').map Char.toLower
  if hasFront && kept == ['c'] then "isc" else String.ofList kept

/-- The members of category Other, surrogates aside. -/
def Category.others : CodePoints :=
  Category.assignedOthers.union Category.unassigned

/-- The general category, group of categories or catch-all set with a normalized name. -/
def generalCategory? : String → Option CodePoints
  | "any" => some .full
  | "assigned" => some Category.unassigned.complement
  | "ascii" => some ⟨[(0, 0x7F)]⟩
  | "l" | "letter" => some Category.letters
  | "lc" | "casedletter" => some Category.casedLetters
  | "lu" | "uppercaseletter" => some Category.uppercaseLetter.codePoints
  | "ll" | "lowercaseletter" => some Category.lowercaseLetter.codePoints
  | "lt" | "titlecaseletter" => some Category.titlecaseLetter.codePoints
  | "lm" | "modifierletter" => some Category.modifierLetter.codePoints
  | "lo" | "otherletter" => some Category.otherLetter.codePoints
  | "m" | "mark" | "combiningmark" => some Category.marks
  | "mn" | "nonspacingmark" => some Category.nonspacingMark.codePoints
  | "mc" | "spacingmark" => some Category.spacingMark.codePoints
  | "me" | "enclosingmark" => some Category.enclosingMark.codePoints
  | "n" | "number" => some Category.numbers
  | "nd" | "decimalnumber" | "digit" => some Category.decimalNumber.codePoints
  | "nl" | "letternumber" => some Category.letterNumber.codePoints
  | "no" | "othernumber" => some Category.otherNumber.codePoints
  | "p" | "punctuation" | "punct" => some Category.punctuation
  | "pc" | "connectorpunctuation" => some Category.connectorPunctuation.codePoints
  | "pd" | "dashpunctuation" => some Category.dashPunctuation.codePoints
  | "ps" | "openpunctuation" => some Category.openPunctuation.codePoints
  | "pe" | "closepunctuation" => some Category.closePunctuation.codePoints
  | "pi" | "initialpunctuation" => some Category.initialPunctuation.codePoints
  | "pf" | "finalpunctuation" => some Category.finalPunctuation.codePoints
  | "po" | "otherpunctuation" => some Category.otherPunctuation.codePoints
  | "s" | "symbol" => some Category.symbols
  | "sm" | "mathsymbol" => some Category.mathSymbol.codePoints
  | "sc" | "currencysymbol" => some Category.currencySymbol.codePoints
  | "sk" | "modifiersymbol" => some Category.modifierSymbol.codePoints
  | "so" | "othersymbol" => some Category.otherSymbol.codePoints
  | "z" | "separator" => some Category.separators
  | "zs" | "spaceseparator" => some Category.spaceSeparator.codePoints
  | "zl" | "lineseparator" => some Category.lineSeparator.codePoints
  | "zp" | "paragraphseparator" => some Category.paragraphSeparator.codePoints
  | "c" | "other" => some Category.others
  | "cc" | "control" | "cntrl" => some Category.control.codePoints
  | "cf" | "format" => some Category.format.codePoints
  | "co" | "privateuse" => some Category.privateUse.codePoints
  | "cn" | "unassigned" => some Category.unassigned
  | _ => none

/-- A set given by one name: a property, a general category or a script. The short names of three
categories are also short names of properties, and mean the categories. -/
def namedSet? (name : String) : Option CodePoints :=
  let name := normalizeName name
  let property := if name == "cf" || name == "sc" || name == "lc" then none else property? name
  property.or <| (generalCategory? name).or <| script? name

/-- A set given as the value of a property. -/
def valueSet? (property value : String) : Option CodePoints :=
  let value := normalizeName value
  match normalizeName property with
  | "gc" | "generalcategory" | "category" => generalCategory? value
  | "sc" | "script" => script? value
  | "scx" | "scriptextensions" => (scriptExtension? value).or (script? value)
  | "age" => age? value
  | "gcb" | "graphemeclusterbreak" => graphemeBreak? value
  | "wb" | "wordbreak" => wordBreak? value
  | "sb" | "sentencebreak" => sentenceBreak? value
  | _ => none

end LineSelect.Unicode
