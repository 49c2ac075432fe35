import DocFilter.Pattern.Tree
import DocFilter.Text.Category
import DocFilter.Text.Script

/-!
The characters of the classes that patterns can name.
-/

namespace DocFilter.Pattern

open Text (Ranges)

def AsciiClass.ranges : AsciiClass → Ranges
  | alnum => [(0x30, 0x39), (0x41, 0x5a), (0x61, 0x7a)]
  | alpha => [(0x41, 0x5a), (0x61, 0x7a)]
  | ascii => [(0x0, 0x7f)]
  | blank => [(0x9, 0x9), (0x20, 0x20)]
  | cntrl => [(0x0, 0x1f), (0x7f, 0x7f)]
  | digit => [(0x30, 0x39)]
  | graph => [(0x21, 0x7e)]
  | lower => [(0x61, 0x7a)]
  | print => [(0x20, 0x7e)]
  | punct => [(0x21, 0x2f), (0x3a, 0x40), (0x5b, 0x60), (0x7b, 0x7e)]
  | space => [(0x9, 0xd), (0x20, 0x20)]
  | upper => [(0x41, 0x5a)]
  | word => [(0x30, 0x39), (0x41, 0x5a), (0x5f, 0x5f), (0x61, 0x7a)]
  | xdigit => [(0x30, 0x39), (0x41, 0x46), (0x61, 0x66)]

namespace LetterClass

def ranges : LetterClass → Ranges
  | digit => Text.decimalDigits
  | space => Text.whiteSpace
  | word => Text.wordCharacters

/-- The characters of ASCII alone. -/
def asciiRanges : LetterClass → Ranges
  | digit => AsciiClass.digit.ranges
  | space => AsciiClass.space.ranges
  | word => AsciiClass.word.ranges

end LetterClass

namespace Property

/-- A name as names are compared: without case, blanks, hyphens and underscores, without characters
that are not of ASCII, and without an "is" at its front. -/
def plainName (name : String) : String :=
  let plain (cs : List Char) : List Char :=
    (cs.filter fun c => c.toNat < 128 && c ≠ ' ' && c ≠ '-' && c ≠ '_').map Char.toLower
  let cs := name.toList
  if (cs.take 2).map Char.toLower = ['i', 's'] then
    let rest := plain (cs.drop 2)
    String.ofList (if rest = ['c'] then ['i', 's', 'c'] else rest)
  else String.ofList (plain cs)

/-- The general categories: their names, and the abbreviations of those they are made of. -/
def categories : List (List String × List String) :=
  [(["l", "letter"], ["Lu", "Ll", "Lt", "Lm", "Lo"]),
    (["lc", "casedletter"], ["Lu", "Ll", "Lt"]),
    (["lu", "uppercaseletter"], ["Lu"]),
    (["ll", "lowercaseletter"], ["Ll"]),
    (["lt", "titlecaseletter"], ["Lt"]),
    (["lm", "modifierletter"], ["Lm"]),
    (["lo", "otherletter"], ["Lo"]),
    (["m", "mark", "combiningmark"], ["Mn", "Mc", "Me"]),
    (["mn", "nonspacingmark"], ["Mn"]),
    (["mc", "spacingmark"], ["Mc"]),
    (["me", "enclosingmark"], ["Me"]),
    (["n", "number"], ["Nd", "Nl", "No"]),
    (["nd", "decimalnumber", "digit"], ["Nd"]),
    (["nl", "letternumber"], ["Nl"]),
    (["no", "othernumber"], ["No"]),
    (["p", "punctuation", "punct"], ["Pc", "Pd", "Ps", "Pe", "Pi", "Pf", "Po"]),
    (["pc", "connectorpunctuation"], ["Pc"]),
    (["pd", "dashpunctuation"], ["Pd"]),
    (["ps", "openpunctuation"], ["Ps"]),
    (["pe", "closepunctuation"], ["Pe"]),
    (["pi", "initialpunctuation"], ["Pi"]),
    (["pf", "finalpunctuation"], ["Pf"]),
    (["po", "otherpunctuation"], ["Po"]),
    (["s", "symbol"], ["Sm", "Sc", "Sk", "So"]),
    (["sm", "mathsymbol"], ["Sm"]),
    (["sc", "currencysymbol"], ["Sc"]),
    (["sk", "modifiersymbol"], ["Sk"]),
    (["so", "othersymbol"], ["So"]),
    (["z", "separator"], ["Zs", "Zl", "Zp"]),
    (["zs", "spaceseparator"], ["Zs"]),
    (["zl", "lineseparator"], ["Zl"]),
    (["zp", "paragraphseparator"], ["Zp"]),
    (["c", "other"], ["Cc", "Cf", "Cn", "Co"]),
    (["cc", "control", "cntrl"], ["Cc"]),
    (["cf", "format"], ["Cf"]),
    (["cn", "unassigned"], ["Cn"]),
    (["co", "privateuse"], ["Co"])]

/-- The characters of a general category, or of what is named among them. -/
def category? (name : String) : Option Ranges :=
  if name = "any" then some [(0, Text.lastCode)]
  else if name = "ascii" then some AsciiClass.ascii.ranges
  else if name = "assigned" then some (Ranges.ofCategories (· ≠ "Cn"))
  else (categories.find? (name ∈ ·.1)).map fun (_, parts) => Ranges.ofCategories (parts.contains ·)

def script? (name : String) : Option Ranges :=
  (Text.scripts.find? (name ∈ ·.1)).map (·.2)

/-- The characters with a property that has no values. -/
def binary? (name : String) : Option Ranges :=
  if name = "alphabetic" ∨ name = "alpha" then some Text.alphabetic
  else if name = "lowercase" ∨ name = "lower" then some Text.lowercase
  else if name = "uppercase" ∨ name = "upper" then some Text.uppercase
  else if name = "whitespace" ∨ name = "wspace" ∨ name = "space" then some Text.whiteSpace
  else if name = "asciihexdigit" ∨ name = "ahex" then some AsciiClass.xdigit.ranges
  else if name = "hexdigit" ∨ name = "hex" then
    some (AsciiClass.xdigit.ranges ++ [(0xff10, 0xff19), (0xff21, 0xff26), (0xff41, 0xff46)])
  else none

/-- The characters with a property, or what is not known of it. -/
def ranges (p : Property) : Except Fault Ranges :=
  let name := plainName p.name
  match p.value with
  | none =>
    match ((binary? name).or (category? name)).or (script? name) with
    | some s => .ok s
    | none => .error (if name = "cs" ∨ name = "surrogate" then .propertyValueNotFound
        else .propertyNotFound)
  | some value =>
    let value := plainName value
    let found :=
      if name = "gc" ∨ name = "generalcategory" then some (category? value)
      else if name = "sc" ∨ name = "script" then some (script? value)
      else none
    match found with
    | none => .error .propertyNotFound
    | some none => .error .propertyValueNotFound
    | some (some s) => .ok s

end Property

end DocFilter.Pattern
