import DocFilter.Token.Basic

/-!
The lexical rules. A rule says how many characters at the front of a text it takes; of a table
of rules the first one that takes any wins.
-/

namespace DocFilter.Token

open Text

/-- A rule without a kind takes text that is skipped. -/
structure Rule where
  kind : Option Kind
  /-- The number of leading characters taken, zero where the rule does not apply. -/
  length : List Char → Nat

namespace Rule

/-- One given character. -/
def single (p : Char) : List Char → Nat
  | c :: _ => if c = p then 1 else 0
  | [] => 0

/-- As many characters of a class as there are. -/
def run (p : Char → Bool) (cs : List Char) : Nat := (cs.takeWhile p).length

/-- A whole word that is one of the given ones. -/
def keyword (words : List String) (cs : List Char) : Nat :=
  if words.contains (String.ofList (cs.takeWhile isWord)) then run isWord cs else 0

/-- A quote up to and including the next one of the same sort. -/
def quoted (quote : Char) : List Char → Nat
  | c :: cs =>
    let body := run (· ≠ quote) cs
    if c = quote ∧ body < cs.length then body + 2 else 0
  | [] => 0

/-- Whether a text starts with a pattern, in which a zero stands for any digit. -/
def fits : List Char → List Char → Bool
  | [], _ => true
  | _ :: _, [] => false
  | p :: pattern, c :: cs => (if p = '0' then c.isDigit else c = p) && fits pattern cs

/-- A point and the digits after it. -/
def fraction : List Char → Nat
  | '.' :: cs => if run Char.isDigit cs = 0 then 0 else run Char.isDigit cs + 1
  | _ => 0

/-- An offset from UTC. -/
def zone (cs : List Char) : Nat :=
  if fits ['Z'] cs then 1
  else if fits "+00:00".toList cs || fits "-00:00".toList cs then 6
  else 0

/-- The date, the time and all digits of its fraction. -/
def stamp (cs : List Char) : Nat :=
  if fits "0000-00-00T00:00:00".toList cs then 19 + fraction (cs.drop 19) else 0

/-- A date with time and offset. -/
def timestamp (cs : List Char) : Nat :=
  let whole := stamp cs
  let offset := zone (cs.drop whole)
  if whole = 0 ∨ offset = 0 then 0 else whole + offset

def whitespace : Rule := ⟨none, run isBlank⟩
def openParen : Rule := ⟨some .openParen, single '('⟩
def closeParen : Rule := ⟨some .closeParen, single ')'⟩
def comma : Rule := ⟨some .comma, single ','⟩
def date : Rule := ⟨some .date, timestamp⟩
def number : Rule := ⟨some .number, run Char.isDigit⟩
def relationalOperator : Rule :=
  ⟨some .relationalOperator, keyword ["eq", "ne", "lt", "le", "gt", "ge"]⟩
def logicalOperator : Rule := ⟨some .logicalOperator, keyword ["and", "or"]⟩
def boolean : Rule := ⟨some .boolean, keyword ["true", "false"]⟩
def identifier : Rule := ⟨some .identifier, run isWord⟩
def doubleQuoted : Rule := ⟨some .string, quoted '"'⟩
def singleQuoted : Rule := ⟨some .string, quoted '\''⟩

/-- The rules of the query language. Dates stand before numbers, which would take their year;
numbers and keywords stand before identifiers, which share their characters. -/
def table : List Rule :=
  [whitespace, openParen, closeParen, comma, date, number, relationalOperator, logicalOperator,
    boolean, identifier, doubleQuoted, singleQuoted]

/-- What the first rule that applies takes: its kind and a positive number of characters. -/
def first? (rules : List Rule) (cs : List Char) : Option (Option Kind × Nat) :=
  rules.findSome? fun r => if 0 < r.length cs then some (r.kind, r.length cs) else none

theorem first?_pos {rules : List Rule} {cs : List Char} {k : Option Kind} {n : Nat}
    (h : first? rules cs = some (k, n)) : 0 < n := by
  obtain ⟨r, -, hr⟩ := List.exists_of_findSome?_eq_some h
  split at hr
  · cases hr; assumption
  · cases hr

end Rule

end DocFilter.Token
