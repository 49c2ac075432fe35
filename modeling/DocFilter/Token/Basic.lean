import DocFilter.Text.Basic

/-!
Tokens of the query language: a kind, the exact text, and the byte where the text starts.
-/

namespace DocFilter

namespace Token

inductive Kind
  | number | string | boolean | date
  | openParen | closeParen | comma
  | relationalOperator | logicalOperator | identifier
  deriving DecidableEq, Repr

namespace Kind

def all : List Kind :=
  [number, string, boolean, date, openParen, closeParen, comma,
    relationalOperator, logicalOperator, identifier]

/-- The name a kind has in data. -/
def name : Kind → String
  | number => "number"
  | string => "string"
  | boolean => "boolean"
  | date => "date"
  | openParen => "open_paren"
  | closeParen => "close_paren"
  | comma => "comma"
  | relationalOperator => "relational_operator"
  | logicalOperator => "logical_operator"
  | identifier => "identifier"

/-- The name a kind has in messages. -/
def display : Kind → String
  | number => "NUMBER"
  | string => "STRING"
  | boolean => "BOOLEAN"
  | date => "DATE"
  | openParen => "("
  | closeParen => ")"
  | comma => ","
  | relationalOperator => "RELATIONAL_OPERATOR"
  | logicalOperator => "LOGICAL_OPERATOR"
  | identifier => "IDENTIFIER"

def ofName? (s : String) : Option Kind := all.find? (·.name = s)

theorem ofName?_name (k : Kind) : ofName? k.name = some k := by cases k <;> decide

end Kind

/-- A character that starts no token, and the byte where it stands. -/
structure Stray where
  character : Char
  position : Nat
  deriving DecidableEq, Repr

end Token

/-- A piece of a query. A string token keeps its quotes. -/
structure Token where
  kind : Token.Kind
  text : String
  /-- The byte of the query at which `text` starts. -/
  offset : Nat
  deriving DecidableEq, Repr

end DocFilter
