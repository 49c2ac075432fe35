import DocFilter.Time.Rfc3339
import DocFilter.Token.Basic

/-!
Why a text is no query, and the message for each cause.
-/

namespace DocFilter.Query

/-- What is missing where a query breaks off or goes on differently. -/
inductive Expected
  | kind (k : Token.Kind)
  /-- A number, a string, a boolean or a date. -/
  | literal
  deriving DecidableEq, Repr

def Expected.display : Expected → String
  | kind k => k.display
  | literal => "LITERAL"

/-- Why a literal has no value. -/
inductive Reason
  | tooLarge
  | date (e : Timestamp.ReadError)
  | other (text : String)
  deriving DecidableEq, Repr

def Reason.message : Reason → String
  | tooLarge => "number too large to fit in target type"
  | date e => e.message
  | other text => text

end DocFilter.Query

namespace DocFilter

/-- Positions count the bytes of the query. -/
inductive QueryError
  | unexpectedCharacter (s : Token.Stray)
  | noTokens
  | unexpectedToken (found : Token) (expected : Query.Expected)
  | unexpectedEnd (expected : Query.Expected) (position : Nat)
  | invalidLiteral (text : String) (reason : Query.Reason) (position : Nat)
  | trailingInput (found : Token)
  deriving DecidableEq, Repr

namespace QueryError

/-- Where the error shows, unless the query is empty. -/
def position? : QueryError → Option Nat
  | unexpectedCharacter s => some s.position
  | noTokens => none
  | unexpectedToken found _ => some found.offset
  | unexpectedEnd _ position => some position
  | invalidLiteral _ _ position => some position
  | trailingInput found => some found.offset

def message : QueryError → String
  | unexpectedCharacter s => s!"unexpected character '{s.character}' at position {s.position}"
  | noTokens => "no tokens present"
  | unexpectedToken found expected =>
    s!"unexpected token: {found.text}, expected: {expected.display} at position {found.offset}"
  | unexpectedEnd expected position =>
    s!"unexpected end of input, expected: {expected.display} at position {position}"
  | invalidLiteral text reason position =>
    s!"invalid literal '{text}' at position {position}: {reason.message}"
  | trailingInput found =>
    s!"unexpected trailing input: {found.text} at position {found.offset}"

end QueryError

end DocFilter
