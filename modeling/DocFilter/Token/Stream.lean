import DocFilter.Token.Scanner

/-!
All that a scanner will yield, as one value: tokens, and then the end of the query or a stray
character.
-/

namespace DocFilter.Token

inductive Stream
  | finished (position : Nat)
  | stray (s : Stray)
  | token (t : Token) (rest : Stream)
  deriving DecidableEq, Repr

namespace Stream

/-- What a scanner yields by a table of rules. -/
def scanBy (rules : List Rule) (s : Scanner) : Stream :=
  match _h : s.pullBy rules with
  | (.finished, s') => .finished s'.cursor
  | (.stray e, _) => .stray e
  | (.token t, s') => .token t (scanBy rules s')
termination_by s.rest.length
decreasing_by exact Scanner.pullBy_shorter _h

/-- What the query language's scanner yields for a query. -/
def ofText (text : String) : Stream := scanBy Rule.table (.ofText text)

/-- The tokens, up to a stray character. -/
def tokens : Stream → List Token
  | finished _ => []
  | stray _ => []
  | token t rest => t :: tokens rest

/-- The tokens, if they reach the end of the query. -/
def toList : Stream → Except Stray (List Token)
  | finished _ => .ok []
  | stray e => .error e
  | token t rest => (toList rest).map (t :: ·)

end Stream

/-- All tokens of a query, or its first stray character. -/
def tokenize (text : String) : Except Stray (List Token) := (Stream.ofText text).toList

end DocFilter.Token
