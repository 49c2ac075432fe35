import DocFilter.Query.Operator
import DocFilter.Time.Timestamp

/-!
Queries as trees. Two trees are the same query when they differ at most in the offsets at which
instants are written.
-/

namespace DocFilter.Query

/-- A value written in a query. -/
inductive Literal
  | number (n : Int)
  | string (s : String)
  | boolean (b : Bool)
  | date (t : Timestamp)
  deriving DecidableEq, Repr

inductive Node
  | literal (value : Literal)
  | relational (operator : RelOp) (field : String) (value : Literal)
  | logical (operator : LogOp) (arguments : List Node)
  deriving Repr

/-- The largest number that can be written in a query. -/
def Literal.maxNumber : Nat := 9223372036854775807

def Literal.same : Literal → Literal → Bool
  | date s, date t => s.same t
  | v, w => v = w

namespace Node

mutual

/-- Equality in which dates count as instants. -/
def same : Node → Node → Bool
  | literal v, literal w => v.same w
  | relational op f v, relational op' f' w => op = op' && f = f' && v.same w
  | logical op args, logical op' args' => op = op' && sameAll args args'
  | _, _ => false

def sameAll : List Node → List Node → Bool
  | [], [] => true
  | n :: ns, m :: ms => same n m && sameAll ns ms
  | _, _ => false

end

end Node

end DocFilter.Query
