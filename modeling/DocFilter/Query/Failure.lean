import DocFilter.Query.Event

/-!
How reading or compiling a query ends: with a result, with an error of the query, or with a
defect, which no query brings about.
-/

namespace DocFilter.Query

/-- A logical function with fewer than two arguments. -/
structure TooFewArguments where
  operator : LogOp
  count : Nat
  deriving DecidableEq, Repr

def TooFewArguments.message (e : TooFewArguments) : String :=
  s!"logical function '{e.operator.keyword}' requires at least two arguments, got {e.count}"

/-- A state of affairs that no query brings about. -/
inductive Defect
  /-- An operator token that names no operator. -/
  | operator (text : String)
  /-- A string token that is not between quotes. -/
  | quotes (text : String)
  /-- A boolean token that is neither true nor false. -/
  | boolean (text : String)
  | arguments (e : TooFewArguments)
  deriving DecidableEq, Repr

def Defect.message : Defect → String
  | operator text => s!"no operator: '{text}'"
  | quotes text => s!"no quotes: '{text}'"
  | boolean text => s!"no boolean: '{text}'"
  | arguments e => e.message

inductive Failure
  | query (e : QueryError)
  | defect (d : Defect)
  deriving DecidableEq, Repr

def Failure.message : Failure → String
  | query e => e.message
  | defect d => d.message

/-- A result and the events on the way to it. -/
structure Traced (α : Type) where
  events : List Event
  result : Except Failure α

def Traced.map {α β : Type} (f : α → β) (t : Traced α) : Traced β := ⟨t.events, t.result.map f⟩

end DocFilter.Query
