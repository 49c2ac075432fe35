import DocFilter.Log.Record
import DocFilter.Query.Error
import DocFilter.Query.Operator
import DocFilter.Text.Quoted

/-!
What happens while a query is read and compiled, and the log record of each event.
-/

namespace DocFilter.Query

inductive Event
  | scanned (t : Token)
  | enteringRelational (op : RelOp)
  | enteringLogical (op : LogOp)
  | parsed (text : String)
  /-- A bare literal met with no fields to compare it with. -/
  | noFields
  | compiled (keys : Nat)
  deriving DecidableEq, Repr

/-- The record of an event in the log. -/
def Event.record : Event → Log.Record
  | scanned t =>
    ⟨.trace, "filter_query::scanner", s!"scanned {t.kind.display} '{t.text}' at {t.offset}"⟩
  | enteringRelational op =>
    ⟨.trace, "filter_query::parser", s!"entering relational function '{op.keyword}'"⟩
  | enteringLogical op =>
    ⟨.trace, "filter_query::parser", s!"entering logical function '{op.keyword}'"⟩
  | parsed text => ⟨.debug, "filter_query::parser", s!"parsed query {Text.shown text}"⟩
  | noFields =>
    ⟨.warn, "filter_query::compiler",
      "no literal comparison fields configured; bare literal yields an empty $or"⟩
  | compiled keys =>
    ⟨.debug, "filter_query::compiler", s!"compiled filter with {keys} top-level key(s)"⟩

end DocFilter.Query
