import DocFilter.Json.Basic
import DocFilter.Query.Node
import DocFilter.Time.Rfc3339

/-!
Queries as JSON. Dates keep the offset at which they are written.
-/

namespace DocFilter.Query

def Literal.toJson : Literal → Json
  | number n => .single "NumericLiteral" (.int n)
  | string s => .single "StringLiteral" (.str s)
  | boolean b => .single "BooleanLiteral" (.bool b)
  | date t => .single "DateLiteral" (.str t.toText)

namespace Node

mutual

def toJson : Node → Json
  | literal v => .single "Literal" v.toJson
  | relational op field v =>
    .single "RelationalFunction"
      (.obj [("operator", .str op.keyword), ("field", .str field), ("value", v.toJson)])
  | logical op arguments =>
    .single "LogicalFunction"
      (.obj [("operator", .str op.keyword), ("arguments", .arr (listToJson arguments))])

def listToJson : List Node → List Json
  | [] => []
  | n :: ns => toJson n :: listToJson ns

end

/-- A query as a whole. -/
def programToJson (n : Node) : Json := .single "body" n.toJson

end Node

end DocFilter.Query
