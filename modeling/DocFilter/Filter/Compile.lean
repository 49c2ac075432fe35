import DocFilter.Filter.Document
import DocFilter.Query.Parser

/-!
Queries become filters:

    eq(f, v)                 {f: v}
    ne(f, v), gt(f, v), …    {f: {"$ne": v}}, {f: {"$gt": v}}, …
    and(p, q, …)             {"$and": [p', q', …]}
    or(p, q, …)              {"$or": [p', q', …]}
    v                        {"$or": [{f: v}, …]}, with an item for each of the given fields
-/

namespace DocFilter.Filter

open Query

def Value.ofLiteral : Literal → Value
  | .number n => .int n
  | .string s => .string s
  | .boolean b => .bool b
  | .date t => .date t.utc

/-- A literal compared with each of the fields. -/
def fanOut (fields : List String) (v : Literal) : Document :=
  .single LogOp.or.symbol (.array (fields.map fun f => .single f (.ofLiteral v)))

def comparison (op : RelOp) (field : String) (v : Literal) : Document :=
  match op.symbol? with
  | none => .single field (.ofLiteral v)
  | some symbol => .single field (.document (.single symbol (.ofLiteral v)))

mutual

/-- The filter for a query. A logical function is refused before its arguments are looked at. -/
def ofNode (fields : List String) : Node → Except TooFewArguments Document
  | .literal v => .ok (fanOut fields v)
  | .relational op field v => .ok (comparison op field v)
  | .logical op arguments =>
    if arguments.length < 2 then .error ⟨op, arguments.length⟩
    else (ofNodes fields arguments).map fun ds => .single op.symbol (.array ds)

def ofNodes (fields : List String) : List Node → Except TooFewArguments (List Document)
  | [] => .ok []
  | n :: ns => do
    let d ← ofNode fields n
    let ds ← ofNodes fields ns
    pure (d :: ds)

end

mutual

/-- The number of bare literals met up to the end of a query, where some were met before. If a
function is refused, those behind it are not met and the number is an error. -/
def countLiterals (met : Nat) : Node → Except Nat Nat
  | .literal _ => .ok (met + 1)
  | .relational _ _ _ => .ok met
  | .logical _ arguments =>
    if arguments.length < 2 then .error met else countLiteralsIn met arguments

def countLiteralsIn (met : Nat) : List Node → Except Nat Nat
  | [] => .ok met
  | n :: ns => do
    let met ← countLiterals met n
    countLiteralsIn met ns

end

/-- The number of bare literals that compiling a query meets. -/
def literalsMet (n : Node) : Nat :=
  match countLiterals 0 n with
  | .ok met => met
  | .error met => met

/-- Compiles a query, with the events on the way. Without fields there is a warning for each bare
literal, also for those met before a function is refused. -/
def compileTraced (fields : List String) (n : Node) : Traced Document :=
  let warnings := if fields.isEmpty then List.replicate (literalsMet n) .noFields else []
  match ofNode fields n with
  | .error e => ⟨warnings, .error (.defect (.arguments e))⟩
  | .ok d => ⟨warnings ++ [.compiled d.size], .ok d⟩

end DocFilter.Filter

namespace DocFilter

/-- Reads and compiles a query, with the events on the way. -/
def compileQueryTraced (fields : List String) (strict : Bool) (text : String) :
    Query.Traced Filter.Document :=
  let read := Query.parseTraced strict text
  match read.result with
  | .error e => ⟨read.events, .error e⟩
  | .ok n =>
    let compiled := Filter.compileTraced fields n
    ⟨read.events ++ compiled.events, compiled.result⟩

def compileQuery (fields : List String) (strict : Bool) (text : String) :
    Except Query.Failure Filter.Document :=
  (compileQueryTraced fields strict text).result

end DocFilter
