/-!
The operators of the query language: six that compare a field with a value, two that combine
queries.
-/

namespace DocFilter.Query

inductive RelOp
  | eq | ne | gt | ge | lt | le
  deriving DecidableEq, Repr

inductive LogOp
  | and | or
  deriving DecidableEq, Repr

/-- A word that names no operator of the sort asked for. -/
inductive UnknownOperator
  | relational (word : String)
  | logical (word : String)
  deriving DecidableEq, Repr

def UnknownOperator.message : UnknownOperator → String
  | relational word => s!"unknown relational operator: '{word}'"
  | logical word => s!"unknown logical operator: '{word}'"

namespace RelOp

def all : List RelOp := [eq, ne, gt, ge, lt, le]

def keyword : RelOp → String
  | eq => "eq"
  | ne => "ne"
  | gt => "gt"
  | ge => "ge"
  | lt => "lt"
  | le => "le"

def ofKeyword? (word : String) : Option RelOp := all.find? (·.keyword = word)

def ofKeyword (word : String) : Except UnknownOperator RelOp :=
  match ofKeyword? word with
  | some op => .ok op
  | none => .error (.relational word)

/-- The operator of a filter that compares the same way. Equality needs none. -/
def symbol? : RelOp → Option String
  | eq => none
  | ne => some "$ne"
  | gt => some "$gt"
  | ge => some "$gte"
  | lt => some "$lt"
  | le => some "$lte"

theorem ofKeyword?_keyword (op : RelOp) : ofKeyword? op.keyword = some op := by
  cases op <;> decide

end RelOp

namespace LogOp

def all : List LogOp := [and, or]

def keyword : LogOp → String
  | and => "and"
  | or => "or"

def ofKeyword? (word : String) : Option LogOp := all.find? (·.keyword = word)

def ofKeyword (word : String) : Except UnknownOperator LogOp :=
  match ofKeyword? word with
  | some op => .ok op
  | none => .error (.logical word)

/-- The operator of a filter that combines the same way. -/
def symbol : LogOp → String
  | and => "$and"
  | or => "$or"

theorem ofKeyword?_keyword (op : LogOp) : ofKeyword? op.keyword = some op := by
  cases op <;> decide

end LogOp

end DocFilter.Query
