import DocFilter.Query.Node
import Mathlib.Data.List.Basic
import Mathlib.Tactic.Lemma

/-!
Trees of queries: the literals in them, and the number of arguments of their functions.
-/

namespace DocFilter.Query.Node

/-- Every logical function has at least two arguments. -/
inductive Full : Node → Prop
  | literal {v : Literal} : Full (.literal v)
  | relational {op : RelOp} {f : String} {v : Literal} : Full (.relational op f v)
  | logical {op : LogOp} {ns : List Node} (two : 2 ≤ ns.length) (all : ∀ n ∈ ns, Full n) :
      Full (.logical op ns)

mutual

/-- The literals of a query, as they are written from left to right. -/
def literals : Node → List Literal
  | literal v => [v]
  | relational _ _ v => [v]
  | logical _ ns => literalsIn ns

def literalsIn : List Node → List Literal
  | [] => []
  | n :: ns => literals n ++ literalsIn ns

end

lemma mem_literalsIn {v : Literal} {ns : List Node} :
    v ∈ literalsIn ns ↔ ∃ n ∈ ns, v ∈ n.literals := by
  induction ns with
  | nil => simp [literalsIn]
  | cons n ns ih => simp [literalsIn, ih]

lemma literalsIn_append (ns ms : List Node) :
    literalsIn (ns ++ ms) = literalsIn ns ++ literalsIn ms := by
  induction ns with
  | nil => rfl
  | cons n ns ih => simp [literalsIn, ih]

end DocFilter.Query.Node
