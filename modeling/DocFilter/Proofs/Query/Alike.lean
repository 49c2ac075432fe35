import DocFilter.Proofs.Query.Tree
import DocFilter.Query.Parser
import Mathlib.Data.List.Forall2

/-!
Trees that are the same but for their literals, and the states of the machine that build them.
-/

namespace DocFilter.Query

/-- The trees differ at most in their literals. -/
inductive Node.Alike : Node → Node → Prop
  | literal {v w : Literal} : Alike (.literal v) (.literal w)
  | relational {op : RelOp} {f : String} {v w : Literal} :
      Alike (.relational op f v) (.relational op f w)
  | logical {op : LogOp} {ns ms : List Node} (arguments : List.Forall₂ Alike ns ms) :
      Alike (.logical op ns) (.logical op ms)

mutual

theorem Node.Alike.refl : ∀ n : Node, n.Alike n
  | .literal _ => .literal
  | .relational .. => .relational
  | .logical _ ns => .logical (Node.Alike.refl_all ns)

theorem Node.Alike.refl_all : ∀ ns : List Node, List.Forall₂ Node.Alike ns ns
  | [] => .nil
  | n :: ns => .cons (Node.Alike.refl n) (Node.Alike.refl_all ns)

end

mutual

theorem Node.Alike.length_literals : ∀ {n m : Node}, n.Alike m →
    n.literals.length = m.literals.length
  | _, _, .literal => rfl
  | _, _, .relational => rfl
  | _, _, .logical arguments => Node.Alike.length_literalsIn arguments

theorem Node.Alike.length_literalsIn : ∀ {ns ms : List Node}, List.Forall₂ Node.Alike ns ms →
    (Node.literalsIn ns).length = (Node.literalsIn ms).length
  | _, _, .nil => rfl
  | _, _, .cons h hs => by
    rw [Node.literalsIn, Node.literalsIn, List.length_append, List.length_append,
      h.length_literals, Node.Alike.length_literalsIn hs]

end

mutual

/-- Alike trees with the same literals are the same. -/
theorem Node.Alike.eq_of_literals : ∀ {n m : Node}, n.Alike m → n.literals = m.literals → n = m
  | _, _, .literal, heq => congrArg Node.literal (List.head_eq_of_cons_eq heq)
  | _, _, .relational, heq => congrArg (Node.relational _ _) (List.head_eq_of_cons_eq heq)
  | _, _, .logical arguments, heq =>
    congrArg (Node.logical _) (Node.Alike.eq_of_literalsIn arguments heq)

theorem Node.Alike.eq_of_literalsIn : ∀ {ns ms : List Node}, List.Forall₂ Node.Alike ns ms →
    Node.literalsIn ns = Node.literalsIn ms → ns = ms
  | _, _, .nil, _ => rfl
  | _, _, .cons h hs, heq => by
    obtain ⟨hhead, htail⟩ := List.append_inj heq h.length_literals
    rw [h.eq_of_literals hhead, Node.Alike.eq_of_literalsIn hs htail]

end

namespace Parser

inductive Mode.Alike : Mode → Mode → Prop
  | expression : Alike .expression .expression
  | openRelational {op : RelOp} : Alike (.openRelational op) (.openRelational op)
  | openLogical {op : LogOp} : Alike (.openLogical op) (.openLogical op)
  | field {op : RelOp} : Alike (.field op) (.field op)
  | comma {op : RelOp} {f : String} : Alike (.comma op f) (.comma op f)
  | value {op : RelOp} {f : String} : Alike (.value op f) (.value op f)
  | close {op : RelOp} {f : String} {v w : Literal} : Alike (.close op f v) (.close op f w)
  | argument {op : LogOp} {ns ms : List Node} (arguments : List.Forall₂ Node.Alike ns ms) :
      Alike (.argument op ns) (.argument op ms)

structure Frame.Alike (e e' : Frame) : Prop where
  operator : e.operator = e'.operator
  arguments : List.Forall₂ Node.Alike e.arguments e'.arguments

/-- The states differ at most in the literals that have been read. -/
inductive State.Alike : State → State → Prop
  | reading {mode mode' : Mode} {outer outer' : List Frame} (inner : mode.Alike mode')
      (around : List.Forall₂ Frame.Alike outer outer') :
      Alike (.reading mode outer) (.reading mode' outer')
  | complete {n m : Node} (query : n.Alike m) : Alike (.complete n) (.complete m)

lemma Mode.Alike.expected {mode mode' : Mode} (h : mode.Alike mode') :
    mode.expected = mode'.expected := by
  cases h with
  | argument arguments => rw [Mode.expected, Mode.expected, arguments.length_eq]
  | _ => rfl

lemma attach_alike {n m : Node} {outer outer' : List Frame} (h : n.Alike m)
    (ho : List.Forall₂ Frame.Alike outer outer') : (attach n outer).Alike (attach m outer') := by
  cases ho with
  | nil => exact .complete h
  | @cons e e' _ _ he ho =>
    obtain ⟨op, ns⟩ := e
    obtain ⟨_, ms⟩ := e'
    obtain ⟨rfl, ha⟩ := he
    exact .reading (.argument (.cons h ha)) ho

end Parser

end DocFilter.Query
