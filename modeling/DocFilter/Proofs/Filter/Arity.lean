import DocFilter.Proofs.Filter.FanOut
import DocFilter.Proofs.Query.Preorder

/-!
Which trees have no filter: those with a logical function of fewer than two arguments. The refusal
names the first one in pre-order, as a function is looked at before its arguments and those from
left to right.
-/

namespace DocFilter

open Query

namespace Query.Node

/-- A logical function with fewer than two arguments. -/
inductive Short : Node → Prop
  | logical {op : LogOp} {ns : List Node} (few : ns.length < 2) : Short (.logical op ns)

/-- What is wrong with a node by itself. -/
def tooFew? : Node → Option TooFewArguments
  | literal _ => none
  | relational _ _ _ => none
  | logical op ns => if ns.length < 2 then some ⟨op, ns.length⟩ else none

lemma tooFew?_eq_some_iff {n : Node} {e : TooFewArguments} :
    n.tooFew? = some e ↔ ∃ op ns, n = .logical op ns ∧ ns.length < 2 ∧ e = ⟨op, ns.length⟩ := by
  cases n with
  | literal v => simp [tooFew?]
  | relational op f v => simp [tooFew?]
  | logical op ns => simp [tooFew?, eq_comm]

lemma tooFew?_eq_none_iff {n : Node} : n.tooFew? = none ↔ ¬ n.Short := by
  constructor
  · rintro h ⟨few⟩
    simp [tooFew?, few] at h
  · intro h
    by_contra hne
    obtain ⟨e, he⟩ := Option.ne_none_iff_exists'.mp hne
    obtain ⟨op, ns, rfl, few, -⟩ := tooFew?_eq_some_iff.mp he
    exact h (.logical few)

end Query.Node

namespace Filter

variable {fields : List String}

mutual

/-- Compiling looks at the nodes in pre-order, up to the first one with too few arguments. -/
theorem ofNode_eq : ∀ n : Node, ofNode fields n =
    match n.preorder.findSome? Node.tooFew? with
    | some e => .error e
    | none => .ok (document fields n)
  | .literal v => rfl
  | .relational op f v => rfl
  | .logical op ns => by
    rw [ofNode, Node.preorder, List.findSome?_cons, Node.tooFew?]
    by_cases few : ns.length < 2
    · simp [few]
    · rw [if_neg few, if_neg few, ofNodes_eq ns]
      cases (Node.preorderIn ns).findSome? Node.tooFew? <;> rfl

theorem ofNodes_eq : ∀ ns : List Node, ofNodes fields ns =
    match (Node.preorderIn ns).findSome? Node.tooFew? with
    | some e => .error e
    | none => .ok (documents fields ns)
  | [] => rfl
  | n :: ns => by
    rw [ofNodes, Node.preorderIn, List.findSome?_append, ofNode_eq n, ofNodes_eq ns]
    cases n.preorder.findSome? Node.tooFew? with
    | some e => rfl
    | none => cases (Node.preorderIn ns).findSome? Node.tooFew? <;> rfl

end

lemma ofNode_eq_error_iff {n : Node} {e : TooFewArguments} :
    ofNode fields n = .error e ↔ n.preorder.findSome? Node.tooFew? = some e := by
  rw [ofNode_eq]
  cases n.preorder.findSome? Node.tooFew? <;> simp

lemma exists_ofNode_eq_ok_iff {n : Node} :
    (∃ d, ofNode fields n = .ok d) ↔ n.preorder.findSome? Node.tooFew? = none := by
  rw [ofNode_eq]
  cases n.preorder.findSome? Node.tooFew? <;> simp

lemma findSome?_tooFew?_eq_none_iff {n : Node} :
    n.preorder.findSome? Node.tooFew? = none ↔ ¬ ∃ m, Subtree m n ∧ m.Short := by
  rw [List.findSome?_eq_none_iff]
  simp only [Node.mem_preorder_iff, Node.tooFew?_eq_none_iff]
  push Not
  rfl

/-- **The check of the arguments is exact.** A tree is refused when some logical function in it has
fewer than two arguments, and then the first of those in pre-order is named, with its operator and
how many arguments it has. Every other tree has a filter. -/
theorem ofNode_refuses_first_short (fields : List String) (n : Node) :
    (∀ e, ofNode fields n = .error e ↔ ∃ op ns front back,
      n.preorder = front ++ .logical op ns :: back ∧ ns.length < 2 ∧ (∀ m ∈ front, ¬ m.Short) ∧
        e = ⟨op, ns.length⟩ ∧ e.message =
          s!"logical function '{op.keyword}' requires at least two arguments, got {ns.length}") ∧
    ((∃ e, ofNode fields n = .error e) ↔ ∃ m, Subtree m n ∧ m.Short) ∧
    ((∃ d, ofNode fields n = .ok d) ↔ ¬ ∃ m, Subtree m n ∧ m.Short) := by
  refine ⟨fun e => ?_, ?_, ?_⟩
  · rw [ofNode_eq_error_iff, List.findSome?_eq_some_iff]
    constructor
    · rintro ⟨front, m, back, hsplit, hm, hfront⟩
      obtain ⟨op, ns, rfl, few, rfl⟩ := Node.tooFew?_eq_some_iff.mp hm
      exact ⟨op, ns, front, back, hsplit, few,
        fun m hm => Node.tooFew?_eq_none_iff.mp (hfront m hm), rfl, rfl⟩
    · rintro ⟨op, ns, front, back, hsplit, few, hfront, rfl, -⟩
      exact ⟨front, _, back, hsplit, Node.tooFew?_eq_some_iff.mpr ⟨op, ns, rfl, few, rfl⟩,
        fun m hm => Node.tooFew?_eq_none_iff.mpr (hfront m hm)⟩
  · simp only [ofNode_eq_error_iff]
    rw [← Option.ne_none_iff_exists', Ne, findSome?_tooFew?_eq_none_iff, not_not]
  · rw [exists_ofNode_eq_ok_iff, findSome?_tooFew?_eq_none_iff]

/-- Of two functions at fault the first one in pre-order is named, although the other one is not as
deep and has fewer arguments. -/
theorem ofNode_refuses_first_short_or :
    ofNode ["title"] (.logical .and [.logical .and
      [.literal (.number 1), .logical .or [.literal (.string "x")]], .logical .and []]) =
        .error ⟨.or, 1⟩ := by
  refine ((ofNode_refuses_first_short ["title"] _).1 _).mpr
    ⟨.or, _, [_, _, _], _, rfl, by decide, fun m hm h => ?_, rfl, rfl⟩
  cases h with
  | logical few =>
    simp only [List.mem_cons, List.not_mem_nil, or_false, Node.logical.injEq, reduceCtorEq] at hm
    rcases hm with ⟨-, rfl⟩ | ⟨-, rfl⟩ <;> simp at few

end Filter

end DocFilter
