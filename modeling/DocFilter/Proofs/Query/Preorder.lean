import DocFilter.Proofs.Query.Subtree

/-!
The nodes of a query in pre-order: each stands before its arguments, and those from left to right.
-/

namespace DocFilter.Query.Node

mutual

/-- A query and all that is in it, from the outside in. -/
def preorder : Node → List Node
  | literal v => [literal v]
  | relational op f v => [relational op f v]
  | logical op ns => logical op ns :: preorderIn ns

def preorderIn : List Node → List Node
  | [] => []
  | n :: ns => preorder n ++ preorderIn ns

end

lemma preorderIn_append (ns ms : List Node) :
    preorderIn (ns ++ ms) = preorderIn ns ++ preorderIn ms := by
  induction ns with
  | nil => rfl
  | cons n ns ih => simp [preorderIn, ih]

lemma mem_preorderIn {m : Node} {ns : List Node} :
    m ∈ preorderIn ns ↔ ∃ n ∈ ns, m ∈ n.preorder := by
  induction ns with
  | nil => simp [preorderIn]
  | cons n ns ih => simp [preorderIn, ih]

lemma mem_preorder_self (n : Node) : n ∈ n.preorder := by
  cases n <;> simp [preorder]

lemma mem_preorder_of_subtree {m n : Node} (h : Subtree m n) : m ∈ n.preorder := by
  induction h with
  | self => exact mem_preorder_self m
  | argument mem _ ih => exact List.mem_cons_of_mem _ (mem_preorderIn.mpr ⟨_, mem, ih⟩)

mutual

theorem subtree_of_mem_preorder : ∀ {m n : Node}, m ∈ n.preorder → Subtree m n
  | _, .literal _, h => List.mem_singleton.mp h ▸ .self
  | _, .relational .., h => List.mem_singleton.mp h ▸ .self
  | _, .logical op ns, h => by
    rcases List.mem_cons.mp h with rfl | h
    · exact .self
    · obtain ⟨n, hn, hm⟩ := subtree_of_mem_preorderIn h
      exact .argument hn hm

theorem subtree_of_mem_preorderIn : ∀ {m : Node} {ns : List Node}, m ∈ preorderIn ns →
    ∃ n ∈ ns, Subtree m n
  | _, n :: ns, h => by
    rcases List.mem_append.mp h with h | h
    · exact ⟨n, List.mem_cons_self, subtree_of_mem_preorder h⟩
    · obtain ⟨n', hn, hm⟩ := subtree_of_mem_preorderIn h
      exact ⟨n', List.mem_cons_of_mem _ hn, hm⟩

end

lemma mem_preorder_iff {m n : Node} : m ∈ n.preorder ↔ Subtree m n :=
  ⟨subtree_of_mem_preorder, mem_preorder_of_subtree⟩

end DocFilter.Query.Node
