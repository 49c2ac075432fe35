import DocFilter.Filter.Compile
import DocFilter.Proofs.Query.Tree

/-!
What a filter tells of the query it was compiled from.

Compiling is total on trees whose logical functions have at least two arguments. A bare literal is
compiled as if it were written out as a comparison with each of the fields; once the bare literals
of two queries are written out, the queries have the same filter only if they are the same.
-/

namespace DocFilter.Filter

open Query

/-! ### The filter of a tree -/

mutual

/-- The filter for a query, however many arguments its functions have. -/
def document (fields : List String) : Node → Document
  | .literal v => fanOut fields v
  | .relational op f v => comparison op f v
  | .logical op ns => .single op.symbol (.array (documents fields ns))

def documents (fields : List String) : List Node → List Document
  | [] => []
  | n :: ns => document fields n :: documents fields ns

end

lemma documents_eq_map (fields : List String) (ns : List Node) :
    documents fields ns = ns.map (document fields) := by
  induction ns with
  | nil => rfl
  | cons n ns ih => rw [documents, ih, List.map_cons]

lemma ofNodes_eq_ok {fields : List String} {ns : List Node}
    (h : ∀ n ∈ ns, ofNode fields n = .ok (document fields n)) :
    ofNodes fields ns = .ok (documents fields ns) := by
  induction ns with
  | nil => rfl
  | cons n ns ih =>
    rw [List.forall_mem_cons] at h
    have htail := ih h.2
    unfold ofNodes
    rw [h.1, htail]
    rfl

lemma ofNode_eq_ok {n : Node} (full : n.Full) (fields : List String) :
    ofNode fields n = .ok (document fields n) := by
  induction full with
  | literal => rfl
  | relational => rfl
  | @logical op ns two _ ih =>
    have hargs := ofNodes_eq_ok ih
    unfold ofNode
    rw [if_neg (Nat.not_lt.mpr two), hargs]
    rfl

/-! ### Filters of the same query -/

lemma single_eq_iff {k l : String} {v w : Value} :
    Document.single k v = .single l w ↔ k = l ∧ v = w := by
  simp [Document.single]

lemma ofLiteral_eq_iff {v w : Literal} :
    Value.ofLiteral v = Value.ofLiteral w ↔ v.same w = true := by
  cases v <;> cases w <;> simp [Value.ofLiteral, Literal.same, Timestamp.same]

mutual

theorem document_congr {fields : List String} : ∀ {n m : Node}, n.same m = true →
    document fields n = document fields m
  | .literal _, .literal _, h => by
    have hvalue := ofLiteral_eq_iff.mpr h
    simp only [document, fanOut, hvalue]
  | .relational _ _ _, .relational _ _ _, h => by
    simp only [Node.same, Bool.and_eq_true, decide_eq_true_eq] at h
    obtain ⟨⟨rfl, rfl⟩, hv⟩ := h
    have hvalue := ofLiteral_eq_iff.mpr hv
    simp only [document, comparison, hvalue]
  | .logical _ _, .logical _ _, h => by
    simp only [Node.same, Bool.and_eq_true, decide_eq_true_eq] at h
    obtain ⟨rfl, hargs⟩ := h
    rw [document, document, documents_congr hargs]

theorem documents_congr {fields : List String} : ∀ {ns ms : List Node},
    Node.sameAll ns ms = true → documents fields ns = documents fields ms
  | [], [], _ => rfl
  | _ :: _, _ :: _, h => by
    rw [Node.sameAll, Bool.and_eq_true] at h
    rw [documents, documents, document_congr h.1, documents_congr h.2]

end

/-! ### Queries with the same filter -/

lemma symbol_injective {op op' : LogOp} (h : op.symbol = op'.symbol) : op = op' := by
  cases op <;> cases op' <;> first | rfl | exact absurd h (by decide)

lemma symbol?_injective {op op' : RelOp} (h : op.symbol? = op'.symbol?) : op = op' := by
  cases op <;> cases op' <;> first | rfl | exact absurd h (by decide)

lemma ofLiteral_ne_document {v : Literal} {d : Document} : Value.ofLiteral v ≠ .document d := by
  cases v <;> simp [Value.ofLiteral]

lemma ofLiteral_ne_array {v : Literal} {ds : List Document} : Value.ofLiteral v ≠ .array ds := by
  cases v <;> simp [Value.ofLiteral]

/-- What stands under the field of a comparison: the value, or an operator with the value. -/
lemma exists_comparison_eq (op : RelOp) (f : String) (v : Literal) :
    ∃ value, comparison op f v = .single f value ∧
      ((op.symbol? = none ∧ value = .ofLiteral v) ∨
        ∃ symbol, op.symbol? = some symbol ∧
          value = .document (.single symbol (.ofLiteral v))) := by
  unfold comparison
  cases hop : op.symbol? with
  | none => exact ⟨_, rfl, .inl ⟨rfl, rfl⟩⟩
  | some symbol => exact ⟨_, rfl, .inr ⟨symbol, rfl, rfl⟩⟩

lemma comparison_inj {op op' : RelOp} {f f' : String} {v v' : Literal}
    (h : comparison op f v = comparison op' f' v') : op = op' ∧ f = f' ∧ v.same v' = true := by
  obtain ⟨value, hvalue, hop⟩ := exists_comparison_eq op f v
  obtain ⟨value', hvalue', hop'⟩ := exists_comparison_eq op' f' v'
  rw [hvalue, hvalue', single_eq_iff] at h
  obtain ⟨rfl, rfl⟩ := h
  rcases hop with ⟨hnone, rfl⟩ | ⟨symbol, hsome, rfl⟩
  · rcases hop' with ⟨hnone', heq⟩ | ⟨symbol', -, heq⟩
    · exact ⟨symbol?_injective (hnone.trans hnone'.symm), rfl, ofLiteral_eq_iff.mp heq⟩
    · exact absurd heq ofLiteral_ne_document
  · rcases hop' with ⟨-, heq⟩ | ⟨symbol', hsome', heq⟩
    · exact absurd heq.symm ofLiteral_ne_document
    · rw [Value.document.injEq, single_eq_iff] at heq
      obtain ⟨rfl, heq⟩ := heq
      exact ⟨symbol?_injective (hsome.trans hsome'.symm), rfl, ofLiteral_eq_iff.mp heq⟩

lemma comparison_ne_array {op : RelOp} {f key : String} {v : Literal} {ds : List Document} :
    comparison op f v ≠ .single key (.array ds) := by
  intro h
  obtain ⟨value, hvalue, hop⟩ := exists_comparison_eq op f v
  rw [hvalue, single_eq_iff] at h
  rcases hop with ⟨-, hv⟩ | ⟨symbol, -, hv⟩
  · exact ofLiteral_ne_array (hv.symm.trans h.2)
  · exact absurd (hv.symm.trans h.2) (by simp)

mutual

/-- The number of bare literals of a query. -/
def bareLiterals : Node → Nat
  | .literal _ => 1
  | .relational _ _ _ => 0
  | .logical _ arguments => bareLiteralsIn arguments

def bareLiteralsIn : List Node → Nat
  | [] => 0
  | n :: ns => bareLiterals n + bareLiteralsIn ns

end

mutual

/-- Queries without bare literals that have the same filter are the same. -/
theorem same_of_document_eq {fields : List String} : ∀ {n m : Node}, bareLiterals n = 0 →
    bareLiterals m = 0 → document fields n = document fields m → n.same m = true
  | .literal _, _, hn, _, _ => by simp [bareLiterals] at hn
  | .relational _ _ _, .literal _, _, hm, _ => by simp [bareLiterals] at hm
  | .logical _ _, .literal _, _, hm, _ => by simp [bareLiterals] at hm
  | .relational _ _ _, .relational _ _ _, _, _, h => by
    obtain ⟨rfl, rfl, hv⟩ := comparison_inj h
    simp [Node.same, hv]
  | .relational _ _ _, .logical _ _, _, _, h => absurd h comparison_ne_array
  | .logical _ _, .relational _ _ _, _, _, h => absurd h.symm comparison_ne_array
  | .logical _ _, .logical _ _, hn, hm, h => by
    rw [document, document, single_eq_iff, Value.array.injEq] at h
    have hargs := sameAll_of_documents_eq hn hm h.2
    simp [Node.same, symbol_injective h.1, hargs]

theorem sameAll_of_documents_eq {fields : List String} : ∀ {ns ms : List Node},
    bareLiteralsIn ns = 0 → bareLiteralsIn ms = 0 → documents fields ns = documents fields ms →
      Node.sameAll ns ms = true
  | [], [], _, _, _ => rfl
  | [], _ :: _, _, _, h => by cases h
  | _ :: _, [], _, _, h => by cases h
  | _ :: _, _ :: _, hns, hms, h => by
    rw [bareLiteralsIn, Nat.add_eq_zero_iff] at hns hms
    obtain ⟨hhead, htail⟩ := List.cons_eq_cons.mp h
    rw [Node.sameAll, same_of_document_eq hns.1 hms.1 hhead,
      sameAll_of_documents_eq hns.2 hms.2 htail]
    rfl

end

mutual

/-- Without bare literals the fields do not matter. -/
theorem ofNode_eq_of_no_bareLiterals {fields fields' : List String} : ∀ {n : Node},
    bareLiterals n = 0 → ofNode fields n = ofNode fields' n
  | .literal _, h => by simp [bareLiterals] at h
  | .relational _ _ _, _ => rfl
  | .logical _ ns, h => by
    have hargs : ofNodes fields ns = ofNodes fields' ns := ofNodes_eq_of_no_bareLiterals h
    rw [ofNode, ofNode, hargs]

theorem ofNodes_eq_of_no_bareLiterals {fields fields' : List String} : ∀ {ns : List Node},
    bareLiteralsIn ns = 0 → ofNodes fields ns = ofNodes fields' ns
  | [], _ => rfl
  | n :: ns, h => by
    rw [bareLiteralsIn, Nat.add_eq_zero_iff] at h
    have hhead : ofNode fields n = ofNode fields' n := ofNode_eq_of_no_bareLiterals h.1
    have htail : ofNodes fields ns = ofNodes fields' ns := ofNodes_eq_of_no_bareLiterals h.2
    rw [ofNodes, ofNodes, hhead, htail]

end

/-! ### Bare literals written out -/

mutual

/-- A query in which each bare literal is written out as a comparison with each of the fields. -/
def expand (fields : List String) : Node → Node
  | .literal v => .logical .or (fields.map fun f => .relational .eq f v)
  | .relational op f v => .relational op f v
  | .logical op ns => .logical op (expandAll fields ns)

def expandAll (fields : List String) : List Node → List Node
  | [] => []
  | n :: ns => expand fields n :: expandAll fields ns

end

example : expand ["a", "b"] (.literal (.number 1)) =
    .logical .or [.relational .eq "a" (.number 1), .relational .eq "b" (.number 1)] := rfl

lemma expandAll_eq_map (fields : List String) (ns : List Node) :
    expandAll fields ns = ns.map (expand fields) := by
  induction ns with
  | nil => rfl
  | cons n ns ih => rw [expandAll, ih, List.map_cons]

lemma bareLiteralsIn_comparisons (fields : List String) (v : Literal) :
    bareLiteralsIn (fields.map fun f => .relational .eq f v) = 0 := by
  induction fields with
  | nil => rfl
  | cons f fields ih => rw [List.map_cons, bareLiteralsIn, ih, bareLiterals]

mutual

theorem bareLiterals_expand (fields : List String) : ∀ n : Node, bareLiterals (expand fields n) = 0
  | .literal v => bareLiteralsIn_comparisons fields v
  | .relational _ _ _ => rfl
  | .logical _ ns => bareLiteralsIn_expandAll fields ns

theorem bareLiteralsIn_expandAll (fields : List String) : ∀ ns : List Node,
    bareLiteralsIn (expandAll fields ns) = 0
  | [] => rfl
  | n :: ns => by
    rw [expandAll, bareLiteralsIn, bareLiterals_expand fields n, bareLiteralsIn_expandAll fields ns]

end

mutual

/-- A query and its expansion have the same filter, whichever fields the expansion is given. -/
theorem document_expand (fields fields' : List String) : ∀ n : Node,
    document fields' (expand fields n) = document fields n
  | .literal v => by
    simp only [expand, document, documents_eq_map, List.map_map, fanOut]
    rfl
  | .relational _ _ _ => rfl
  | .logical _ ns => by
    rw [expand, document, document, documents_expandAll fields fields' ns]

theorem documents_expandAll (fields fields' : List String) : ∀ ns : List Node,
    documents fields' (expandAll fields ns) = documents fields ns
  | [] => rfl
  | n :: ns => by
    rw [expandAll, documents, documents, document_expand fields fields' n,
      documents_expandAll fields fields' ns]

end

lemma full_expand {fields : List String} (two : 2 ≤ fields.length) {n : Node} (full : n.Full) :
    (expand fields n).Full := by
  induction full with
  | @literal v =>
    have hlen : 2 ≤ (fields.map fun f => Node.relational .eq f v).length := by
      rw [List.length_map]
      exact two
    refine .logical hlen fun n hn => ?_
    obtain ⟨f, -, rfl⟩ := List.mem_map.mp hn
    exact .relational
  | relational => exact .relational
  | @logical op ns two' _ ih =>
    rw [expand, expandAll_eq_map]
    refine .logical (by rw [List.length_map]; exact two') fun n hn => ?_
    obtain ⟨m, hm, rfl⟩ := List.mem_map.mp hn
    exact ih m hm

/-- **Compiling loses nothing but how bare literals are written.** Two queries have the same filter
exactly when they are the same once their bare literals are written out. With two fields or more a
query that is written out so has the filter of the query, whatever fields it is compiled with; and
without bare literals the fields do not matter. -/
theorem ofNode_beq_iff_expand_same (fields : List String) :
    (∀ p q : Node, p.Full → q.Full → ∃ d e, ofNode fields p = .ok d ∧ ofNode fields q = .ok e ∧
      (d.beq e = true ↔ (expand fields p).same (expand fields q) = true)) ∧
    (2 ≤ fields.length → ∀ p : Node, p.Full → ∀ fields', ∃ d,
      ofNode fields p = .ok d ∧ ofNode fields' (expand fields p) = .ok d) ∧
    (∀ p : Node, bareLiterals p = 0 → ∀ fields', ofNode fields p = ofNode fields' p) := by
  refine ⟨fun p q hp hq => ?_, fun two p hp fields' => ?_, fun p hbare fields' => ?_⟩
  · refine ⟨_, _, ofNode_eq_ok hp fields, ofNode_eq_ok hq fields, ?_⟩
    rw [Document.beq_iff, ← document_expand fields fields p, ← document_expand fields fields q]
    constructor
    · exact same_of_document_eq (bareLiterals_expand fields p) (bareLiterals_expand fields q)
    · exact document_congr
  · refine ⟨_, ofNode_eq_ok hp fields, ?_⟩
    rw [ofNode_eq_ok (full_expand two hp) fields', document_expand]
  · exact ofNode_eq_of_no_bareLiterals hbare

/-- The bare literal `1` over two fields, and the disjunction that it stands for, in which a field
has the name of an operator. -/
theorem ofNode_beq_iff_expand_same_or :
    let p : Node := .literal (.number 1)
    let q : Node :=
      .logical .or [.relational .eq "$or" (.number 1), .relational .eq "b" (.number 1)]
    p.Full ∧ q.Full ∧ (expand ["$or", "b"] p).same (expand ["$or", "b"] q) = true ∧
      (∃ d e, ofNode ["$or", "b"] p = .ok d ∧ ofNode ["$or", "b"] q = .ok e ∧ d.beq e = true) ∧
      (∃ d, ofNode ["$or", "b"] p = .ok d ∧ ofNode [] (expand ["$or", "b"] p) = .ok d) ∧
      ofNode ["$or", "b"] q = ofNode [] q := by
  intro p q
  have hp : p.Full := .literal
  have hq : q.Full := .logical (by decide) (by
    intro n hn
    rcases List.mem_pair.mp hn with rfl | rfl
    · exact .relational
    · exact .relational)
  have hsame : (expand ["$or", "b"] p).same (expand ["$or", "b"] q) = true := by decide
  obtain ⟨hiff, hexpand, hplain⟩ := ofNode_beq_iff_expand_same ["$or", "b"]
  obtain ⟨d, e, hd, he, heq⟩ := hiff p q hp hq
  exact ⟨hp, hq, hsame, ⟨d, e, hd, he, heq.mpr hsame⟩, hexpand (by decide) p hp [],
    hplain q rfl []⟩

end DocFilter.Filter
