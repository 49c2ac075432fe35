import DocFilter.Filter.Compile
import DocFilter.Proofs.Filter.Meaning
import DocFilter.Proofs.Query.Accepts

/-!
Compiling a query keeps its meaning: the filter holds of the records that the query means.
-/

namespace DocFilter

open Query

namespace Query

/-- A literal that can be written: a date exists. -/
def Literal.Valid : Literal → Prop
  | date t => t.Valid
  | _ => True

lemma Stands.valid {t : Token} {v : Literal} (h : Stands t v) : v.Valid := by
  cases h with
  | date kind value =>
    unfold Timestamp.ofText at value
    split at value
    · cases value
    · split_ifs at value with hvalid
      exact Except.ok.inj value ▸ hvalid
  | _ => trivial

mutual

theorem Derives.literals_valid : ∀ {ts n}, Derives ts n → ∀ v ∈ n.literals, v.Valid
  | _, _, .literal value => by simpa [Node.literals] using value.valid
  | _, _, .relational _ _ _ _ value _ => by simpa [Node.literals] using value.valid
  | _, _, .logical _ _ arguments _ => arguments.literals_valid

theorem DerivesArguments.literals_valid : ∀ {ts ns}, DerivesArguments ts ns →
    ∀ v ∈ Node.literalsIn ns, v.Valid
  | _, _, .two first _ second => by
    have := first.literals_valid
    have := second.literals_valid
    simp only [Node.literalsIn]
    grind
  | _, _, .more before _ last => by
    have := before.literals_valid
    have := last.literals_valid
    rw [Node.literalsIn_append]
    simp only [Node.literalsIn]
    grind

end

end Query

namespace Filter

variable {Content : Type*} {holds : RelOp → Content → Comparand → Prop}
  {record : String → Content} {fields : List String}

lemma comparand?_ofLiteral {v : Literal} (h : v.Valid) :
    (Value.ofLiteral v).comparand? = some v.comparand := by
  cases v with
  | date t =>
    have ht : t.Valid := h
    simp [Value.ofLiteral, Value.comparand?, Literal.comparand, Timestamp.instant_utc ht]
  | _ => rfl

lemma comparison?_of_symbol? {op : RelOp} {symbol : String} (h : op.symbol? = some symbol) :
    comparison? symbol = some op := by
  cases op <;> cases h <;> rfl

lemma holds_comparison {op : RelOp} {f : String} {v : Literal} (h : v.Valid) :
    (comparison op f v).Holds holds record ↔ holds op (record f) v.comparand := by
  unfold comparison
  split
  · next hnone =>
    obtain rfl : op = .eq := by cases op <;> first | rfl | cases hnone
    rw [holds_single, pairHolds_scalar (comparand?_ofLiteral h)]
  · next symbol hsome =>
    rw [holds_single, pairHolds_comparison (comparison?_of_symbol? hsome) (comparand?_ofLiteral h)]

lemma holds_fanOut {v : Literal} (h : v.Valid) :
    (fanOut fields v).Holds holds record ↔ ∃ f ∈ fields, holds .eq (record f) v.comparand := by
  unfold fanOut
  rw [holds_single, pairHolds_or]
  simp [holds_single, pairHolds_scalar (comparand?_ofLiteral h)]

lemma ofNodes_of_forall {P : Node → Document → Prop} {ns : List Node}
    (h : ∀ n ∈ ns, ∃ d, ofNode fields n = .ok d ∧ P n d) :
    ∃ ds, ofNodes fields ns = .ok ds ∧ List.Forall₂ P ns ds := by
  induction ns with
  | nil => exact ⟨[], rfl, .nil⟩
  | cons n ns ih =>
    rw [List.forall_mem_cons] at h
    obtain ⟨d, hd, hP⟩ := h.1
    obtain ⟨ds, hds, hall⟩ := ih h.2
    exact ⟨d :: ds, by simp [ofNodes, hd, hds, bind, Except.bind, pure, Except.pure],
      .cons hP hall⟩

lemma forall_iff_of_forall₂ {P : Node → Prop} {Q : Document → Prop} {ns : List Node}
    {ds : List Document} (h : List.Forall₂ (fun n d => Q d ↔ P n) ns ds) :
    ((∀ d ∈ ds, Q d) ↔ ∀ n ∈ ns, P n) ∧ ((∃ d ∈ ds, Q d) ↔ ∃ n ∈ ns, P n) := by
  induction h with
  | nil => simp
  | cons hhead _ ih => simp [hhead, ih.1, ih.2]

lemma means_iff_literal {v : Literal} :
    Node.Means holds record fields (.literal v) ↔
      ∃ f ∈ fields, holds .eq (record f) v.comparand :=
  ⟨fun | .literal mem field => ⟨_, mem, field⟩, fun ⟨_, mem, field⟩ => .literal mem field⟩

lemma means_iff_relational {op : RelOp} {f : String} {v : Literal} :
    Node.Means holds record fields (.relational op f v) ↔ holds op (record f) v.comparand :=
  ⟨fun | .relational field => field, .relational⟩

lemma means_iff_and {ns : List Node} :
    Node.Means holds record fields (.logical .and ns) ↔
      ∀ n ∈ ns, n.Means holds record fields :=
  ⟨fun | .and all => all, .and⟩

lemma means_iff_or {ns : List Node} :
    Node.Means holds record fields (.logical .or ns) ↔
      ∃ n ∈ ns, n.Means holds record fields :=
  ⟨fun | .or mem any => ⟨_, mem, any⟩, fun ⟨_, mem, any⟩ => .or mem any⟩

lemma exists_ofNode_holds_iff (holds : RelOp → Content → Comparand → Prop)
    (record : String → Content) (fields : List String) {n : Node} (full : n.Full)
    (valid : ∀ v ∈ n.literals, v.Valid) :
    ∃ d, ofNode fields n = .ok d ∧ (d.Holds holds record ↔ n.Means holds record fields) := by
  induction full with
  | @literal v =>
    have hv : v.Valid := valid v (by simp [Node.literals])
    exact ⟨_, rfl, (holds_fanOut hv).trans means_iff_literal.symm⟩
  | @relational op f v =>
    have hv : v.Valid := valid v (by simp [Node.literals])
    exact ⟨_, rfl, (holds_comparison hv).trans means_iff_relational.symm⟩
  | @logical op ns two _ ih =>
    have hargs : ∀ n ∈ ns, ∃ d, ofNode fields n = .ok d ∧
        (d.Holds holds record ↔ n.Means holds record fields) := fun n hn =>
      ih n hn fun v hv => valid v (Node.mem_literalsIn.mpr ⟨n, hn, hv⟩)
    obtain ⟨ds, hds, hall⟩ := ofNodes_of_forall hargs
    refine ⟨.single op.symbol (.array ds), by simp [ofNode, not_lt.mpr two, hds, Except.map], ?_⟩
    obtain ⟨hforall, hexists⟩ := forall_iff_of_forall₂ hall
    rw [holds_single]
    cases op with
    | and => rw [pairHolds_and, hforall, means_iff_and]
    | or => rw [pairHolds_or, hexists, means_iff_or]

/-- **Compiling keeps the meaning.** A tree whose logical functions have at least two arguments is
compiled to a filter that holds of exactly the records that the tree means, whatever the records,
the comparisons and the fields for bare literals are; and every query that is read is such a
tree. -/
theorem ofNode_preserves_meaning (holds : RelOp → Content → Comparand → Prop)
    (record : String → Content) (fields : List String) :
    (∀ n : Node, n.Full → (∀ v ∈ n.literals, v.Valid) →
      ∃ d, ofNode fields n = .ok d ∧ (d.Holds holds record ↔ n.Means holds record fields)) ∧
    (∀ strict text n, parse strict text = .ok n →
      ∃ d, ofNode fields n = .ok d ∧ (d.Holds holds record ↔ n.Means holds record fields)) := by
  refine ⟨fun n => exists_ofNode_holds_iff holds record fields, fun strict text n hparse => ?_⟩
  obtain ⟨ts, rest, -, hderives, -⟩ := parse_eq_ok_iff.mp hparse
  exact exists_ofNode_holds_iff holds record fields hderives.full hderives.literals_valid

/-- A record whose age is 3, the query `or(eq(name,'x'),3)` and equality as the only comparison. -/
theorem ofNode_preserves_meaning_or :
    let n : Node := .logical .or [.relational .eq "name" (.string "x"), .literal (.number 3)]
    let record : String → Comparand := fun f => if f = "age" then .number 3 else .string f
    let holds : RelOp → Comparand → Comparand → Prop := fun op content v => op = .eq ∧ content = v
    n.Full ∧ (∀ v ∈ n.literals, v.Valid) ∧
      ∃ d, ofNode ["age"] n = .ok d ∧ d.Holds holds record := by
  intro n record holds
  have full : n.Full := .logical (by decide) (by
    intro m hm
    rcases List.mem_pair.mp hm with rfl | rfl
    · exact .relational
    · exact .literal)
  have valid : ∀ v ∈ n.literals, v.Valid := by
    intro v hv
    rcases List.mem_pair.mp hv with rfl | rfl
    · trivial
    · trivial
  have means : n.Means holds record ["age"] :=
    .or (List.mem_pair.mpr (.inr rfl)) (.literal (List.mem_singleton.mpr rfl) ⟨rfl, if_pos rfl⟩)
  obtain ⟨d, hd, hiff⟩ := (ofNode_preserves_meaning holds record ["age"]).1 n full valid
  exact ⟨full, valid, d, hd, hiff.mpr means⟩

end Filter

end DocFilter
