import DocFilter.Proofs.Query.WellFormed

/-!
The parts of a query, and the tokens that they are read from. The field of every comparison is an
identifier that stands behind an operator and a parenthesis.
-/

namespace DocFilter.Query

/-- `Subtree m n`: the query `m` is `n`, or an argument somewhere in it. -/
inductive Subtree (m : Node) : Node → Prop
  | self : Subtree m m
  | argument {op : LogOp} {ns : List Node} {n : Node} (mem : n ∈ ns) (inner : Subtree m n) :
      Subtree m (.logical op ns)

lemma Subtree.trans {l m n : Node} (h : Subtree l m) (h' : Subtree m n) : Subtree l n := by
  induction h' with
  | self => exact h
  | argument mem _ ih => exact .argument mem ih

lemma Subtree.of_argument {op : LogOp} {ns : List Node} {m n : Node}
    (h : Subtree (.logical op ns) n) (mem : m ∈ ns) : Subtree m n :=
  .trans (.argument mem .self) h

/-- An identifier in field position: behind a relational operator and a parenthesis. -/
def FieldIn (ts : List Token) (f : String) : Prop :=
  ∃ o l t, [o, l, t] <:+: ts ∧ o.kind = .relationalOperator ∧ l.kind = .openParen ∧
    t.kind = .identifier ∧ t.text = f

/-! ### The tokens of a part -/

lemma DerivesArguments.exists_infix {ts : List Token} {ns : List Node}
    (h : DerivesArguments ts ns) : ∀ n ∈ ns, ∃ us, us <:+: ts ∧ Derives us n := by
  have hlast : ∀ (ts us : List Token) (c : Token), us <:+: ts ++ c :: us := fun ts us c =>
    ⟨ts ++ [c], [], by simp⟩
  match h with
  | @DerivesArguments.two c ts us n m first _ second =>
    have hfirst : ts <:+: ts ++ c :: us := (List.prefix_append ts _).isInfix
    rw [List.forall_mem_cons, List.forall_mem_singleton]
    exact ⟨⟨ts, hfirst, first⟩, us, hlast ts us c, second⟩
  | @DerivesArguments.more c ts us ns n before _ last =>
    have hbefore : ts <:+: ts ++ c :: us := (List.prefix_append ts _).isInfix
    rw [List.forall_mem_append, List.forall_mem_singleton]
    refine ⟨fun m hm => ?_, us, hlast ts us c, last⟩
    obtain ⟨vs, hinfix, hderives⟩ := before.exists_infix m hm
    exact ⟨vs, hinfix.trans hbefore, hderives⟩

lemma Derives.exists_infix {ts : List Token} {m n : Node} (h : Derives ts n) (sub : Subtree m n) :
    ∃ us, us <:+: ts ∧ Derives us m := by
  induction sub generalizing ts with
  | self => exact ⟨ts, List.infix_rfl, h⟩
  | argument mem _ ih =>
    cases h with
    | @logical o l r _ ts _ _ _ arguments _ =>
      obtain ⟨us, hus, hderives⟩ := arguments.exists_infix _ mem
      obtain ⟨vs, hvs, hpart⟩ := ih hderives
      have hinner : ts <:+: o :: l :: (ts ++ [r]) := ⟨[o, l], [r], by simp⟩
      exact ⟨vs, hvs.trans (hus.trans hinner), hpart⟩

lemma Derives.fieldIn {ts : List Token} {n : Node} {op : RelOp} {f : String} {v : Literal}
    (h : Derives ts n) (sub : Subtree (.relational op f v) n) : FieldIn ts f := by
  obtain ⟨us, hinfix, hderives⟩ := h.exists_infix sub
  cases hderives with
  | @relational o l t c u r _ _ operator paren field _ _ _ =>
    have hfront : [o, l, t] <:+: [o, l, t, c, u, r] := ⟨[], [c, u, r], rfl⟩
    exact ⟨o, l, t, hfront.trans hinfix, operator.1, paren, field, rfl⟩

lemma FieldIn.isName {ts : List Token} {f : String} (h : FieldIn ts f)
    (hts : ∀ t ∈ ts, t.Lexical) : Token.IsName f.toList := by
  obtain ⟨o, l, t, hinfix, -, -, field, rfl⟩ := h
  have hmem : t ∈ ts := hinfix.subset (by simp)
  exact (identifier_wellFormed (hts t hmem) field).1

end DocFilter.Query
