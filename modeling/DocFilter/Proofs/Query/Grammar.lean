import DocFilter.Proofs.Query.Tree
import DocFilter.Query.Parser

/-!
The grammar of queries, over lists of tokens. A derivation builds the tree of the query.

    expression → literal
               | relational operator '(' identifier ',' literal ')'
               | logical operator '(' arguments ')'
    arguments  → expression ',' expression (',' expression)*
-/

namespace DocFilter.Query

/-- `Stands t v`: the literal token `t` stands for the value `v`. -/
inductive Stands : Token → Literal → Prop
  | number {t : Token} (kind : t.kind = .number)
      (range : Text.decimalValue t.text.toList < 0x8000000000000000) :
      Stands t (.number (Text.decimalValue t.text.toList))
  | string {t : Token} {q : Char} {inner : List Char} (kind : t.kind = .string)
      (quote : q = '"' ∨ q = '\'') (text : t.text.toList = q :: (inner ++ [q])) :
      Stands t (.string (String.ofList inner))
  | boolean {t : Token} {b : Bool} (kind : t.kind = .boolean)
      (text : t.text = if b then "true" else "false") : Stands t (.boolean b)
  | date {t : Token} {v : Timestamp} (kind : t.kind = .date)
      (value : Timestamp.ofText t.text = .ok v) : Stands t (.date v)

mutual

/-- `Derives ts n`: the tokens are an expression, with the tree `n`. -/
inductive Derives : List Token → Node → Prop
  | literal {t : Token} {v : Literal} (value : Stands t v) : Derives [t] (.literal v)
  | relational {o l f c t r : Token} {op : RelOp} {v : Literal}
      (operator : o.kind = .relationalOperator ∧ o.text = op.keyword) (paren : l.kind = .openParen)
      (field : f.kind = .identifier) (comma : c.kind = .comma) (value : Stands t v)
      (close : r.kind = .closeParen) :
      Derives [o, l, f, c, t, r] (.relational op f.text v)
  | logical {o l r : Token} {op : LogOp} {ts : List Token} {ns : List Node}
      (operator : o.kind = .logicalOperator ∧ o.text = op.keyword) (paren : l.kind = .openParen)
      (arguments : DerivesArguments ts ns) (close : r.kind = .closeParen) :
      Derives (o :: l :: (ts ++ [r])) (.logical op ns)

/-- Two or more expressions with commas between them. -/
inductive DerivesArguments : List Token → List Node → Prop
  | two {c : Token} {ts us : List Token} {n m : Node} (first : Derives ts n)
      (comma : c.kind = .comma) (second : Derives us m) : DerivesArguments (ts ++ c :: us) [n, m]
  | more {c : Token} {ts us : List Token} {ns : List Node} {n : Node}
      (before : DerivesArguments ts ns) (comma : c.kind = .comma) (last : Derives us n) :
      DerivesArguments (ts ++ c :: us) (ns ++ [n])

end

/-! ### What a derivation says of its tree -/

lemma DerivesArguments.two_le {ts : List Token} {ns : List Node} (h : DerivesArguments ts ns) :
    2 ≤ ns.length := by
  match h with
  | .two .. => exact Nat.le_refl 2
  | .more h _ _ =>
    have := h.two_le
    simp only [List.length_append, List.length_singleton]
    omega

mutual

theorem Derives.full : ∀ {ts n}, Derives ts n → n.Full
  | _, _, .literal _ => .literal
  | _, _, .relational .. => .relational
  | _, _, .logical _ _ h _ => .logical h.two_le h.full

theorem DerivesArguments.full : ∀ {ts ns}, DerivesArguments ts ns → ∀ n ∈ ns, n.Full
  | _, _, .two h _ h' => by simpa using ⟨h.full, h'.full⟩
  | _, _, .more h _ h' => by
    simpa [or_imp, forall_and] using ⟨h.full, h'.full⟩

end

end DocFilter.Query
