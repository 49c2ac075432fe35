import DocFilter.Proofs.Query.Literal
import Mathlib.Data.List.Forall2

/-!
The literals of a tree are what the literal tokens of its derivation stand for, in their order.
-/

namespace DocFilter

namespace Token

/-- The kinds that stand for values. -/
def Kind.isLiteral : Kind → Bool
  | number | string | boolean | date => true
  | _ => false

end Token

namespace Query

lemma Stands.isLiteral {t : Token} {v : Literal} (h : Stands t v) : t.kind.isLiteral = true := by
  cases h with
  | number kind => rw [kind]; rfl
  | string kind => rw [kind]; rfl
  | boolean kind => rw [kind]; rfl
  | date kind => rw [kind]; rfl

lemma Stands.unique {t : Token} {v w : Literal} (h : Stands t v) (h' : Stands t w) : v = w := by
  have heq := (Token.literal?_of_stands h).symm.trans (Token.literal?_of_stands h')
  exact Except.ok.inj (Option.some.inj heq)

lemma Stands.congr {t u : Token} {v : Literal} (h : Stands t v) (kind : u.kind = t.kind)
    (text : u.text = t.text) : Stands u v := by
  cases h with
  | number hk range => exact text ▸ .number (kind.trans hk) (text ▸ range)
  | string hk quote ht => exact .string (kind.trans hk) quote (text ▸ ht)
  | boolean hk ht => exact .boolean (kind.trans hk) (text.trans ht)
  | date hk value => exact .date (kind.trans hk) (text ▸ value)

lemma Stands.eq_string {t : Token} {v : Literal} {q : Char} {c : List Char} (h : Stands t v)
    (hq : q = '"' ∨ q = '\'') (kind : t.kind = .string)
    (text : t.text = String.ofList (q :: (c ++ [q]))) : v = .string (String.ofList c) :=
  h.unique (.string kind hq (by rw [text, String.toList_ofList]))

mutual

/-- The literals of a tree are what the literal tokens stand for, one after the other. -/
theorem Derives.stands : ∀ {ts n}, Derives ts n →
    List.Forall₂ Stands (ts.filter (·.kind.isLiteral)) n.literals
  | _, _, .literal value => by
    simpa [value.isLiteral, Node.literals] using value
  | _, _, .relational operator paren field comma value close => by
    simp only [List.filter_cons, operator.1, paren, field, comma, value.isLiteral, close]
    exact .cons value .nil
  | _, _, .logical operator paren arguments close => by
    simpa [operator.1, paren, close, Token.Kind.isLiteral, Node.literals] using arguments.stands

theorem DerivesArguments.stands : ∀ {ts ns}, DerivesArguments ts ns →
    List.Forall₂ Stands (ts.filter (·.kind.isLiteral)) (Node.literalsIn ns)
  | _, _, .two first comma second => by
    have happend := List.rel_append first.stands second.stands
    simpa [comma, Token.Kind.isLiteral, Node.literalsIn] using happend
  | _, _, .more before comma last => by
    have happend := List.rel_append before.stands last.stands
    simpa [comma, Token.Kind.isLiteral, Node.literalsIn, Node.literalsIn_append] using happend

end

/-- The place that the token at a byte has among the literal tokens. -/
def literalIndex (ts : List Token) (offset : Nat) : Nat :=
  (ts.filter (·.kind.isLiteral)).findIdx (·.offset = offset)

lemma literalIndex_eq_iff {ts : List Token} {offset j : Nat}
    (h : ts.Pairwise (·.offset < ·.offset)) (hj : j < (ts.filter (·.kind.isLiteral)).length) :
    literalIndex ts offset = j ↔ (ts.filter (·.kind.isLiteral))[j].offset = offset := by
  unfold literalIndex
  rw [List.findIdx_eq hj]
  constructor
  · rintro ⟨hat, -⟩
    exact of_decide_eq_true hat
  · intro hat
    refine ⟨decide_eq_true hat, fun k hk => decide_eq_false ?_⟩
    have := List.pairwise_iff_getElem.mp (h.filter (·.kind.isLiteral)) k j (by omega) hj hk
    omega

end Query

end DocFilter
