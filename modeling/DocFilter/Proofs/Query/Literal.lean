import DocFilter.Proofs.Query.Grammar
import DocFilter.Proofs.Token.Lexical

/-!
The values of literal tokens: what the machine reads off a scanned token is what it stands for.
-/

namespace DocFilter

open Query

namespace Token

lemma between?_append {q : Char} (h : q = '"' ∨ q = '\'') (inner : List Char) :
    between? (q :: (inner ++ [q])) = some inner := by
  have hsize : q.utf8Size = 1 := by rcases h with rfl | rfl <;> rfl
  simp [between?, hsize]

lemma literal?_of_stands {t : Token} {v : Literal} (h : Stands t v) :
    t.literal? = some (.ok v) := by
  cases h with
  | number kind range =>
    have : Text.decimalValue t.text.toList ≤ Literal.maxNumber := by
      simp only [Literal.maxNumber]
      omega
    simp [literal?, kind, this]
  | string kind quote text => simp [literal?, kind, text, between?_append quote]
  | @boolean b kind text => cases b <;> simp [literal?, kind, text]
  | date kind value => simp [literal?, kind, value]

lemma stands_of_literal? {t : Token} {v : Literal} (ht : t.Lexical)
    (h : t.literal? = some (.ok v)) : Stands t v := by
  cases hk : t.kind with
  | number =>
    simp only [literal?, hk, Option.some.injEq] at h
    split at h
    · next hn =>
      obtain rfl := Except.ok.inj h
      exact .number hk (by simp only [Literal.maxNumber] at hn; omega)
    · cases h
  | string =>
    rw [Lexical, hk] at ht
    obtain ⟨q, body, quote, -, text⟩ := ht
    simp only [literal?, hk, text, between?_append quote, Option.some.injEq] at h
    obtain rfl := Except.ok.inj h
    exact .string hk quote text
  | boolean =>
    simp only [literal?, hk, Option.some.injEq] at h
    split_ifs at h with htrue hfalse
    · obtain rfl := Except.ok.inj h
      exact .boolean hk htrue
    · obtain rfl := Except.ok.inj h
      exact .boolean hk hfalse
  | date =>
    simp only [literal?, hk, Option.some.injEq] at h
    split at h
    · next value hv =>
      obtain rfl := Except.ok.inj h
      exact .date hk hv
    · cases h
  | _ => simp [literal?, hk] at h

end Token

end DocFilter
