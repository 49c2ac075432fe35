import DocFilter.Proofs.Query.Accepts
import DocFilter.Proofs.Time.Spelling
import DocFilter.Proofs.Token.Apart

/-!
The trees that can be written down as queries. Every tree that is read is one of them.
-/

namespace DocFilter.Query

open Token (IsName keywords)

/-- A string lacks one of the quotes, a number has no sign, a date exists and its year has four
digits. -/
def Literal.WellFormed : Literal → Prop
  | number n => 0 ≤ n ∧ n ≤ maxNumber
  | string s => '"' ∉ s.toList ∨ '\'' ∉ s.toList
  | boolean _ => True
  | date t => t.Valid ∧ 0 ≤ t.civil.date.year ∧ t.civil.date.year ≤ 9999

inductive Node.WellFormed : Node → Prop
  | literal {v : Literal} (value : v.WellFormed) : WellFormed (.literal v)
  | relational {op : RelOp} {f : String} {v : Literal} (name : IsName f.toList)
      (noKeyword : f ∉ keywords) (value : v.WellFormed) : WellFormed (.relational op f v)
  | logical {op : LogOp} {ns : List Node} (two : 2 ≤ ns.length) (all : ∀ n ∈ ns, WellFormed n) :
      WellFormed (.logical op ns)

/-! ### What is read is well formed -/

lemma Stands.wellFormed {t : Token} {v : Literal} (h : Stands t v) (ht : t.Lexical) :
    v.WellFormed := by
  cases h with
  | number kind range =>
    refine ⟨Int.natCast_nonneg _, ?_⟩
    simp only [Literal.maxNumber]
    omega
  | @string q inner kind quote text =>
    rw [Token.Lexical, kind, text] at ht
    obtain ⟨q', body, -, hbody, heq⟩ := ht
    obtain ⟨rfl, heq⟩ := List.cons_eq_cons.mp heq
    obtain rfl := List.append_cancel_right heq
    simp only [Literal.WellFormed, String.toList_ofList]
    rcases quote with rfl | rfl
    · exact .inl hbody
    · exact .inr hbody
  | boolean => trivial
  | date kind value => exact Timestamp.valid_of_ofText value

lemma identifier_wellFormed {t : Token} (ht : t.Lexical) (kind : t.kind = .identifier) :
    IsName t.text.toList ∧ t.text ∉ keywords := by
  rw [Token.Lexical, kind] at ht
  refine ⟨ht.isName rfl, ?_⟩
  have hkind := ht.wordKind_eq rfl
  rwa [Token.wordKind_eq_identifier_iff, String.ofList_toList] at hkind

mutual

theorem Derives.wellFormed : ∀ {ts n}, Derives ts n → (∀ t ∈ ts, t.Lexical) → n.WellFormed
  | _, _, .literal value, hts => .literal (value.wellFormed (hts _ (by simp)))
  | _, _, .relational _ _ field _ value _, hts => by
    have hfield := identifier_wellFormed (hts _ (by simp)) field
    exact .relational hfield.1 hfield.2 (value.wellFormed (hts _ (by simp)))
  | _, _, .logical _ _ arguments _, hts =>
    .logical arguments.two_le (arguments.wellFormed fun t ht => hts t (by simp [ht]))

theorem DerivesArguments.wellFormed : ∀ {ts ns}, DerivesArguments ts ns →
    (∀ t ∈ ts, t.Lexical) → ∀ n ∈ ns, n.WellFormed
  | _, _, .two first _ second, hts => by
    have hfirst := first.wellFormed fun t ht => hts t (by simp [ht])
    have hsecond := second.wellFormed fun t ht => hts t (by simp [ht])
    simpa using ⟨hfirst, hsecond⟩
  | _, _, .more before _ last, hts => by
    have hbefore := before.wellFormed fun t ht => hts t (by simp [ht])
    have hlast := last.wellFormed fun t ht => hts t (by simp [ht])
    simpa [or_imp, forall_and] using ⟨hbefore, hlast⟩

end

/-- **What is read is well formed**, in either mode. -/
theorem wellFormed_of_parse {strict : Bool} {text : String} {n : Node}
    (h : parse strict text = .ok n) : n.WellFormed := by
  obtain ⟨ts, rest, hstream, hderives, -⟩ := parse_eq_ok_iff.mp h
  exact hderives.wellFormed (Token.lexical_of_prepend hstream)

end DocFilter.Query
