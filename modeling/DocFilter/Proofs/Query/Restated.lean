import DocFilter.Proofs.Query.Accepts
import DocFilter.Proofs.Query.LiteralTokens
import DocFilter.Proofs.Token.Replace

/-!
Queries in other words: the tokens are of the same kinds, but a literal may be written differently
as long as its value stays the same, dates counting as instants. They are read as the same query.
-/

namespace DocFilter.Query

open Token (Stream)

/-- `Restates t u`: the token `u` says what `t` says. -/
structure Restates (t u : Token) : Prop where
  kind : u.kind = t.kind
  text : t.kind.isLiteral = false → u.text = t.text
  value : ∀ {v}, Stands t v → ∃ w, Stands u w ∧ v.same w = true

lemma Literal.same_refl (v : Literal) : v.same v = true := by
  cases v <;> simp [Literal.same, Timestamp.same]

lemma restates_of_eq {t u : Token} (kind : u.kind = t.kind) (text : u.text = t.text) :
    Restates t u :=
  ⟨kind, fun _ => text, fun {v} h => ⟨v, h.congr kind text, v.same_refl⟩⟩

lemma exists_forall₂_append {α β : Type} {R : α → β → Prop} {as as' : List α} {bs : List β}
    (h : List.Forall₂ R (as ++ as') bs) :
    ∃ us us', bs = us ++ us' ∧ List.Forall₂ R as us ∧ List.Forall₂ R as' us' := by
  have hfront := List.forall₂_take as.length h
  have hback := List.forall₂_drop as.length h
  rw [List.take_left] at hfront
  rw [List.drop_left] at hback
  exact ⟨_, _, (List.take_append_drop as.length bs).symm, hfront, hback⟩

lemma sameAll_concat {ns ms : List Node} {n m : Node} (h : Node.sameAll ns ms = true)
    (hlast : n.same m = true) : Node.sameAll (ns ++ [n]) (ms ++ [m]) = true := by
  induction ns generalizing ms with
  | nil =>
    cases ms with
    | nil => simp [Node.sameAll, hlast]
    | cons => cases h
  | cons n' ns ih =>
    cases ms with
    | nil => cases h
    | cons m' ms =>
      rw [Node.sameAll, Bool.and_eq_true] at h
      simp [Node.sameAll, h.1, ih h.2]

mutual

/-- Tokens that restate those of a query derive the same query. -/
theorem Derives.restated : ∀ {ts n}, Derives ts n → ∀ {us}, List.Forall₂ Restates ts us →
    ∃ m, Derives us m ∧ n.same m = true
  | _, _, .literal value, _, .cons ht .nil => by
    obtain ⟨w, hw, hsame⟩ := ht.value value
    exact ⟨_, .literal hw, hsame⟩
  | _, _, .relational operator paren field comma value close, _,
      .cons ho (.cons hl (.cons hf (.cons hc (.cons ht (.cons hr .nil))))) => by
    obtain ⟨w, hw, hsame⟩ := ht.value value
    -- operators and fields keep their texts
    have hotext := ho.text (by rw [operator.1]; rfl)
    have hftext := hf.text (by rw [field]; rfl)
    refine ⟨_, .relational ⟨ho.kind.trans operator.1, hotext.trans operator.2⟩
      (hl.kind.trans paren) (hf.kind.trans field) (hc.kind.trans comma) hw
      (hr.kind.trans close), ?_⟩
    simp [Node.same, hftext, hsame]
  | _, _, .logical operator paren arguments close, _, .cons ho (.cons hl hrest) => by
    obtain ⟨us, _, rfl, hargs, hend⟩ := exists_forall₂_append hrest
    obtain ⟨r, _, hr, hnil, rfl⟩ := List.forall₂_cons_left_iff.mp hend
    obtain rfl := List.forall₂_nil_left_iff.mp hnil
    obtain ⟨ms, hms, hsame⟩ := arguments.restated hargs
    have hotext := ho.text (by rw [operator.1]; rfl)
    refine ⟨_, .logical ⟨ho.kind.trans operator.1, hotext.trans operator.2⟩
      (hl.kind.trans paren) hms (hr.kind.trans close), ?_⟩
    simp [Node.same, hsame]

theorem DerivesArguments.restated : ∀ {ts ns}, DerivesArguments ts ns →
    ∀ {us}, List.Forall₂ Restates ts us →
      ∃ ms, DerivesArguments us ms ∧ Node.sameAll ns ms = true
  | _, _, .two first comma second, _, hus => by
    obtain ⟨us, _, rfl, hfirst, hrest⟩ := exists_forall₂_append hus
    obtain ⟨c, vs, hc, hsecond, rfl⟩ := List.forall₂_cons_left_iff.mp hrest
    obtain ⟨m, hm, hsame⟩ := first.restated hfirst
    obtain ⟨m', hm', hsame'⟩ := second.restated hsecond
    exact ⟨[m, m'], .two hm (hc.kind.trans comma) hm', by simp [Node.sameAll, hsame, hsame']⟩
  | _, _, .more before comma last, _, hus => by
    obtain ⟨us, _, rfl, hbefore, hrest⟩ := exists_forall₂_append hus
    obtain ⟨c, vs, hc, hlast, rfl⟩ := List.forall₂_cons_left_iff.mp hrest
    obtain ⟨ms, hms, hsame⟩ := before.restated hbefore
    obtain ⟨m, hm, hsame'⟩ := last.restated hlast
    exact ⟨ms ++ [m], .more hms (hc.kind.trans comma) hm, sameAll_concat hsame hsame'⟩

end

lemma mayFollow_of_related {strict : Bool} {R : Token → Token → Prop} {rest rest' : Stream}
    (h : Stream.Related R rest rest') (hrest : Parser.MayFollow strict rest) :
    Parser.MayFollow strict rest' := by
  cases h with
  | finished => trivial
  | stray => exact hrest.elim
  | token => exact hrest

/-- **Texts that say the same are the same query.** -/
theorem parse_restated {strict : Bool} {text text' : String} {n : Node}
    (h : Stream.Related Restates (.ofText text) (.ofText text'))
    (hparse : parse strict text = .ok n) :
    ∃ m, parse strict text' = .ok m ∧ n.same m = true := by
  obtain ⟨ts, rest, hstream, hderives, hrest⟩ := parse_eq_ok_iff.mp hparse
  rw [hstream] at h
  obtain ⟨us, rest', hstream', hus, htail⟩ := h.exists_prepend
  obtain ⟨m, hm, hsame⟩ := hderives.restated hus
  exact ⟨m, parse_eq_ok_iff.mpr ⟨us, rest', hstream', hm, mayFollow_of_related htail hrest⟩, hsame⟩

end DocFilter.Query
