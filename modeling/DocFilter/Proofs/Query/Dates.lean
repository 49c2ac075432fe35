import DocFilter.Proofs.Query.Restated
import DocFilter.Proofs.Time.Utc

/-!
The dates that a query is read with, and where they are written.
-/

namespace DocFilter.Query

open Text
open Token (Stream tokenize)

/-- A query is read with the date `v`, written as `d` between `a` and `b`. -/
structure DateIn (text : String) (a d b : List Char) (v : Timestamp) : Prop where
  split : text = String.ofList (a ++ (d ++ b))
  taken : ∃ ts rest n, Stream.ofText text = .prepend ts rest ∧ Derives ts n ∧
    ⟨.date, String.ofList d, byteLength a⟩ ∈ ts
  value : Timestamp.ofText (String.ofList d) = .ok v

lemma DateIn.valid {text : String} {a d b : List Char} {v : Timestamp} (h : DateIn text a d b v) :
    v.Valid :=
  (Timestamp.valid_of_ofText h.value).1

lemma exists_of_forall₂ {α β : Type} {R : α → β → Prop} {as : List α} {bs : List β}
    (h : List.Forall₂ R as bs) :
    (∀ a ∈ as, ∃ b ∈ bs, R a b) ∧ ∀ b ∈ bs, ∃ a ∈ as, R a b := by
  induction h with
  | nil => exact ⟨List.forall_mem_nil _, List.forall_mem_nil _⟩
  | cons head _ ih =>
    rw [List.forall_mem_cons, List.forall_mem_cons]
    refine ⟨⟨⟨_, List.mem_cons_self, head⟩, fun a ha => ?_⟩,
      ⟨_, List.mem_cons_self, head⟩, fun b hb => ?_⟩
    · obtain ⟨b, hb, hab⟩ := ih.1 a ha
      exact ⟨b, List.mem_cons_of_mem _ hb, hab⟩
    · obtain ⟨a, ha, hab⟩ := ih.2 b hb
      exact ⟨a, List.mem_cons_of_mem _ ha, hab⟩

lemma Derives.exists_token {ts : List Token} {n : Node} {v : Literal} (h : Derives ts n)
    (hv : v ∈ n.literals) : ∃ t ∈ ts, Stands t v := by
  obtain ⟨t, ht, hstands⟩ := (exists_of_forall₂ h.stands).2 v hv
  exact ⟨t, List.mem_of_mem_filter ht, hstands⟩

lemma Derives.mem_literals {ts : List Token} {n : Node} {t : Token} {v : Literal}
    (h : Derives ts n) (ht : t ∈ ts) (hv : Stands t v) : v ∈ n.literals := by
  obtain ⟨w, hw, hstands⟩ := (exists_of_forall₂ h.stands).1 t
    (List.mem_filter.mpr ⟨ht, hv.isLiteral⟩)
  rwa [hv.unique hstands]

lemma exists_dateIn {text : String} {ts : List Token} {rest : Stream} {n : Node} {v : Timestamp}
    (hstream : Stream.ofText text = .prepend ts rest) (hderives : Derives ts n)
    (h : .date v ∈ n.literals) : ∃ a d b, DateIn text a d b v := by
  obtain ⟨t, ht, hstands⟩ := hderives.exists_token h
  obtain ⟨a, b, htext, hoffset⟩ :=
    Token.exists_split (Stream.mem_tokens_of_prepend hstream ht)
  obtain ⟨kind, s, offset⟩ := t
  cases hstands with
  | date kind value =>
    simp only at kind value htext hoffset
    subst kind hoffset
    refine ⟨a, s.toList, b, ?_, ⟨ts, rest, n, hstream, hderives, ?_⟩, ?_⟩
    · rw [← htext, String.ofList_toList]
    · rwa [String.ofList_toList]
    · rwa [String.ofList_toList]

lemma DateIn.mem_literals {text : String} {a d b : List Char} {v : Timestamp} {ts : List Token}
    {rest : Stream} {n : Node} (h : DateIn text a d b v)
    (hstream : Stream.ofText text = .prepend ts rest) (hderives : Derives ts n) :
    .date v ∈ n.literals := by
  obtain ⟨-, ⟨ts', rest', n', hstream', hderives', ht⟩, hv⟩ := h
  have htokens : ts ++ rest.tokens = ts' ++ rest'.tokens := by
    rw [← Stream.tokens_prepend, ← Stream.tokens_prepend, ← hstream, hstream']
  obtain ⟨rfl, -⟩ := hderives.unique hderives' htokens
  exact hderives.mem_literals ht (.date rfl hv)

/-- **Another text for the same date** gives the same query. -/
theorem parse_replace_date {strict : Bool} {text : String} {a d b s : List Char}
    {v w : Timestamp} {n : Node} (hdate : DateIn text a d b v) (hs : Token.IsDate s)
    (hw : Timestamp.ofText (String.ofList s) = .ok w) (same : v.same w = true)
    (hparse : parse strict text = .ok n) :
    ∃ m, parse strict (String.ofList (a ++ (s ++ b))) = .ok m ∧ n.same m = true := by
  obtain ⟨rfl, ⟨ts, rest, n', hstream, -, ht⟩, hv⟩ := hdate
  have hmem : ⟨.date, String.ofList d, byteLength a⟩ ∈
      (Stream.ofText (String.ofList (a ++ (d ++ b)))).tokens :=
    Stream.mem_tokens_of_prepend hstream ht
  have hd : Token.IsDate d := by
    have hlexical := Token.lexical_of_mem_ofText hmem
    simpa [Token.Lexical, Token.Kind.Shape] using hlexical
  have hrelated := Token.ofText_replace hmem (.date hs) (Token.stops_of_isDate hd hs)
  refine parse_restated (hrelated.imp fun t u h => ?_) hparse
  rcases h with heq | ⟨ht, hu⟩
  · obtain ⟨kind, text⟩ := Token.word_eq_iff.mp heq
    exact restates_of_eq kind (by rwa [String.ofList_toList] at text)
  · obtain ⟨htkind, httext⟩ := Token.word_eq_iff.mp ht
    obtain ⟨hukind, hutext⟩ := Token.word_eq_iff.mp hu
    refine ⟨hukind.trans htkind.symm, fun hliteral => ?_, fun {v'} hstands => ?_⟩
    · rw [htkind] at hliteral
      cases hliteral
    · obtain rfl := hstands.unique (.date htkind (httext ▸ hv))
      exact ⟨.date w, .date hukind (hutext ▸ hw), same⟩

/-! ### Texts that are a single date -/

section

variable {s : String}

lemma ofText_of_isDate (h : Token.IsDate s.toList) :
    Stream.ofText s = .prepend [⟨.date, s, 0⟩] (.finished (byteLength s.toList)) :=
  Token.ofText_of_lexeme (.date h)

lemma tokenize_of_isDate (h : Token.IsDate s.toList) : tokenize s = .ok [⟨.date, s, 0⟩] :=
  Token.tokenize_of_lexeme (.date h)

lemma isDate_of_tokenize (h : tokenize s = .ok [⟨.date, s, 0⟩]) : Token.IsDate s.toList := by
  obtain ⟨position, hstream⟩ := Stream.toList_eq_ok_iff.mp h
  exact Token.lexical_of_prepend hstream _ (List.mem_singleton.mpr rfl)

lemma parse_eq_ok_iff_of_isDate {strict : Bool} {n : Node} (h : Token.IsDate s.toList) :
    parse strict s = .ok n ↔ ∃ v, Timestamp.ofText s = .ok v ∧ n = .literal (.date v) := by
  rw [parse_eq_ok_iff]
  constructor
  · rintro ⟨ts, rest, hstream, hderives, -⟩
    have htokens : ts ++ rest.tokens = [⟨.date, s, 0⟩] := by
      rw [← Stream.tokens_prepend, ← hstream, ofText_of_isDate h, Stream.tokens_prepend]
      rfl
    cases hderives with
    | literal value =>
      obtain ⟨rfl, -⟩ := List.cons_eq_cons.mp htokens
      cases value with
      | date _ hv => exact ⟨_, hv, rfl⟩
      | _ => contradiction
    | relational => simp at htokens
    | logical => simp at htokens
  · rintro ⟨v, hv, rfl⟩
    exact ⟨_, _, ofText_of_isDate h, .literal (.date rfl hv), trivial⟩

lemma parse_of_isDate {v : Timestamp} (h : Token.IsDate s.toList)
    (hv : Timestamp.ofText s = .ok v) : parse true s = .ok (.literal (.date v)) :=
  (parse_eq_ok_iff_of_isDate h).mpr ⟨v, hv, rfl⟩

lemma tokenize_of_sign {sign : Char} {cs : List Char} (hs : s.toList = sign :: cs)
    (h : sign = '-' ∨ sign = '+') : tokenize s = .error ⟨sign, 0⟩ := by
  have hno : Token.NoLexeme (sign :: cs) := by
    rw [Token.noLexeme_iff]
    rcases h with rfl | rfl
    · rfl
    · rfl
  rw [tokenize, Token.ofText_eq .nil (hs ▸ hno), hs]
  rfl

end

end DocFilter.Query
