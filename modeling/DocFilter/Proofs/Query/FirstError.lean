import DocFilter.Proofs.Query.Continuation
import DocFilter.Proofs.Query.Run
import DocFilter.Proofs.Token.Spacing

/-!
Where reading a query fails: at the first token that no query has there, and what is reported as
missing could have come in its place.
-/

namespace DocFilter.Query

open Token (Kind Stream tokenize)

namespace Parser

/-! ### The errors of a run -/

/-- A literal fails for its value: a number or a date. Other tokens would have to be misspelt. -/
lemma literal?_error {t : Token} {e : Failure} (h : t.literal? = some (.error e)) :
    (t.kind = .number ∨ t.kind = .date) ∧
        (∃ reason, e = .query (.invalidLiteral t.text reason t.offset)) ∨
      (∃ d, e = .defect d) ∧ ¬ t.Lexical := by
  unfold Token.literal? at h
  cases hk : t.kind with
  | number =>
    simp only [hk, Option.some.injEq] at h
    split at h
    · cases h
    · exact .inl ⟨.inl rfl, _, (Except.error.inj h).symm⟩
  | string =>
    simp only [hk, Option.some.injEq] at h
    split at h
    · cases h
    · next hnone =>
      refine .inr ⟨⟨_, (Except.error.inj h).symm⟩, fun ht => ?_⟩
      rw [Token.Lexical, hk] at ht
      obtain ⟨q, body, quote, -, text⟩ := ht
      rw [text, Token.between?_append quote] at hnone
      cases hnone
  | boolean =>
    simp only [hk, Option.some.injEq] at h
    split_ifs at h with htrue hfalse
    refine .inr ⟨⟨_, (Except.error.inj h).symm⟩, fun ht => ?_⟩
    rw [Token.Lexical, hk, Token.Kind.Shape, String.ofList_toList] at ht
    exact (List.mem_pair.mp ht).elim htrue hfalse
  | date =>
    simp only [hk, Option.some.injEq] at h
    split at h
    · cases h
    · exact .inl ⟨.inr rfl, _, (Except.error.inj h).symm⟩
  | _ => simp [hk] at h

lemma literal?_of_map_error {t : Token} {e : Failure} {f : Literal → State}
    (h : t.literal?.map (·.map f) = some (.error e)) : t.literal? = some (.error e) := by
  rcases hl : t.literal? with _ | _ | v <;> simp_all [Except.map]

lemma accept?_error {mode : Mode} {outer : List Frame} {t : Token} {e : Failure}
    (h : accept? mode outer t = some (.error e)) :
    (t.kind = .number ∨ t.kind = .date) ∧
        (∃ reason, e = .query (.invalidLiteral t.text reason t.offset)) ∨
      (∃ d, e = .defect d) ∧ ¬ t.Lexical := by
  cases mode with
  | expression =>
    cases hk : t.kind with
    | relationalOperator =>
      simp only [accept?, hk, Option.some.injEq] at h
      split at h
      · cases h
      · next hnone =>
        -- in a text the token would be one of the keywords
        refine .inr ⟨⟨_, (Except.error.inj h).symm⟩, fun ht => ?_⟩
        rw [Token.Lexical, hk, Token.Kind.Shape, String.ofList_toList] at ht
        exact RelOp.ofKeyword?_ne_none ht hnone
    | logicalOperator =>
      simp only [accept?, hk, Option.some.injEq] at h
      split at h
      · cases h
      · next hnone =>
        refine .inr ⟨⟨_, (Except.error.inj h).symm⟩, fun ht => ?_⟩
        rw [Token.Lexical, hk, Token.Kind.Shape, String.ofList_toList] at ht
        exact LogOp.ofKeyword?_ne_none ht hnone
    | _ =>
      simp only [accept?, hk] at h
      exact hk ▸ literal?_error (literal?_of_map_error h)
  | value op f => exact literal?_error (literal?_of_map_error h)
  | argument op ns =>
    cases hk : t.kind <;> simp only [accept?, hk, Option.some.injEq] at h
    case closeParen => split_ifs at h; cases h
    all_goals cases h
  | _ => cases hk : t.kind <;> simp [accept?, hk] at h

/-- How a run fails that takes no more tokens. A stray character shows when the token before it is
taken, also if that one has no value. -/
inductive Fails : State → Stream → QueryError → Prop
  | stray {s : State} {e : Token.Stray} : Fails s (.stray e) (.unexpectedCharacter e)
  | finished {mode : Mode} {outer : List Frame} {p : Nat} :
      Fails (.reading mode outer) (.finished p) (.unexpectedEnd mode.expected p)
  | refused {mode : Mode} {outer : List Frame} {t : Token} {rest : Stream}
      (refused : accept? mode outer t = none) :
      Fails (.reading mode outer) (.token t rest) (.unexpectedToken t mode.expected)
  | behind {mode : Mode} {outer : List Frame} {t : Token} {e : Token.Stray}
      (accepted : accept? mode outer t ≠ none) :
      Fails (.reading mode outer) (.token t (.stray e)) (.unexpectedCharacter e)
  | invalid {mode : Mode} {outer : List Frame} {t : Token} {rest : Stream} {reason : Reason}
      (accepted : accept? mode outer t ≠ none) (kind : t.kind = .number ∨ t.kind = .date) :
      Fails (.reading mode outer) (.token t rest) (.invalidLiteral t.text reason t.offset)
  | trailing {n : Node} {t : Token} {rest : Stream} :
      Fails (.complete n) (.token t rest) (.trailingInput t)

lemma fails_of_failBefore {mode : Mode} {outer : List Frame} {t : Token} {f : Failure}
    {rest : Stream} {e : QueryError} (h : accept? mode outer t = some (.error f))
    (hf : (failBefore f rest).result = .error (.query e)) :
    Fails (.reading mode outer) (.token t rest) e := by
  have accepted : accept? mode outer t ≠ none := by simp [h]
  cases rest with
  | stray e' =>
    -- the stray character is found before the literal is looked at
    cases hf
    exact .behind accepted
  | _ =>
    rcases accept?_error h with ⟨kind, reason, rfl⟩ | ⟨⟨d, rfl⟩, -⟩
    · cases hf
      exact .invalid accepted kind
    · cases hf

lemma fails_of_ending? {strict : Bool} {s : State} {rest : Stream} {e : QueryError}
    (h : ending? strict s rest = some (.error (.query e))) : Fails s rest e := by
  rcases rest with p | e' | ⟨t, rest⟩
  · rcases s with ⟨mode, outer⟩ | n
    · cases h
      exact .finished
    · cases h
  · cases h
    exact .stray
  · rcases s with ⟨mode, outer⟩ | n
    · simp only [ending?] at h
      split at h
      · next hrefused =>
        cases h
        exact .refused hrefused
      · next f hf => exact fails_of_failBefore hf (Option.some.inj h)
      · cases h
    · cases strict with
      | true =>
        cases h
        exact .trailing
      | false => cases h

end Parser

/-! ### The errors of a query -/

open Query.Parser

section

variable {strict : Bool} {text : String}

/-- A query that is refused is empty, or some tokens are taken before the run fails. -/
lemma exists_fails_of_error {e : QueryError} (h : parse strict text = .error (.query e)) :
    (∃ p, Stream.ofText text = .finished p) ∧ e = .noTokens ∨
      ∃ ts s rest, Stream.ofText text = .prepend ts rest ∧ takeAll? start ts = some s ∧
        Fails s rest e := by
  have hrun : (run strict start (.ofText text)).result = .error (.query e) →
      ∃ ts s rest, Stream.ofText text = .prepend ts rest ∧ takeAll? start ts = some s ∧
        Fails s rest e := by
    intro hrun
    obtain ⟨ts, s, rest, hstream, htake, hend⟩ := run_result_eq_iff.mp hrun
    exact ⟨ts, s, rest, hstream, htake, fails_of_ending? hend⟩
  rw [parse_eq_result] at h
  cases hstream : Stream.ofText text with
  | finished p =>
    -- an empty query is refused before the run starts
    rw [hstream] at h
    cases h
    exact .inl ⟨⟨p, rfl⟩, rfl⟩
  | stray e' =>
    rw [hstream] at h hrun
    exact .inr (hrun h)
  | token t rest =>
    rw [hstream] at h hrun
    exact .inr (hrun h)

lemma viable_of_unexpectedToken {found : Token} {expected : Expected}
    (h : parse strict text = .error (.query (.unexpectedToken found expected))) :
    ∃ before s, (Scanner.ofText text).pulls (before.length + 1) = some (before ++ [found], s) ∧
      Viable (before.map (·.kind)) ∧ ¬ Viable (before.map (·.kind) ++ [found.kind]) ∧
      ∀ k, expected.Admits k → Viable (before.map (·.kind) ++ [k]) := by
  obtain ⟨-, hnone⟩ | ⟨ts, s, rest, hstream, htake, hfails⟩ := exists_fails_of_error h
  · cases hnone
  · cases hfails with
    | @refused mode outer _ rest hrefused =>
      have hfound : Stream.ofText text = .prepend (ts ++ [found]) rest := by
        rw [hstream]
        simp [Stream.prepend]
      obtain ⟨s', hpulls, -⟩ := Stream.exists_pulls hfound
      rw [List.length_append] at hpulls
      refine ⟨ts, s', hpulls, viable_of_takeAll? htake, ?_, fun k hk => ?_⟩
      · rw [viable_append_iff htake]
        exact accept?_eq_none_iff.mp hrefused
      · rw [viable_append_iff htake]
        exact admits_of_expected hk

lemma viable_of_unexpectedEnd {expected : Expected} {position : Nat}
    (h : parse strict text = .error (.query (.unexpectedEnd expected position))) :
    ∃ ts, tokenize text = .ok ts ∧ ts ≠ [] ∧ Viable (ts.map (·.kind)) ∧
      ¬ Sentence (ts.map (·.kind)) ∧
      ∀ k, expected.Admits k → Viable (ts.map (·.kind) ++ [k]) := by
  obtain ⟨-, hnone⟩ | ⟨ts, s, rest, hstream, htake, hfails⟩ := exists_fails_of_error h
  · cases hnone
  · cases hfails with
    | finished =>
      refine ⟨ts, Stream.toList_eq_ok_iff.mpr ⟨position, hstream⟩, ?_, viable_of_takeAll? htake,
        not_sentence_of_takeAll? htake, fun k hk => ?_⟩
      · rintro rfl
        rw [parse_eq_result, hstream] at h
        cases h
      · rw [viable_append_iff htake]
        exact admits_of_expected hk

lemma viable_of_unexpectedCharacter {e : Token.Stray}
    (h : parse strict text = .error (.query (.unexpectedCharacter e))) :
    ∃ before s, (Scanner.ofText text).pulls before.length = some (before, s) ∧
      s.pull.1 = .stray e ∧ Viable (before.map (·.kind)) := by
  have hbefore : ∃ before, Stream.ofText text = .prepend before (.stray e) ∧
      Viable (before.map (·.kind)) := by
    obtain ⟨-, hnone⟩ | ⟨ts, s, rest, hstream, htake, hfails⟩ := exists_fails_of_error h
    · cases hnone
    · cases hfails with
      | stray => exact ⟨ts, hstream, viable_of_takeAll? htake⟩
      | @behind _ _ t _ accepted =>
        refine ⟨ts ++ [t], by rw [hstream]; simp [Stream.prepend], ?_⟩
        rw [List.map_append, List.map_singleton, viable_append_iff htake]
        exact admits_of_accept?_ne_none accepted
  obtain ⟨before, hcut, hviable⟩ := hbefore
  obtain ⟨s', hpulls, hscan⟩ := Stream.exists_pulls hcut
  exact ⟨before, s', hpulls, Stream.pull_of_scan_eq_stray hscan, hviable⟩

lemma parse_eq_noTokens_iff :
    parse strict text = .error (.query .noTokens) ↔ ∀ c ∈ text.toList, c ∈ Token.blanks := by
  rw [← Token.ofText_eq_finished_iff]
  constructor
  · intro h
    obtain ⟨hfinished, -⟩ | ⟨_, _, _, -, -, hfails⟩ := exists_fails_of_error h
    · exact hfinished
    · cases hfails
  · rintro ⟨p, hp⟩
    rw [parse_eq_result, hp]
    rfl

end

/-- **A query is refused at the first token that cannot continue one.** The tokens before the place
of an error are the start of some query; the unexpected token does not continue it and what is
reported as missing does. -/
theorem parse_error_at_first_token (strict : Bool) (text : String) :
    (∀ found expected, parse strict text = .error (.query (.unexpectedToken found expected)) →
      ∃ before s, (Scanner.ofText text).pulls (before.length + 1) = some (before ++ [found], s) ∧
        Viable (before.map (·.kind)) ∧ ¬ Viable (before.map (·.kind) ++ [found.kind]) ∧
        ∀ k, expected.Admits k → Viable (before.map (·.kind) ++ [k])) ∧
    (∀ expected position,
      parse strict text = .error (.query (.unexpectedEnd expected position)) →
      ∃ ts, tokenize text = .ok ts ∧ ts ≠ [] ∧ Viable (ts.map (·.kind)) ∧
        ¬ Sentence (ts.map (·.kind)) ∧
        ∀ k, expected.Admits k → Viable (ts.map (·.kind) ++ [k])) ∧
    (∀ e, parse strict text = .error (.query (.unexpectedCharacter e)) →
      ∃ before s, (Scanner.ofText text).pulls before.length = some (before, s) ∧
        s.pull.1 = .stray e ∧ Viable (before.map (·.kind))) ∧
    (parse strict text = .error (.query .noTokens) ↔ ∀ c ∈ text.toList, c ∈ Token.blanks) :=
  ⟨fun _ _ => viable_of_unexpectedToken, fun _ _ => viable_of_unexpectedEnd,
    fun _ => viable_of_unexpectedCharacter, parse_eq_noTokens_iff⟩

/-- `and(35)` is refused where its second argument is missing. -/
theorem parse_error_at_first_token_and :
    parse true "and(35)" =
      .error (.query (.unexpectedToken ⟨.closeParen, ")", 6⟩ (.kind .comma))) ∧
    ∃ before s, (Scanner.ofText "and(35)").pulls (before.length + 1) =
        some (before ++ [⟨.closeParen, ")", 6⟩], s) ∧
      Viable (before.map (·.kind)) ∧ ¬ Viable (before.map (·.kind) ++ [.closeParen]) ∧
      Viable (before.map (·.kind) ++ [.comma]) := by
  have hand : Token.Lexeme (some .logicalOperator) ['a', 'n', 'd'] ['(', '3', '5', ')'] :=
    .of_shape (List.mem_pair.mpr (.inl rfl)) (Token.stops_cons.mpr rfl)
  have hnumber : Token.Lexeme (some .number) ['3', '5'] [')'] :=
    .of_shape ⟨List.cons_ne_nil _ _, List.all_eq_true.mp rfl⟩ (Token.stops_cons.mpr rfl)
  have htiles : Token.Tiling "and(35)".toList _ [] :=
    .cons hand (.cons .openParen (.cons hnumber (.cons .closeParen .nil)))
  have hparse : parse true "and(35)" =
      .error (.query (.unexpectedToken ⟨.closeParen, ")", 6⟩ (.kind .comma))) := by
    rw [parse_eq_result, Token.ofText_eq htiles Token.noLexeme_nil]
    rfl
  obtain ⟨before, s, hpulls, hviable, hrefused, hexpected⟩ :=
    (parse_error_at_first_token true "and(35)").1 _ _ hparse
  exact ⟨hparse, before, s, hpulls, hviable, hrefused, hexpected .comma rfl⟩

end DocFilter.Query
