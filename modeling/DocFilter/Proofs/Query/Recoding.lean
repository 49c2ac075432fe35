import DocFilter.Proofs.Query.Alike
import DocFilter.Proofs.Query.Literal
import DocFilter.Proofs.Query.Run

/-!
Reading tokens whose strings have other contents: the machine goes through the same states but for
the literals in them, and ends the same way.
-/

namespace DocFilter

open Query

/-- The tokens differ at most in the contents of a string and in where they start. -/
structure Token.Recoded (g : Nat → Nat) (t u : Token) : Prop where
  kind : u.kind = t.kind
  text : t.kind ≠ .string → u.text = t.text
  offset : u.offset = g t.offset
  lexical : t.Lexical
  lexical' : u.Lexical

/-- An error with its tokens and its positions changed. -/
def QueryError.map (f : Token → Token) (g : Nat → Nat) : QueryError → QueryError
  | unexpectedCharacter s => unexpectedCharacter { s with position := g s.position }
  | noTokens => noTokens
  | unexpectedToken found expected => unexpectedToken (f found) expected
  | unexpectedEnd expected position => unexpectedEnd expected (g position)
  | invalidLiteral text reason position => invalidLiteral text reason (g position)
  | trailingInput found => trailingInput (f found)

/-! ### One token -/

/-- What two tokens give: neither is one that can come, or both have no value for the same reason,
or what they give is related. -/
inductive Outcome {α : Type} (g : Nat → Nat) (R : α → α → Prop) :
    Option (Except Failure α) → Option (Except Failure α) → Prop
  | refused : Outcome g R none none
  | invalid {text : String} {reason : Reason} {position : Nat} :
      Outcome g R (some (.error (.query (.invalidLiteral text reason position))))
        (some (.error (.query (.invalidLiteral text reason (g position)))))
  | taken {a b : α} (related : R a b) : Outcome g R (some (.ok a)) (some (.ok b))

lemma Outcome.map {α β : Type} {g : Nat → Nat} {R : α → α → Prop} {S : β → β → Prop}
    {x y : Option (Except Failure α)} {f f' : α → β} (h : Outcome g R x y)
    (hf : ∀ a b, R a b → S (f a) (f' b)) :
    Outcome g S (x.map (·.map f)) (y.map (·.map f')) := by
  cases h with
  | refused => exact .refused
  | invalid => exact .invalid
  | taken related => exact .taken (hf _ _ related)

namespace Token

variable {g : Nat → Nat} {t u : Token}

lemma Recoded.literal? (h : Recoded g t u) :
    Outcome g (fun _ _ => True) t.literal? u.literal? := by
  have hkind := h.kind
  have htext := h.text
  have hlex := h.lexical
  cases hk : t.kind with
  | number =>
    rw [hk] at hkind htext
    simp only [Token.literal?, hk, hkind, htext (by decide), h.offset]
    split
    · exact .taken trivial
    · exact .invalid
  | string =>
    -- whatever is between the quotes, a string has a value
    have hlex' := h.lexical'
    rw [hk] at hkind
    rw [Lexical, hk] at hlex
    rw [Lexical, hkind] at hlex'
    obtain ⟨q, body, hq, -, hbody⟩ := hlex
    obtain ⟨q', body', hq', -, hbody'⟩ := hlex'
    simp only [Token.literal?, hk, hkind, hbody, hbody', between?_append hq, between?_append hq']
    exact .taken trivial
  | boolean =>
    rw [hk] at hkind htext
    rw [Lexical, hk, Kind.Shape, String.ofList_toList] at hlex
    simp only [Token.literal?, hk, hkind, htext (by decide)]
    split_ifs with htrue hfalse
    · exact .taken trivial
    · exact .taken trivial
    · simp [htrue, hfalse] at hlex
  | date =>
    rw [hk] at hkind htext
    simp only [Token.literal?, hk, hkind, htext (by decide), h.offset]
    split
    · exact .taken trivial
    · exact .invalid
  | _ =>
    rw [hk] at hkind
    simp only [Token.literal?, hk, hkind]
    exact .refused

end Token

namespace Query.Parser

open Token (Stream)

lemma exists_relOp {t : Token} (h : t.Lexical) (hk : t.kind = .relationalOperator) :
    ∃ op, t.text = RelOp.keyword op := by
  rw [Token.Lexical, hk, Token.Kind.Shape, String.ofList_toList] at h
  simp only [List.mem_cons, List.not_mem_nil, or_false] at h
  rcases h with h | h | h | h | h | h
  · exact ⟨.eq, h⟩
  · exact ⟨.ne, h⟩
  · exact ⟨.gt, h⟩
  · exact ⟨.ge, h⟩
  · exact ⟨.lt, h⟩
  · exact ⟨.le, h⟩

lemma exists_logOp {t : Token} (h : t.Lexical) (hk : t.kind = .logicalOperator) :
    ∃ op, t.text = LogOp.keyword op := by
  rw [Token.Lexical, hk, Token.Kind.Shape, String.ofList_toList] at h
  simp only [List.mem_cons, List.not_mem_nil, or_false] at h
  rcases h with h | h
  · exact ⟨.and, h⟩
  · exact ⟨.or, h⟩

variable {g : Nat → Nat} {t u : Token}

lemma accept?_expression_alike {outer outer' : List Frame}
    (ho : List.Forall₂ Frame.Alike outer outer') (h : t.Recoded g u) :
    Outcome g State.Alike (accept? .expression outer t) (accept? .expression outer' u) := by
  have hkind := h.kind
  have htext := h.text
  cases hk : t.kind with
  | relationalOperator =>
    obtain ⟨op, hop⟩ := exists_relOp h.lexical hk
    rw [hk] at hkind htext
    simp only [accept?, hk, hkind, htext (by decide), hop, RelOp.ofKeyword?_keyword]
    exact .taken (.reading .openRelational ho)
  | logicalOperator =>
    obtain ⟨op, hop⟩ := exists_logOp h.lexical hk
    rw [hk] at hkind htext
    simp only [accept?, hk, hkind, htext (by decide), hop, LogOp.ofKeyword?_keyword]
    exact .taken (.reading .openLogical ho)
  | _ =>
    rw [hk] at hkind
    simp only [accept?, hk, hkind]
    exact h.literal?.map fun _ _ _ => attach_alike .literal ho

lemma accept?_argument_alike {outer outer' : List Frame} {op : LogOp} {ns ms : List Node}
    (ha : List.Forall₂ Node.Alike ns ms) (ho : List.Forall₂ Frame.Alike outer outer')
    (h : t.Recoded g u) :
    Outcome g State.Alike (accept? (.argument op ns) outer t)
      (accept? (.argument op ms) outer' u) := by
  have hkind := h.kind
  cases hk : t.kind with
  | comma =>
    rw [hk] at hkind
    simp only [accept?, hk, hkind]
    exact .taken (.reading .expression (.cons ⟨rfl, ha⟩ ho))
  | closeParen =>
    rw [hk] at hkind
    simp only [accept?, hk, hkind, ha.length_eq]
    split
    · exact .refused
    · exact .taken (attach_alike (.logical (List.rel_reverse ha)) ho)
  | _ =>
    rw [hk] at hkind
    simp only [accept?, hk, hkind]
    exact .refused

/-- In alike states a token and its recoding fare alike. -/
lemma accept?_alike {mode mode' : Mode} {outer outer' : List Frame} (hm : mode.Alike mode')
    (ho : List.Forall₂ Frame.Alike outer outer') (h : t.Recoded g u) :
    Outcome g State.Alike (accept? mode outer t) (accept? mode' outer' u) := by
  have hkind := h.kind
  cases hm with
  | expression => exact accept?_expression_alike ho h
  | value => exact h.literal?.map fun _ _ _ => .reading .close ho
  | argument arguments => exact accept?_argument_alike arguments ho h
  | field =>
    have htext := h.text
    cases hk : t.kind <;> rw [hk] at hkind htext <;> simp only [accept?, hk, hkind]
    case identifier =>
      rw [htext (by decide)]
      exact .taken (.reading .comma ho)
    all_goals exact .refused
  | openRelational =>
    cases hk : t.kind <;> rw [hk] at hkind <;> simp only [accept?, hk, hkind]
    case openParen => exact .taken (.reading .field ho)
    all_goals exact .refused
  | openLogical =>
    cases hk : t.kind <;> rw [hk] at hkind <;> simp only [accept?, hk, hkind]
    case openParen => exact .taken (.reading .expression (.cons ⟨rfl, .nil⟩ ho))
    all_goals exact .refused
  | comma =>
    cases hk : t.kind <;> rw [hk] at hkind <;> simp only [accept?, hk, hkind]
    case comma => exact .taken (.reading .value ho)
    all_goals exact .refused
  | close =>
    cases hk : t.kind <;> rw [hk] at hkind <;> simp only [accept?, hk, hkind]
    case closeParen => exact .taken (attach_alike .relational ho)
    all_goals exact .refused

/-! ### Runs -/

/-- What two readings give: alike trees, or the same error but for its tokens and positions. -/
inductive Ends (f : Token → Token) (g : Nat → Nat) :
    Except Failure Node → Except Failure Node → Prop
  | tree {n m : Node} (alike : n.Alike m) : Ends f g (.ok n) (.ok m)
  | error {e : QueryError} : Ends f g (.error (.query e)) (.error (.query (e.map f g)))

variable {f : Token → Token} {strict : Bool}

lemma failBefore_ends {text : String} {reason : Reason} {position : Nat} (stream : Stream) :
    Ends f g (failBefore (.query (.invalidLiteral text reason position)) stream).result
      (failBefore (.query (.invalidLiteral text reason (g position))) (stream.map f g)).result := by
  cases stream with
  | finished p => exact .error
  | stray e => exact .error
  | token t rest => exact .error

/-- **Recoded tokens are read alike.** -/
theorem run_ends {s s' : State} (h : s.Alike s') {stream : Stream}
    (ht : ∀ t ∈ stream.tokens, t.Recoded g (f t)) :
    Ends f g (run strict s stream).result (run strict s' (stream.map f g)).result := by
  induction stream generalizing s s' with
  | finished p =>
    cases h with
    | reading inner around =>
      rw [Stream.map, run_of_ending? rfl, run_of_ending? rfl, inner.expected]
      exact .error
    | complete query => exact .tree query
  | stray e =>
    cases h with
    | reading inner around => exact .error
    | complete query => exact .error
  | token t rest ih =>
    rw [Stream.tokens, List.forall_mem_cons] at ht
    cases h with
    | @reading mode mode' outer outer' inner around =>
      have houtcome := accept?_alike inner around ht.1
      rw [Stream.map]
      generalize hx : accept? mode outer t = x at houtcome
      generalize hy : accept? mode' outer' (f t) = y at houtcome
      cases houtcome with
      | refused =>
        rw [run_of_refused hx, run_of_refused hy, inner.expected]
        exact .error
      | invalid =>
        -- the failure waits for the next token, which is recoded as well
        rw [run_of_failed hx, run_of_failed hy]
        exact failBefore_ends rest
      | taken related =>
        rw [run_of_accepted hx, run_of_accepted hy]
        exact ih related ht.2
    | complete query =>
      cases strict
      · exact .tree query
      · exact .error

lemma ofStream_ends (strict : Bool) {stream : Stream}
    (ht : ∀ t ∈ stream.tokens, t.Recoded g (f t)) :
    Ends f g (ofStream strict stream).result (ofStream strict (stream.map f g)).result := by
  have hstart : start.Alike start := .reading .expression .nil
  cases stream with
  | finished p => exact .error
  | stray e => exact run_ends hstart ht
  | token t rest => exact run_ends hstart ht

end Query.Parser

end DocFilter
