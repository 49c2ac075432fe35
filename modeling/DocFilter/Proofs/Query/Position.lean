import DocFilter.Proofs.Query.FirstError
import DocFilter.Proofs.Token.Layout

/-!
Errors show where they arise: at a boundary of characters of the query, behind the tokens that have
been scanned, and in front of what they report.
-/

namespace DocFilter

open Text
open Token (Stream Laid blanks)

/-- The scanner yields the token, and from its offset on the text, which goes on there with `back`,
starts with it. -/
def Token.Stands (text : String) (back : List Char) (t : Token) : Prop :=
  t ∈ (Stream.ofText text).tokens ∧ t.text.toList <+: back ∧
    (Scanner.mk text t.offset back).pull.1 = .token t

/-- What an error says about the text at its place, which goes on there with `back`. -/
def QueryError.PointsAt (text : String) (back : List Char) : QueryError → Prop
  | unexpectedCharacter e => back.head? = some e.character
  | noTokens => False
  | unexpectedToken found _ => found.Stands text back
  | trailingInput found => found.Stands text back
  | invalidLiteral w _ position =>
    ∃ k, (k = .number ∨ k = .date) ∧ (Token.mk k w position).Stands text back
  | unexpectedEnd _ position =>
    back = [] ∧ position = text.utf8ByteSize ∧
      ∃ ts t front gap, (Stream.ofText text).tokens = ts ++ [t] ∧
        text.toList = front ++ (t.text.toList ++ gap) ∧ byteLength front = t.offset ∧
        ∀ c ∈ gap, c ∈ blanks

namespace Query

open Query.Parser

variable {strict : Bool} {text : String} {ts : List Token}

/-! ### Every failure is an error of the query -/

lemma ending?_ne_defect {s : State} {rest : Stream} {d : Defect}
    (lexical : ∀ t ∈ rest.tokens, t.Lexical) :
    ending? strict s rest ≠ some (.error (.defect d)) := by
  intro h
  rcases rest with p | e | ⟨t, rest⟩
  · rcases s with ⟨mode, outer⟩ | n <;> cases h
  · cases h
  · rcases s with ⟨mode, outer⟩ | n
    · simp only [ending?] at h
      split at h
      · cases h
      · next f hf =>
        rcases accept?_error hf with ⟨-, reason, rfl⟩ | ⟨-, hnot⟩
        · cases rest <;> cases h
        · exact hnot (lexical t List.mem_cons_self)
      · cases h
    · cases strict <;> cases h

/-- Reading a query never meets a defect. -/
theorem parse_ne_defect (strict : Bool) (text : String) (d : Defect) :
    parse strict text ≠ .error (.defect d) := by
  have hrun : (run strict start (.ofText text)).result ≠ .error (.defect d) := by
    intro h
    obtain ⟨ts, s, rest, hstream, -, hend⟩ := run_result_eq_iff.mp h
    refine ending?_ne_defect (fun t ht => ?_) hend
    have hmem : t ∈ (Stream.ofText text).tokens := by
      rw [hstream, Stream.tokens_prepend]
      exact List.mem_append_right ts ht
    exact Token.lexical_of_mem_ofText hmem
  rw [parse_eq_result]
  cases hstream : Stream.ofText text with
  | finished p => nofun
  | stray e => rwa [hstream] at hrun
  | token t rest => rwa [hstream] at hrun

/-! ### The place of an error -/

lemma stands_of_stream {t : Token} {rest : Stream} {back : List Char}
    (h : Stream.ofText text = .prepend ts (.token t rest)) (hat : (Stream.token t rest).At back) :
    t.Stands text back := by
  obtain ⟨cs, rfl, lexeme⟩ := hat
  refine ⟨?_, List.prefix_append _ _, ?_⟩
  · rw [h, Stream.tokens_prepend]
    exact List.mem_append_right ts List.mem_cons_self
  · rw [Scanner.pull_of_token lexeme rfl, String.ofList_toList]

lemma pointsAt_of_finished {p : Nat} {expected : Expected} {front back : List Char}
    (h : Stream.ofText text = .prepend ts (.finished p)) (ne : ts ≠ [])
    (hsplit : text.toList = front ++ back) (hlen : byteLength front = p) (hlaid : Laid 0 ts front)
    (hat : (Stream.finished p).At back) :
    (QueryError.unexpectedEnd expected p).PointsAt text back := by
  obtain rfl : back = [] := hat
  rw [List.append_nil] at hsplit
  obtain ⟨us, t, rfl⟩ := (List.eq_nil_or_concat' ts).resolve_left ne
  obtain ⟨before, gap, hfront, hoff, blank⟩ := hlaid.exists_last
  refine ⟨rfl, ?_, us, t, before, gap, ?_, hsplit.trans hfront, by omega, blank⟩
  · rw [utf8ByteSize_eq, hsplit, hlen]
  · rw [h, Stream.tokens_prepend, Stream.tokens, List.append_nil]

lemma exists_stream_of_error {e : QueryError} (h : parse strict text = .error (.query e))
    (hne : e ≠ .noTokens) :
    ∃ ts rest, Stream.ofText text = .prepend ts rest ∧ e.position? = some rest.position ∧
      ∀ front back, text.toList = front ++ back → byteLength front = rest.position →
        Laid 0 ts front → rest.At back → e.PointsAt text back := by
  obtain ⟨-, hnone⟩ | ⟨ts, s, rest, hstream, -, hfails⟩ := exists_fails_of_error h
  · exact absurd hnone hne
  · cases hfails with
    | stray =>
      refine ⟨ts, _, hstream, rfl, fun front back _ _ _ hat => ?_⟩
      obtain ⟨cs, rfl, -⟩ := hat
      rfl
    | finished =>
      refine ⟨ts, _, hstream, rfl, fun front back hsplit hlen hlaid hat => ?_⟩
      refine pointsAt_of_finished hstream ?_ hsplit hlen hlaid hat
      -- without tokens the error would be another one
      rintro rfl
      rw [parse_eq_result, hstream] at h
      cases h
    | refused =>
      exact ⟨ts, _, hstream, rfl, fun _ _ _ _ _ hat => stands_of_stream hstream hat⟩
    | @behind _ _ t e _ =>
      -- the stray character shows before the token in front of it is taken
      refine ⟨ts ++ [t], .stray e, by simp [hstream, Stream.prepend], rfl,
        fun front back _ _ _ hat => ?_⟩
      obtain ⟨cs, rfl, -⟩ := hat
      rfl
    | @invalid _ _ t _ _ _ kind =>
      exact ⟨ts, _, hstream, rfl, fun _ _ _ _ _ hat => ⟨t.kind, kind, stands_of_stream hstream hat⟩⟩
    | trailing =>
      exact ⟨ts, _, hstream, rfl, fun _ _ _ _ _ hat => stands_of_stream hstream hat⟩

/-- **Every error points at the real text.** Its position is a boundary of characters within the
query; before it are blanks and the tokens that the scanner yields before it, each at its offset;
and there stands what the error reports. -/
theorem parse_error_points_at_text {f : Failure} (h : parse strict text = .error f)
    (hne : f ≠ .query .noTokens) :
    ∃ e p, f = .query e ∧ e.position? = some p ∧ p ≤ text.utf8ByteSize ∧
      String.Pos.Raw.IsValid text ⟨p⟩ ∧
      ∃ front back, text.toList = front ++ back ∧ byteLength front = p ∧
        Laid 0 ((Stream.ofText text).tokens.filter (·.offset < p)) front ∧
        e.PointsAt text back := by
  cases f with
  | defect d => exact absurd h (parse_ne_defect strict text d)
  | query e =>
    obtain ⟨ts, rest, hstream, hpos, hpoints⟩ :=
      exists_stream_of_error h fun heq => hne (congrArg _ heq)
    obtain ⟨front, back, hsplit, hlen, hlaid, hat⟩ := Token.exists_place hstream
    refine ⟨e, _, rfl, hpos, hlen ▸ byteLength_le hsplit, hlen ▸ isValid_byteLength hsplit, front,
      back, hsplit, hlen, ?_, hpoints front back hsplit hlen hlaid hat⟩
    rwa [Token.filter_offset_lt hstream]

/-- Behind a string with a letter of two bytes a function closes too early. -/
theorem parse_error_points_at_text_string :
    parse true "or('é')" = .error (.query (.unexpectedToken ⟨.closeParen, ")", 7⟩ (.kind .comma))) ∧
    String.Pos.Raw.IsValid "or('é')" ⟨7⟩ ∧
    ∃ front back, "or('é')".toList = front ++ back ∧ byteLength front = 7 ∧
      Laid 0 ((Stream.ofText "or('é')").tokens.filter (·.offset < 7)) front ∧
      (Token.mk .closeParen ")" 7).Stands "or('é')" back := by
  have hor : Token.Lexeme (some .logicalOperator) ['o', 'r'] ['(', '\'', 'é', '\'', ')'] :=
    .of_shape (List.mem_pair.mpr (.inr rfl)) (Token.stops_cons.mpr rfl)
  have hstring : Token.Lexeme (some .string) ['\'', 'é', '\''] [')'] :=
    .string (.inr rfl) (by decide : '\'' ∉ ['é'])
  have htiles : Token.Tiling "or('é')".toList _ [] :=
    .cons hor (.cons .openParen (.cons hstring (.cons .closeParen .nil)))
  have hparse : parse true "or('é')" =
      .error (.query (.unexpectedToken ⟨.closeParen, ")", 7⟩ (.kind .comma))) := by
    rw [parse_eq_result, Token.ofText_eq htiles Token.noLexeme_nil]
    rfl
  obtain ⟨e, p, he, hp, -, hvalid, hplace⟩ := parse_error_points_at_text hparse nofun
  obtain rfl := Failure.query.inj he
  obtain rfl := Option.some.inj hp
  exact ⟨hparse, hvalid, hplace⟩

end Query

end DocFilter
