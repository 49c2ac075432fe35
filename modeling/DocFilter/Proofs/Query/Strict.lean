import DocFilter.Proofs.Query.Accepts
import DocFilter.Proofs.Token.Concatenation
import DocFilter.Proofs.Token.Cursor

/-!
Strict reading asks that no token is left over, and that is all it asks. What is left over does not
change how a query is read: a whole query with blanks and another text behind it is read as before,
unless the next token cannot be scanned.
-/

namespace DocFilter

open Token (Stream Stray blanks tokenize)

namespace Query

open Query.Parser

/-! ### Behind a complete query -/

namespace Parser

/-- What reading gives once the query is complete. -/
def leftover (strict : Bool) (n : Node) : Stream → Except Failure Node
  | .finished _ => .ok n
  | .stray e => .error (.query (.unexpectedCharacter e))
  | .token t _ => if strict then .error (.query (.trailingInput t)) else .ok n

lemma ending?_complete (strict : Bool) (n : Node) (rest : Stream) :
    ending? strict (.complete n) rest = some (leftover strict n rest) := by
  cases rest with
  | finished p => rfl
  | stray e => rfl
  | token t rest => rfl

lemma ending?_of_error {s : State} {rest : Stream} {e : Failure}
    (h : ending? false s rest = some (.error e)) : ending? true s rest = some (.error e) := by
  cases s with
  | reading mode outer => cases rest <;> exact h
  | complete n => cases rest <;> first | exact h | cases h

end Parser

section

variable {strict : Bool} {text : String} {ts : List Token} {rest : Stream} {n : Node}

/-- What follows the tokens of an expression decides how reading ends. -/
lemma parse_of_derives (hstream : Stream.ofText text = .prepend ts rest) (h : Derives ts n) :
    parse strict text = leftover strict n rest := by
  have htake : takeAll? start ts = some (.complete n) := takeAll?_of_derives h []
  have hrun : (run strict start (.ofText text)).result = leftover strict n rest :=
    run_result_eq_iff.mpr ⟨ts, _, rest, hstream, htake, ending?_complete strict n rest⟩
  rw [parse_eq_result]
  -- a text without tokens is not run at all, but an expression has some
  cases ts with
  | nil => cases htake
  | cons t ts =>
    rw [hstream] at hrun ⊢
    exact hrun

lemma parse_error_of_lenient {e : Failure} (h : parse false text = .error e) :
    parse true text = .error e := by
  have hrun : ∀ stream, (run false start stream).result = .error e →
      (run true start stream).result = .error e := by
    intro stream hstream
    obtain ⟨ts, s, rest, hsplit, htake, hend⟩ := run_result_eq_iff.mp hstream
    exact run_result_eq_iff.mpr ⟨ts, s, rest, hsplit, htake, ending?_of_error hend⟩
  rw [parse_eq_result] at h ⊢
  cases hstream : Stream.ofText text with
  | finished p => rwa [hstream] at h
  | stray e' =>
    rw [hstream] at h
    exact hrun _ h
  | token t rest =>
    rw [hstream] at h
    exact hrun _ h

/-- A query that is read without being strict is read, or one token too many is found. -/
lemma exists_leftover (h : parse false text = .ok n) :
    ∃ ts s, (Scanner.ofText text).pulls ts.length = some (ts, s) ∧ Derives ts n ∧
      parse true text = leftover true n (Stream.scan s) ∧ ∀ e, s.pull.1 ≠ .stray e := by
  obtain ⟨ts, rest, hstream, hderives, hrest⟩ := parse_eq_ok_iff.mp h
  obtain ⟨s, hpulls, rfl⟩ := Stream.exists_pulls hstream
  exact ⟨ts, s, hpulls, hderives, parse_of_derives hstream hderives, mayFollow_scan_iff.mp hrest⟩

end

/-! ### Another text behind the query -/

section

variable {strict : Bool} {a w b : String} {n : Node}

lemma parse_append (h : parse true a = .ok n) (ne : w ≠ "") (blank : ∀ c ∈ w.toList, c ∈ blanks) :
    parse strict (a ++ w ++ b) =
      leftover strict n ((Stream.ofText b).shift (a.utf8ByteSize + w.utf8ByteSize)) := by
  obtain ⟨ts, rest, hstream, hderives, hrest⟩ := parse_eq_ok_iff.mp h
  have htokens : tokenize a = .ok ts := by
    rcases rest with p | e | ⟨t, rest⟩
    · exact Stream.toList_eq_ok_iff.mpr ⟨p, hstream⟩
    · cases hrest
    · cases hrest
  exact parse_of_derives (Token.ofText_append htokens ne blank) hderives

end

/-- **Strict reading asks for nothing but that no token is left over.** A query that fails without
being strict fails alike when it is. One that is read is read again when only blanks follow its
tokens, and otherwise the next token is reported. Behind a whole query and blanks another text
changes nothing if it has no tokens; its first token is left over, whatever follows that one; and
where it starts with a stray character, that is reported in either mode. -/
theorem parse_strict_and_lenient :
    (∀ text e, parse false text = .error e → parse true text = .error e) ∧
    (∀ text n, parse false text = .ok n →
      ∃ ts s, (Scanner.ofText text).pulls ts.length = some (ts, s) ∧ Derives ts n ∧
        ((∀ c ∈ s.rest, c ∈ blanks) → parse true text = .ok n) ∧
        (¬ (∀ c ∈ s.rest, c ∈ blanks) → ∃ t, s.pull.1 = .token t ∧
          parse true text = .error (.query (.trailingInput t)))) ∧
    (∀ a w b n, parse true a = .ok n → w ≠ "" → (∀ c ∈ w.toList, c ∈ blanks) →
      ((Scanner.ofText b).pull.1 = .finished → ∀ strict, parse strict (a ++ w ++ b) = .ok n) ∧
      (∀ t, (Scanner.ofText b).pull.1 = .token t → parse false (a ++ w ++ b) = .ok n ∧
        parse true (a ++ w ++ b) =
          .error (.query (.trailingInput (t.shift (a.utf8ByteSize + w.utf8ByteSize))))) ∧
      (∀ e, (Scanner.ofText b).pull.1 = .stray e → ∀ strict, parse strict (a ++ w ++ b) =
        .error (.query (.unexpectedCharacter (e.shift (a.utf8ByteSize + w.utf8ByteSize)))))) := by
  refine ⟨fun _ _ => parse_error_of_lenient, fun text n h => ?_, fun a w b n h ne blank => ?_⟩
  · obtain ⟨ts, s, hpulls, hderives, hstrict, hpull⟩ := exists_leftover h
    refine ⟨ts, s, hpulls, hderives, ?_⟩
    rw [hstrict, ← Scanner.pull_eq_finished_iff]
    rcases hp : s.pull with ⟨t | _ | e, s'⟩
    · rw [Stream.scan_of_token hp]
      exact ⟨nofun, fun _ => ⟨t, rfl, rfl⟩⟩
    · rw [Stream.scan_of_finished hp]
      exact ⟨fun _ => rfl, fun hne => absurd rfl hne⟩
    · exact absurd (congrArg Prod.fst hp) (hpull e)
  · refine ⟨fun hp strict => ?_, fun t hp => ?_, fun e hp strict => ?_⟩
    · have hb : Stream.ofText b = .finished _ := Stream.scan_of_finished (Prod.ext hp rfl)
      rw [parse_append h ne blank, hb]
      rfl
    · have hb : Stream.ofText b = .token t _ := Stream.scan_of_token (Prod.ext hp rfl)
      rw [parse_append h ne blank, parse_append h ne blank, hb]
      exact ⟨rfl, rfl⟩
    · have hb : Stream.ofText b = .stray e := Stream.scan_of_stray (Prod.ext hp rfl)
      rw [parse_append h ne blank, hb]
      rfl

/-- Behind a string with a letter of two bytes stands a number, and behind that a character that
cannot be scanned. -/
theorem parse_strict_and_lenient_string :
    parse true "'é'" = .ok (.literal (.string "é")) ∧
    (Scanner.ofText "7 $").pull.1 = .token ⟨.number, "7", 0⟩ ∧
    parse false "'é'\n7 $" = .ok (.literal (.string "é")) ∧
    parse true "'é'\n7 $" = .error (.query (.trailingInput ⟨.number, "7", 5⟩)) := by
  have htiles : Token.Tiling "'é'".toList [⟨some .string, ['\'', 'é', '\'']⟩] [] :=
    .cons (.string (.inr rfl) (by decide : '\'' ∉ ['é'])) .nil
  have hstream : Stream.ofText "'é'" = .prepend [⟨.string, "'é'", 0⟩] (.finished 4) :=
    Token.ofText_eq htiles Token.noLexeme_nil
  have hstands : Stands ⟨.string, "'é'", 0⟩ (.string "é") :=
    .string rfl (.inr rfl) (rfl : "'é'".toList = '\'' :: (['é'] ++ ['\'']))
  have hread : parse true "'é'" = .ok (.literal (.string "é")) :=
    parse_of_derives hstream (.literal hstands)
  have hnumber : Token.Lexeme (some .number) ['7'] [' ', '$'] :=
    .of_shape ⟨List.cons_ne_nil _ _, List.all_eq_true.mp rfl⟩ (Token.stops_cons.mpr rfl)
  have hpull : (Scanner.ofText "7 $").pull.1 = .token ⟨.number, "7", 0⟩ :=
    congrArg Prod.fst (Scanner.pull_of_token (s := .ofText "7 $") hnumber rfl)
  have hblank : ∀ c ∈ "\n".toList, c ∈ blanks := List.forall_mem_singleton.mpr (by decide)
  obtain ⟨hlenient, hstrict⟩ :=
    (parse_strict_and_lenient.2.2 "'é'" "\n" "7 $" _ hread (by decide) hblank).2.1 _ hpull
  exact ⟨hread, hpull, hlenient, hstrict⟩

end Query

end DocFilter
