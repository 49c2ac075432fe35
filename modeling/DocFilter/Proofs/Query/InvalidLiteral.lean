import DocFilter.Proofs.Query.Dates
import DocFilter.Proofs.Query.FirstError
import DocFilter.Proofs.Query.Strict
import DocFilter.Proofs.Time.Reading

/-!
Literals without a value. A query is refused for one exactly when it is a number that is too large
or a date that does not exist, in the place of a literal and with no stray character behind it.
-/

namespace DocFilter.Query

open Text
open Token (Stream)
open Query.Parser

/-- A number beyond the largest one, or a date whose fields do not exist. -/
inductive OutOfRange : Token → Reason → Prop
  | number {t : Token} (kind : t.kind = .number)
      (large : 9223372036854775807 < decimalValue t.text.toList) : OutOfRange t .tooLarge
  | date {t : Token} {f : Timestamp.Fields} (kind : t.kind = .date)
      (shows : f.Shows t.text.toList) (unreal : ¬ f.Real) : OutOfRange t (.date .outOfRange)

/-- Behind these tokens a query goes on with a literal. -/
def LiteralNext (ts : List Token) : Prop := ∃ t v us n, Stands t v ∧ Derives (ts ++ t :: us) n

/-! ### The value of a token -/

section

variable {t : Token} {reason : Reason}

lemma literal?_of_outOfRange (h : OutOfRange t reason) :
    t.literal? = some (.error (.query (.invalidLiteral t.text reason t.offset))) := by
  cases h with
  | number kind large => simp [Token.literal?, kind, Literal.maxNumber, Nat.not_le.mpr large]
  | date kind shows unreal =>
    simp [Token.literal?, kind, (Timestamp.ofText_of_shows shows).2 unreal]

lemma not_outOfRange_of_stands {v : Literal} (h : Stands t v) : ¬ OutOfRange t reason := by
  intro hout
  have heq := (literal?_of_outOfRange hout).symm.trans (Token.literal?_of_stands h)
  cases heq

lemma outOfRange_of_literal? {e : QueryError} (ht : t.Lexical)
    (h : t.literal? = some (.error (.query e))) :
    ∃ reason, OutOfRange t reason ∧ e = .invalidLiteral t.text reason t.offset := by
  have hno : ∀ v, ¬ Stands t v := by
    intro v hv
    have heq := h.symm.trans (Token.literal?_of_stands hv)
    cases heq
  have hout : ∃ reason, OutOfRange t reason := by
    obtain ⟨hk | hk, -⟩ | ⟨⟨d, hd⟩, -⟩ := literal?_error h
    · refine ⟨_, .number hk ?_⟩
      by_contra hsmall
      exact hno _ (.number hk (by omega))
    · rw [Token.Lexical, hk] at ht
      obtain ⟨f, hshows⟩ := Timestamp.exists_fields ht
      refine ⟨_, .date hk hshows fun hreal => ?_⟩
      obtain ⟨v, hv, -⟩ := (Timestamp.ofText_of_shows hshows).1 hreal
      exact hno _ (.date hk hv)
    · cases hd
  obtain ⟨reason, hout⟩ := hout
  have heq := h.symm.trans (literal?_of_outOfRange hout)
  cases heq
  exact ⟨reason, hout, rfl⟩

end

namespace Parser

/-! ### Where a literal is read -/

section

variable {mode : Mode} {outer : List Frame} {t : Token}

lemma expected_of_accept? (ht : t.kind.isLiteral = true) (h : accept? mode outer t ≠ none) :
    mode.expected = .literal := by
  cases mode with
  | expression => rfl
  | value op f => rfl
  | _ => cases hk : t.kind <;> simp_all [accept?, Token.Kind.isLiteral]

lemma exists_accept?_eq (outer : List Frame) (hmode : mode.expected = .literal)
    (ht : t.kind.isLiteral = true) :
    ∃ f : Literal → State, accept? mode outer t = t.literal?.map (·.map f) := by
  cases mode with
  | expression => exact ⟨_, accept?_expression_of_isLiteral ht⟩
  | value op f => exact ⟨_, rfl⟩
  | _ => cases hmode

lemma accept?_eq_error_iff {e : QueryError} : accept? mode outer t = some (.error (.query e)) ↔
    mode.expected = .literal ∧ t.literal? = some (.error (.query e)) := by
  constructor
  · intro h
    have ht : t.kind.isLiteral = true := by
      obtain ⟨hk | hk, -⟩ | ⟨⟨d, hd⟩, -⟩ := accept?_error h
      · rw [hk]
        rfl
      · rw [hk]
        rfl
      · cases hd
    have hmode := expected_of_accept? ht (h ▸ Option.some_ne_none _)
    obtain ⟨f, hf⟩ := exists_accept?_eq outer hmode ht
    exact ⟨hmode, literal?_of_map_error (hf.symm.trans h)⟩
  · rintro ⟨hmode, hliteral⟩
    obtain ⟨f, hf⟩ := exists_accept?_eq outer hmode (isLiteral_of_literal? hliteral)
    rw [hf, hliteral]
    rfl

end

/-- A literal token. -/
def zero : Token := ⟨.number, "0", 0⟩

lemma zero_lexical : zero.Lexical := ⟨List.cons_ne_nil _ _, List.all_eq_true.mp rfl⟩

lemma zero_stands : Stands zero (.number 0) := .number rfl (by decide)

lemma literalNext_nil : LiteralNext [] := ⟨zero, _, [], _, zero_stands, .literal zero_stands⟩

lemma closeParen_lexical : Token.Lexical ⟨.closeParen, ")", 0⟩ := rfl

lemma exists_closing_tokens (n : Node) (outer : List Frame) :
    ∃ us m, (∀ t ∈ us, t.Lexical) ∧ takeAll? (attach n outer) us = some (.complete m) := by
  induction outer generalizing n with
  | nil => exact ⟨[], n, List.forall_mem_nil _, rfl⟩
  | cons frame outer ih =>
    obtain ⟨op, ns⟩ := frame
    -- one more argument, as there may be but one
    obtain ⟨us, m, hus, htake⟩ := ih (.logical op (.literal (.number 0) :: n :: ns).reverse)
    have hcomma : Token.Lexical ⟨.comma, ",", 0⟩ := rfl
    refine ⟨⟨.comma, ",", 0⟩ :: zero :: ⟨.closeParen, ")", 0⟩ :: us, m, ?_, ?_⟩
    · simp only [List.forall_mem_cons]
      exact ⟨hcomma, zero_lexical, closeParen_lexical, hus⟩
    · have two : 2 ≤ (.literal (.number 0) :: n :: ns).length := by simp
      rw [attach, takeAll?_of_take? (take?_argument.mpr (.inl ⟨rfl, rfl⟩)),
        takeAll?_of_take? (take?_expression.mpr
          (.inr (.inr ⟨_, Token.literal?_of_stands zero_stands, rfl⟩))),
        attach, takeAll?_of_take? (take?_argument.mpr (.inr ⟨rfl, two, rfl⟩)), htake]

lemma exists_tokens_of_expected {mode : Mode} (outer : List Frame) (h : mode.expected = .literal) :
    ∃ us n, (∀ t ∈ us, t.Lexical) ∧
      takeAll? (.reading mode outer) (zero :: us) = some (.complete n) := by
  have hvalue := Token.literal?_of_stands zero_stands
  cases mode with
  | expression =>
    obtain ⟨us, n, hus, htake⟩ := exists_closing_tokens (.literal (.number 0)) outer
    refine ⟨us, n, hus, ?_⟩
    rw [takeAll?_of_take? (take?_expression.mpr (.inr (.inr ⟨_, hvalue, rfl⟩))), htake]
  | value op f =>
    obtain ⟨us, n, hus, htake⟩ := exists_closing_tokens (.relational op f (.number 0)) outer
    refine ⟨⟨.closeParen, ")", 0⟩ :: us, n,
      List.forall_mem_cons.mpr ⟨closeParen_lexical, hus⟩, ?_⟩
    rw [takeAll?_of_take? (take?_value.mpr ⟨_, hvalue, rfl⟩),
      takeAll?_of_take? (take?_close.mpr ⟨rfl, rfl⟩), htake]
  | _ => cases h

/-- **A query goes on with a literal where the machine misses one.** -/
theorem literalNext_iff {ts : List Token} (hts : ∀ t ∈ ts, t.Lexical) : LiteralNext ts ↔
    ∃ mode outer, takeAll? start ts = some (.reading mode outer) ∧ mode.expected = .literal := by
  constructor
  · rintro ⟨t, v, us, n, hstands, hderives⟩
    have htake := takeAll?_of_derives hderives []
    rw [takeAll?_append] at htake
    obtain ⟨s, hs, hrest⟩ := Option.bind_eq_some_iff.mp htake
    obtain ⟨s', hs', -⟩ := Option.bind_eq_some_iff.mp hrest
    cases s with
    | complete m => cases hs'
    | reading mode outer =>
      have haccept := take?_reading.mp hs'
      exact ⟨mode, outer, hs, expected_of_accept? hstands.isLiteral
        (Option.ne_none_iff_exists'.mpr ⟨_, haccept⟩)⟩
  · rintro ⟨mode, outer, htake, hmode⟩
    obtain ⟨us, n, hus, hrest⟩ := exists_tokens_of_expected outer hmode
    have hall : takeAll? start (ts ++ zero :: us) = some (.complete n) := by
      rw [takeAll?_append, htake, Option.bind_some, hrest]
    have hlexical : ∀ t ∈ ts ++ zero :: us, t.Lexical :=
      List.forall_mem_append.mpr ⟨hts, List.forall_mem_cons.mpr ⟨zero_lexical, hus⟩⟩
    exact ⟨zero, _, us, n, zero_stands, (takeAll?_start_iff hlexical).mp hall⟩

/-! ### Runs that a literal ends -/

/-- A literal without a value ends a run, unless a stray character stands behind it. -/
lemma ending?_eq_invalidLiteral_iff {strict : Bool} {s : State} {stream : Stream} {w : String}
    {reason : Reason} {p : Nat} :
    ending? strict s stream = some (.error (.query (.invalidLiteral w reason p))) ↔
      ∃ mode outer t rest, s = .reading mode outer ∧ stream = .token t rest ∧
        accept? mode outer t = some (.error (.query (.invalidLiteral w reason p))) ∧
        ∀ e, rest ≠ .stray e := by
  constructor
  · intro h
    rcases stream with q | e | ⟨t, rest⟩
    · rcases s with ⟨mode, outer⟩ | n <;> cases h
    · cases h
    · rcases s with ⟨mode, outer⟩ | n
      · simp only [ending?] at h
        split at h
        · cases h
        · next f hf =>
          cases rest with
          | stray e => cases h
          | finished q =>
            cases h
            exact ⟨mode, outer, t, _, rfl, rfl, hf, fun _ heq => by cases heq⟩
          | token u rest =>
            cases h
            exact ⟨mode, outer, t, _, rfl, rfl, hf, fun _ heq => by cases heq⟩
        · cases h
      · cases strict <;> cases h
  · rintro ⟨mode, outer, t, rest, rfl, rfl, haccept, hrest⟩
    simp only [ending?, haccept]
    cases rest with
    | stray e => exact absurd rfl (hrest e)
    | _ => rfl

end Parser

/-- What a literal stands for is what is written. -/
def Exact (t : Token) (v : Literal) : Prop :=
  (t.kind = .number → v = .number (decimalValue t.text.toList)) ∧
    (t.kind = .date → ∃ d : Timestamp, v = .date d ∧ d.Written t.text.toList)

lemma exact_of_stands {t : Token} {v : Literal} (ht : t.Lexical) (h : Stands t v) : Exact t v := by
  refine ⟨fun hk => ?_, fun hk => ?_⟩
  · cases h with
    | number => rfl
    | _ => simp_all
  · rw [Token.Lexical, hk] at ht
    cases h with
    | date kind value => exact ⟨_, rfl, Timestamp.written_of_ofText ht value⟩
    | _ => simp_all

section

variable {strict : Bool} {text : String}

section

variable {ts : List Token} {t : Token} {s : Scanner} {reason : Reason}

lemma exists_accept?_of_outOfRange
    (hpulls : (Scanner.ofText text).pulls (ts.length + 1) = some (ts ++ [t], s))
    (hnext : LiteralNext ts) (hout : OutOfRange t reason) :
    Stream.ofText text = .prepend ts (.token t (.scan s)) ∧
      ∃ mode outer, takeAll? start ts = some (.reading mode outer) ∧
        accept? mode outer t =
          some (.error (.query (.invalidLiteral t.text reason t.offset))) := by
  have hstream : Stream.ofText text = .prepend (ts ++ [t]) (.scan s) :=
    (Stream.scan_of_pulls hpulls).2
  have hts : ∀ t ∈ ts, t.Lexical :=
    (List.forall_mem_append.mp (Token.lexical_of_prepend hstream)).1
  obtain ⟨mode, outer, htake, hmode⟩ := (literalNext_iff hts).mp hnext
  refine ⟨by rw [hstream]; simp [Stream.prepend], mode, outer, htake, ?_⟩
  exact accept?_eq_error_iff.mpr ⟨hmode, literal?_of_outOfRange hout⟩

lemma parse_of_outOfRange
    (hpulls : (Scanner.ofText text).pulls (ts.length + 1) = some (ts ++ [t], s))
    (hnext : LiteralNext ts) (hout : OutOfRange t reason) : parse strict text =
      (failBefore (.query (.invalidLiteral t.text reason t.offset)) (.scan s)).result := by
  obtain ⟨hstream, mode, outer, htake, haccept⟩ := exists_accept?_of_outOfRange hpulls hnext hout
  have hne : ∀ p, Stream.ofText text ≠ .finished p := by
    intro p heq
    rw [hstream] at heq
    cases ts <;> cases heq
  rw [parse_eq_run hne, hstream, run_prepend htake, run_of_failed haccept]

end

lemma parse_eq_invalidLiteral_iff {w : String} {reason : Reason} {p : Nat} :
    parse strict text = .error (.query (.invalidLiteral w reason p)) ↔
      ∃ ts t s, (Scanner.ofText text).pulls (ts.length + 1) = some (ts ++ [t], s) ∧
        LiteralNext ts ∧ OutOfRange t reason ∧ t.text = w ∧ t.offset = p ∧
        ∀ e, s.pull.1 ≠ .stray e := by
  constructor
  · intro h
    have hne : ∀ q, Stream.ofText text ≠ .finished q := by
      intro q hfinished
      rw [parse_eq_result, hfinished] at h
      cases h
    rw [parse_eq_run hne, run_result_eq_iff] at h
    obtain ⟨ts, _, _, hstream, htake, hend⟩ := h
    obtain ⟨mode, outer, t, rest, rfl, rfl, haccept, hrest⟩ :=
      ending?_eq_invalidLiteral_iff.mp hend
    have hcut : Stream.ofText text = .prepend (ts ++ [t]) rest := by
      rw [hstream]
      simp [Stream.prepend]
    obtain ⟨hts, ht⟩ := List.forall_mem_append.mp (Token.lexical_of_prepend hcut)
    -- the token stands where a literal is read, and fails for its value
    obtain ⟨hmode, hliteral⟩ := accept?_eq_error_iff.mp haccept
    obtain ⟨reason', hout, heq⟩ := outOfRange_of_literal? (ht t List.mem_cons_self) hliteral
    cases heq
    obtain ⟨s, hpulls, rfl⟩ := Stream.exists_pulls hcut
    rw [List.length_append] at hpulls
    refine ⟨ts, t, s, hpulls, (literalNext_iff hts).mpr ⟨mode, outer, htake, hmode⟩, hout, rfl,
      rfl, fun e he => hrest e (Stream.scan_eq_stray_iff.mpr he)⟩
  · rintro ⟨ts, t, s, hpulls, hnext, hout, rfl, rfl, hpull⟩
    rw [parse_of_outOfRange hpulls hnext hout]
    cases hscan : Stream.scan s with
    | stray e => exact absurd (Stream.scan_eq_stray_iff.mp hscan) (hpull e)
    | _ => rfl

lemma exact_of_parse {n : Node} (h : parse strict text = .ok n) :
    ∃ ts s, (Scanner.ofText text).pulls ts.length = some (ts, s) ∧ Derives ts n ∧
      (∀ t ∈ ts, ∀ reason, ¬ OutOfRange t reason) ∧
      List.Forall₂ Exact (ts.filter (·.kind.isLiteral)) n.literals := by
  obtain ⟨ts, rest, hstream, hderives, -⟩ := parse_eq_ok_iff.mp h
  obtain ⟨s, hpulls, -⟩ := Stream.exists_pulls hstream
  refine ⟨ts, s, hpulls, hderives, fun t ht reason hout => ?_, ?_⟩
  · have hliteral := isLiteral_of_literal? (literal?_of_outOfRange hout)
    obtain ⟨v, -, hv⟩ :=
      (exists_of_forall₂ hderives.stands).1 t (List.mem_filter.mpr ⟨ht, hliteral⟩)
    exact not_outOfRange_of_stands hv hout
  · have hlexical : ∀ t ∈ ts.filter (·.kind.isLiteral), t.Lexical := fun t ht =>
      Token.lexical_of_prepend hstream t (List.mem_of_mem_filter ht)
    exact ((List.forall₂_and_left _ _).mpr ⟨hlexical, hderives.stands⟩).imp fun _ _ h =>
      exact_of_stands h.1 h.2

end

/-! ### Queries of one literal -/

section

variable {strict : Bool} {k : Token.Kind} {text : String}

lemma parse_of_stands {v : Literal} (h : Token.Lexeme (some k) text.toList [])
    (hv : Stands ⟨k, text, 0⟩ v) : parse strict text = .ok (.literal v) :=
  parse_of_derives (Token.ofText_of_lexeme h) (.literal hv)

lemma parse_of_lexeme_outOfRange {reason : Reason} (h : Token.Lexeme (some k) text.toList [])
    (hout : OutOfRange ⟨k, text, 0⟩ reason) :
    parse strict text = .error (.query (.invalidLiteral text reason 0)) := by
  obtain ⟨s, hpulls, hscan⟩ := Stream.exists_pulls (Token.ofText_of_lexeme h)
  rw [parse_of_outOfRange (t := ⟨k, text, 0⟩) hpulls literalNext_nil hout, hscan]
  rfl

lemma parse_zeros (k : Nat) {ds : List Char} (ne : ds ≠ []) (all : ∀ d ∈ ds, d.isDigit = true) :
    parse strict (String.ofList (List.replicate k '0' ++ ds)) =
      if decimalValue ds ≤ 9223372036854775807 then .ok (.literal (.number (decimalValue ds)))
      else .error (.query (.invalidLiteral (String.ofList (List.replicate k '0' ++ ds))
        .tooLarge 0)) := by
  generalize htext : String.ofList (List.replicate k '0' ++ ds) = text
  have hcs : text.toList = List.replicate k '0' ++ ds := by rw [← htext, String.toList_ofList]
  have hzeros : decimalValue (List.replicate k '0') = 0 := Nat.ofDigitChars_replicate_zero
  have hvalue : decimalValue text.toList = decimalValue ds := by
    rw [hcs, decimalValue_append, hzeros, Nat.mul_zero, Nat.zero_add]
  have hlex : Token.Lexeme (some .number) text.toList [] := by
    refine .of_shape ⟨?_, ?_⟩ (Token.stops_nil _)
    · rw [hcs]
      exact List.append_ne_nil_of_right_ne_nil _ ne
    · rw [hcs, List.forall_mem_append]
      exact ⟨fun d hd => List.eq_of_mem_replicate hd ▸ rfl, all⟩
  split_ifs with hle
  · rw [← hvalue] at hle ⊢
    exact parse_of_stands hlex (.number rfl (by simp only; omega))
  · rw [← hvalue] at hle
    exact parse_of_lexeme_outOfRange hlex (.number rfl (Nat.lt_of_not_le hle))

lemma parse_of_shows {f : Timestamp.Fields} {cs : List Char} (h : f.Shows cs) :
    (f.Real → ∃ d : Timestamp, d.Written cs ∧
        parse strict (String.ofList cs) = .ok (.literal (.date d))) ∧
      (¬ f.Real → parse strict (String.ofList cs) =
        .error (.query (.invalidLiteral (String.ofList cs) (.date .outOfRange) 0))) := by
  obtain ⟨text, rfl⟩ : ∃ text : String, cs = text.toList :=
    ⟨String.ofList cs, String.toList_ofList.symm⟩
  rw [String.ofList_toList]
  have hlex : Token.Lexeme (some .date) text.toList [] := .date h.isDate
  constructor
  · intro hreal
    obtain ⟨d, hd, hwritten⟩ := (Timestamp.ofText_of_shows h).1 hreal
    exact ⟨d, hwritten, parse_of_stands hlex (.date rfl hd)⟩
  · intro hreal
    exact parse_of_lexeme_outOfRange hlex (.date rfl h hreal)

end

/-- **Reading a literal fails exactly when it is out of range.** A query is refused for an invalid
literal when a literal is read next behind the tokens taken so far, the token there is out of range,
and the pull behind it meets no stray character, which is reported instead. The literals of a query
that is read are in range and are what is written. A number may have any leading zeros, and a date
a fraction of any length. -/
theorem invalidLiteral_iff_outOfRange (strict : Bool) :
    (∀ text w reason p, parse strict text = .error (.query (.invalidLiteral w reason p)) ↔
      ∃ ts t s, (Scanner.ofText text).pulls (ts.length + 1) = some (ts ++ [t], s) ∧
        LiteralNext ts ∧ OutOfRange t reason ∧ t.text = w ∧ t.offset = p ∧
        ∀ e, s.pull.1 ≠ .stray e) ∧
    (∀ text ts t s reason e,
      (Scanner.ofText text).pulls (ts.length + 1) = some (ts ++ [t], s) → LiteralNext ts →
      OutOfRange t reason → s.pull.1 = .stray e →
      parse strict text = .error (.query (.unexpectedCharacter e))) ∧
    (∀ text n, parse strict text = .ok n →
      ∃ ts s, (Scanner.ofText text).pulls ts.length = some (ts, s) ∧ Derives ts n ∧
        (∀ t ∈ ts, ∀ reason, ¬ OutOfRange t reason) ∧
        List.Forall₂ Exact (ts.filter (·.kind.isLiteral)) n.literals) ∧
    (∀ (k : Nat) (ds : List Char), ds ≠ [] → (∀ d ∈ ds, d.isDigit = true) →
      parse strict (String.ofList (List.replicate k '0' ++ ds)) =
        if decimalValue ds ≤ 9223372036854775807 then .ok (.literal (.number (decimalValue ds)))
        else .error (.query (.invalidLiteral (String.ofList (List.replicate k '0' ++ ds))
          .tooLarge 0))) ∧
    (∀ (f : Timestamp.Fields) (cs : List Char), f.Shows cs →
      (f.Real → ∃ d : Timestamp, d.Written cs ∧
        parse strict (String.ofList cs) = .ok (.literal (.date d))) ∧
      (¬ f.Real → parse strict (String.ofList cs) =
        .error (.query (.invalidLiteral (String.ofList cs) (.date .outOfRange) 0)))) := by
  refine ⟨fun _ _ _ _ => parse_eq_invalidLiteral_iff, ?_, fun _ _ => exact_of_parse,
    fun k _ => parse_zeros k, fun _ _ => parse_of_shows⟩
  intro text ts t s reason e hpulls hnext hout hpull
  rw [parse_of_outOfRange hpulls hnext hout, Stream.scan_eq_stray_iff.mpr hpull]
  rfl

/-- The largest number and the next one, before a stray character too; the 29th of February. -/
theorem invalidLiteral_iff_outOfRange_bounds :
    (∃ ts s, (Scanner.ofText "009223372036854775807").pulls ts.length = some (ts, s) ∧
      Derives ts (.literal (.number 9223372036854775807))) ∧
    (∃ ts t s, (Scanner.ofText "009223372036854775808").pulls (ts.length + 1) =
      some (ts ++ [t], s) ∧ LiteralNext ts ∧ OutOfRange t .tooLarge) ∧
    parse false "9223372036854775808 $" = .error (.query (.unexpectedCharacter ⟨'$', 20⟩)) ∧
    (∃ d, parse false "2024-02-29T23:59:60.5Z" = .ok (.literal (.date d))) ∧
    parse false "2023-02-29T23:59:60.5Z" =
      .error (.query (.invalidLiteral "2023-02-29T23:59:60.5Z" (.date .outOfRange) 0)) := by
  obtain ⟨hiff, hstray, hexact, hnumbers, hdates⟩ := invalidLiteral_iff_outOfRange false
  have hlargest : parse false "009223372036854775807" =
      .ok (.literal (.number 9223372036854775807)) :=
    hnumbers 2 "9223372036854775807".toList (by decide) (List.all_eq_true.mp rfl)
  have hnext : parse false "009223372036854775808" =
      .error (.query (.invalidLiteral "009223372036854775808" .tooLarge 0)) :=
    hnumbers 2 "9223372036854775808".toList (by decide) (List.all_eq_true.mp rfl)
  have hread := hexact _ _ hlargest
  obtain ⟨ts, t, s, hpulls, htaken, hout, -⟩ := (hiff _ _ _ _).mp hnext
  have hdigits : Token.Lexeme (some .number) "9223372036854775808".toList [' ', '$'] :=
    .of_shape ⟨by decide, List.all_eq_true.mp rfl⟩ (Token.stops_cons.mpr rfl)
  have hblank : Token.Lexeme none [' '] ['$'] :=
    .blanks (List.cons_ne_nil _ _) (List.forall_mem_singleton.mpr (by decide))
      (Token.stops_cons.mpr (by decide))
  have htiles : Token.Tiling "9223372036854775808 $".toList _ ['$'] :=
    .cons hdigits (.cons hblank .nil)
  obtain ⟨s', hpulls', hscan⟩ :=
    Stream.exists_pulls (Token.ofText_eq htiles (Token.noLexeme_iff.mpr rfl))
  have h02 : Numeral 2 2 ['0', '2'] := ⟨rfl, List.all_eq_true.mp rfl, rfl⟩
  have h29 : Numeral 2 29 ['2', '9'] := ⟨rfl, List.all_eq_true.mp rfl, rfl⟩
  have h23 : Numeral 2 23 ['2', '3'] := ⟨rfl, List.all_eq_true.mp rfl, rfl⟩
  have h59 : Numeral 2 59 ['5', '9'] := ⟨rfl, List.all_eq_true.mp rfl, rfl⟩
  have h60 : Numeral 2 60 ['6', '0'] := ⟨rfl, List.all_eq_true.mp rfl, rfl⟩
  have hhalf : Token.IsFraction ['.', '5'] :=
    .inr ⟨['5'], rfl, List.cons_ne_nil _ _, List.all_eq_true.mp rfl⟩
  have hshows : ∀ (year : Nat) (yyyy : List Char), Numeral 4 year yyyy →
      Timestamp.Fields.Shows ⟨year, 2, 29, 23, 59, 60, 0, 0⟩
        (yyyy ++ "-02-29T23:59:60.5Z".toList) := by
    intro year yyyy years
    have hmk : Timestamp.Fields.Shows ⟨year, 2, 29, 23, 59, 60, 0, 0⟩ _ :=
      .mk years h02 h29 h23 h59 h60 hhalf .utc
    exact hmk
  have hleap : Numeral 4 2024 ['2', '0', '2', '4'] := ⟨rfl, List.all_eq_true.mp rfl, rfl⟩
  have hcommon : Numeral 4 2023 ['2', '0', '2', '3'] := ⟨rfl, List.all_eq_true.mp rfl, rfl⟩
  obtain ⟨d, -, hd⟩ := (hdates _ _ (hshows 2024 _ hleap)).1 (by decide)
  refine ⟨?_, ⟨ts, t, s, hpulls, htaken, hout⟩, ?_, ⟨d, hd⟩,
    (hdates _ _ (hshows 2023 _ hcommon)).2 (by decide)⟩
  · obtain ⟨us, s, hpulls, hderives, -⟩ := hread
    exact ⟨us, s, hpulls, hderives⟩
  · exact hstray _ [] _ s' .tooLarge _ hpulls' literalNext_nil (.number rfl (by decide))
      (Stream.pull_of_scan_eq_stray hscan)

end DocFilter.Query
