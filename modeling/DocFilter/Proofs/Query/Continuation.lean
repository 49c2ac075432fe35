import DocFilter.Proofs.Query.LiteralTokens
import DocFilter.Proofs.Query.Step

/-!
What may still come while a query is read: the grammar over the kinds of tokens alone, and for each
state of the machine the lists of kinds that complete a sentence from there.

A token that is taken is the next one of those lists; a token that is refused starts none of them.
-/

namespace DocFilter.Query

open Token (Kind)

/-! ### The grammar over kinds -/

mutual

/-- A query, by the kinds of its tokens. -/
inductive Sentence : List Kind → Prop
  | literal {k : Kind} (isLiteral : k.isLiteral = true) : Sentence [k]
  | relational {k : Kind} (isLiteral : k.isLiteral = true) :
      Sentence [.relationalOperator, .openParen, .identifier, .comma, k, .closeParen]
  | logical {ks : List Kind} (arguments : Sentences ks) :
      Sentence (.logicalOperator :: .openParen :: (ks ++ [.closeParen]))

/-- Two or more of them with commas between them. -/
inductive Sentences : List Kind → Prop
  | two {ks ls : List Kind} (first : Sentence ks) (second : Sentence ls) :
      Sentences (ks ++ .comma :: ls)
  | more {ks ls : List Kind} (before : Sentences ks) (last : Sentence ls) :
      Sentences (ks ++ .comma :: ls)

end

/-- Some sentence starts with these kinds. -/
def Viable (ks : List Kind) : Prop := ∃ us, Sentence (ks ++ us)

/-- The kinds of which one is missed. -/
def Expected.Admits : Expected → Kind → Prop
  | .kind k, k' => k' = k
  | .literal, k' => k' ∈ [Kind.number, .string, .boolean, .date]

lemma isLiteral_iff {k : Kind} :
    k.isLiteral = true ↔ k ∈ [Kind.number, .string, .boolean, .date] := by
  cases k <;> simp [Kind.isLiteral]

namespace Parser

/-! ### What a state still asks for -/

/-- From behind an argument to the end of the function, when the function has so many arguments up
to there. -/
inductive Tail : Nat → List Kind → Prop
  | close {n : Nat} (two : 2 ≤ n) : Tail n [.closeParen]
  | comma {n : Nat} {ks ls : List Kind} (next : Sentence ks) (tail : Tail (n + 1) ls) :
      Tail n (.comma :: (ks ++ ls))

/-- From behind an expression to the end of the query, by the functions that are open around it. -/
inductive Closing : List Frame → List Kind → Prop
  | nil : Closing [] []
  | cons {op : LogOp} {ns : List Node} {outer : List Frame} {ks ls : List Kind}
      (tail : Tail (ns.length + 1) ks) (closing : Closing outer ls) :
      Closing (⟨op, ns⟩ :: outer) (ks ++ ls)

/-- From within an expression to its end. -/
inductive Mode.Rest : Mode → List Kind → Prop
  | expression {ks} (sentence : Sentence ks) : Rest .expression ks
  | openRelational {op k} (isLiteral : k.isLiteral = true) :
      Rest (.openRelational op) [.openParen, .identifier, .comma, k, .closeParen]
  | openLogical {op ks} (arguments : Sentences ks) :
      Rest (.openLogical op) (.openParen :: (ks ++ [.closeParen]))
  | field {op k} (isLiteral : k.isLiteral = true) :
      Rest (.field op) [.identifier, .comma, k, .closeParen]
  | comma {op f k} (isLiteral : k.isLiteral = true) : Rest (.comma op f) [.comma, k, .closeParen]
  | value {op f k} (isLiteral : k.isLiteral = true) : Rest (.value op f) [k, .closeParen]
  | close {op f v} : Rest (.close op f v) [.closeParen]
  | argument {op ns ks} (tail : Tail ns.length ks) : Rest (.argument op ns) ks

/-- The lists of kinds that complete a sentence from a state. -/
inductive Completes : State → List Kind → Prop
  | reading {mode : Mode} {outer : List Frame} {ks ls : List Kind} (rest : mode.Rest ks)
      (closing : Closing outer ls) : Completes (.reading mode outer) (ks ++ ls)
  | complete {n : Node} : Completes (.complete n) []

/-! ### Every state can be completed -/

lemma exists_tail (n : Nat) : ∃ ks, Tail n ks :=
  ⟨_, .comma (.literal (k := .number) rfl) (.comma (.literal (k := .number) rfl)
    (.close (Nat.le_add_left 2 n)))⟩

lemma exists_closing (outer : List Frame) : ∃ ls, Closing outer ls := by
  induction outer with
  | nil => exact ⟨[], .nil⟩
  | cons frame outer ih =>
    obtain ⟨ks, hks⟩ := exists_tail (frame.arguments.length + 1)
    obtain ⟨ls, hls⟩ := ih
    exact ⟨ks ++ ls, .cons hks hls⟩

lemma exists_rest (mode : Mode) : ∃ ks, mode.Rest ks := by
  have hnumber : Kind.number.isLiteral = true := rfl
  cases mode with
  | expression => exact ⟨_, .expression (.literal hnumber)⟩
  | openRelational op => exact ⟨_, .openRelational hnumber⟩
  | openLogical op => exact ⟨_, .openLogical (.two (.literal hnumber) (.literal hnumber))⟩
  | field op => exact ⟨_, .field hnumber⟩
  | comma op f => exact ⟨_, .comma hnumber⟩
  | value op f => exact ⟨_, .value hnumber⟩
  | close op f v => exact ⟨_, .close⟩
  | argument op ns =>
    obtain ⟨ks, hks⟩ := exists_tail ns.length
    exact ⟨ks, .argument hks⟩

lemma exists_completes (s : State) : ∃ us, Completes s us := by
  cases s with
  | complete n => exact ⟨[], .complete⟩
  | reading mode outer =>
    obtain ⟨ks, hks⟩ := exists_rest mode
    obtain ⟨ls, hls⟩ := exists_closing outer
    exact ⟨ks ++ ls, .reading hks hls⟩

/-! ### The next kind -/

lemma Mode.Rest.ne_nil {mode : Mode} {ks : List Kind} (h : mode.Rest ks) : ks ≠ [] := by
  cases h with
  | expression sentence => cases sentence <;> simp
  | argument tail => cases tail <;> simp
  | _ => simp

lemma completes_cons_iff {mode : Mode} {outer : List Frame} {k : Kind} {us : List Kind} :
    Completes (.reading mode outer) (k :: us) ↔
      ∃ ks ls, mode.Rest (k :: ks) ∧ Closing outer ls ∧ us = ks ++ ls := by
  constructor
  · intro h
    generalize hus : k :: us = us' at h
    cases h with
    | @reading _ _ ks ls rest closing =>
      obtain ⟨k', ks, rfl⟩ := List.exists_cons_of_ne_nil rest.ne_nil
      obtain ⟨rfl, rfl⟩ := List.cons_eq_cons.mp hus
      exact ⟨ks, ls, rest, closing, rfl⟩
  · rintro ⟨ks, ls, rest, closing, rfl⟩
    exact .reading rest closing

lemma completes_attach_iff {n : Node} {outer : List Frame} {us : List Kind} :
    Completes (attach n outer) us ↔ Closing outer us := by
  rcases outer with _ | ⟨⟨op, ns⟩, outer⟩
  · constructor
    · rintro ⟨⟩
      exact .nil
    · rintro ⟨⟩
      exact .complete
  · constructor
    · intro h
      cases h with
      | reading rest closing =>
        cases rest with
        | argument tail => exact .cons tail closing
    · intro h
      cases h with
      | cons tail closing => exact .reading (.argument tail) closing

/-! ### Arguments read one after the other -/

lemma exists_first_tail {ks : List Kind} (h : Sentences ks) {rest : List Kind}
    (hrest : ∀ n, 2 ≤ n → Tail n rest) :
    ∃ first tail, Sentence first ∧ Tail 1 tail ∧ ks ++ rest = first ++ tail := by
  match h with
  | @Sentences.two ks ls first second =>
    exact ⟨ks, _, first, .comma second (hrest 2 (Nat.le_refl 2)), by simp⟩
  | @Sentences.more ks ls before last =>
    have htail : ∀ n, 2 ≤ n → Tail n (.comma :: (ls ++ rest)) := by
      intro n two
      exact .comma last (hrest (n + 1) (Nat.le_succ_of_le two))
    obtain ⟨first, tail, hfirst, htail, heq⟩ := exists_first_tail before htail
    exact ⟨first, tail, hfirst, htail, by simpa using heq⟩

lemma exists_arguments {n : Nat} {tail : List Kind} (h : Tail n tail) (two : 2 ≤ n)
    {ks : List Kind} (before : Sentences ks) :
    ∃ ls, Sentences ls ∧ ks ++ tail = ls ++ [.closeParen] := by
  induction h generalizing ks with
  | close => exact ⟨ks, before, rfl⟩
  | comma next _ ih =>
    obtain ⟨ls, hls, heq⟩ := ih (Nat.le_succ_of_le two) (.more before next)
    exact ⟨ls, hls, by simpa using heq⟩

lemma sentences_iff {us : List Kind} :
    (∃ ks, Sentences ks ∧ us = ks ++ [.closeParen]) ↔
      ∃ first tail, Sentence first ∧ Tail 1 tail ∧ us = first ++ tail := by
  constructor
  · rintro ⟨ks, hks, rfl⟩
    exact exists_first_tail hks fun n two => .close two
  · rintro ⟨first, tail, hfirst, htail, rfl⟩
    cases htail with
    | close two => exact absurd two (by decide)
    | comma next tail =>
      obtain ⟨ls, hls, heq⟩ := exists_arguments tail (Nat.le_refl 2) (.two hfirst next)
      exact ⟨ls, hls, by simpa using heq⟩

/-! ### One token -/

section

variable {op : RelOp} {f : String} {v : Literal} {k : Kind} {ks : List Kind}

lemma rest_literal_iff (h : k.isLiteral = true) : Mode.expression.Rest (k :: ks) ↔ ks = [] := by
  constructor
  · intro hrest
    cases hrest with
    | expression sentence =>
      cases sentence with
      | literal => rfl
      | relational => cases h
      | logical => cases h
  · rintro rfl
    exact .expression (.literal h)

lemma rest_relationalOperator_iff :
    Mode.expression.Rest (.relationalOperator :: ks) ↔ (Mode.openRelational op).Rest ks := by
  constructor
  · intro hrest
    cases hrest with
    | expression sentence =>
      cases sentence with
      | literal isLiteral => cases isLiteral
      | relational isLiteral => exact .openRelational isLiteral
  · rintro ⟨⟩
    exact .expression (.relational ‹_›)

lemma rest_logicalOperator_iff {op : LogOp} :
    Mode.expression.Rest (.logicalOperator :: ks) ↔ (Mode.openLogical op).Rest ks := by
  constructor
  · intro hrest
    cases hrest with
    | expression sentence =>
      cases sentence with
      | literal isLiteral => cases isLiteral
      | logical arguments => exact .openLogical arguments
  · rintro ⟨⟩
    exact .expression (.logical ‹_›)

lemma rest_openRelational_iff :
    (Mode.openRelational op).Rest (.openParen :: ks) ↔ (Mode.field op).Rest ks := by
  constructor
  · rintro ⟨⟩
    exact .field ‹_›
  · rintro ⟨⟩
    exact .openRelational ‹_›

lemma rest_openLogical_iff {op : LogOp} :
    (Mode.openLogical op).Rest (.openParen :: ks) ↔
      ∃ first tail, Sentence first ∧ Tail 1 tail ∧ ks = first ++ tail := by
  rw [← sentences_iff]
  constructor
  · rintro ⟨⟩
    exact ⟨_, ‹_›, rfl⟩
  · rintro ⟨ls, arguments, rfl⟩
    exact .openLogical arguments

lemma rest_field_iff :
    (Mode.field op).Rest (.identifier :: ks) ↔ (Mode.comma op f).Rest ks := by
  constructor
  · rintro ⟨⟩
    exact .comma ‹_›
  · rintro ⟨⟩
    exact .field ‹_›

lemma rest_comma_iff :
    (Mode.comma op f).Rest (.comma :: ks) ↔ (Mode.value op f).Rest ks := by
  constructor
  · rintro ⟨⟩
    exact .value ‹_›
  · rintro ⟨⟩
    exact .comma ‹_›

lemma rest_value_iff (h : k.isLiteral = true) :
    (Mode.value op f).Rest (k :: ks) ↔ (Mode.close op f v).Rest ks := by
  constructor
  · rintro ⟨⟩
    exact .close
  · rintro ⟨⟩
    exact .value h

lemma rest_close_iff : (Mode.close op f v).Rest (.closeParen :: ks) ↔ ks = [] := by
  constructor
  · rintro ⟨⟩
    rfl
  · rintro rfl
    exact .close

lemma rest_argument_comma_iff {op : LogOp} {ns : List Node} :
    (Mode.argument op ns).Rest (.comma :: ks) ↔
      ∃ first tail, Sentence first ∧ Tail (ns.length + 1) tail ∧ ks = first ++ tail := by
  constructor
  · intro hrest
    cases hrest with
    | argument tail =>
      cases tail with
      | comma next tail => exact ⟨_, _, next, tail, rfl⟩
  · rintro ⟨first, tail, hfirst, htail, rfl⟩
    exact .argument (.comma hfirst htail)

lemma rest_argument_closeParen_iff {op : LogOp} {ns : List Node} :
    (Mode.argument op ns).Rest (.closeParen :: ks) ↔ 2 ≤ ns.length ∧ ks = [] := by
  constructor
  · intro hrest
    cases hrest with
    | argument tail =>
      cases tail with
      | close two => exact ⟨two, rfl⟩
  · rintro ⟨two, rfl⟩
    exact .argument (.close two)

end

/-! ### From token to token -/

section

variable {mode mode' : Mode} {outer : List Frame} {k : Kind} {us : List Kind}

lemma completes_cons_of_within (h : ∀ ks, mode.Rest (k :: ks) ↔ mode'.Rest ks) :
    Completes (.reading mode outer) (k :: us) ↔ Completes (.reading mode' outer) us := by
  rw [completes_cons_iff]
  constructor
  · rintro ⟨ks, ls, rest, closing, rfl⟩
    exact .reading ((h ks).mp rest) closing
  · rintro ⟨rest, closing⟩
    exact ⟨_, _, (h _).mpr rest, closing, rfl⟩

lemma completes_cons_of_end {n : Node} (h : ∀ ks, mode.Rest (k :: ks) ↔ ks = []) :
    Completes (.reading mode outer) (k :: us) ↔ Completes (attach n outer) us := by
  rw [completes_cons_iff, completes_attach_iff]
  constructor
  · rintro ⟨ks, ls, rest, closing, rfl⟩
    rw [(h ks).mp rest]
    exact closing
  · intro closing
    exact ⟨[], us, (h []).mpr rfl, closing, rfl⟩

lemma completes_cons_of_argument {op : LogOp} {ns : List Node}
    (h : ∀ ks, mode.Rest (k :: ks) ↔
      ∃ first tail, Sentence first ∧ Tail (ns.length + 1) tail ∧ ks = first ++ tail) :
    Completes (.reading mode outer) (k :: us) ↔
      Completes (.reading .expression (⟨op, ns⟩ :: outer)) us := by
  rw [completes_cons_iff]
  constructor
  · rintro ⟨ks, ls, rest, closing, rfl⟩
    obtain ⟨first, tail, hfirst, htail, rfl⟩ := (h ks).mp rest
    rw [List.append_assoc]
    exact .reading (.expression hfirst) (.cons htail closing)
  · intro hcompletes
    cases hcompletes with
    | reading rest closing =>
      cases rest with
      | expression hfirst =>
        cases closing with
        | cons htail closing =>
          rw [← List.append_assoc]
          exact ⟨_, _, (h _).mpr ⟨_, _, hfirst, htail, rfl⟩, closing, rfl⟩

end

lemma literal?_eq_none_iff {t : Token} : t.literal? = none ↔ t.kind.isLiteral = false := by
  cases hk : t.kind <;> simp [Token.literal?, Kind.isLiteral, hk]

lemma isLiteral_of_literal? {t : Token} {r : Except Failure Literal} (h : t.literal? = some r) :
    t.kind.isLiteral = true := by
  by_contra hk
  rw [literal?_eq_none_iff.mpr (Bool.eq_false_iff.mpr hk)] at h
  cases h

/-- **A token that is taken is the next one**: what completes the state behind it completes the
state before it with the token in front. -/
theorem completes_of_take? {s s' : State} {t : Token} (h : take? s t = some s')
    (us : List Kind) : Completes s (t.kind :: us) ↔ Completes s' us := by
  -- a token leads on within an expression, ends one, or stands in front of an argument
  rcases s with ⟨mode, outer⟩ | n
  · cases mode with
    | expression =>
      rcases take?_expression.mp h with ⟨op, ⟨hk, -⟩, rfl⟩ | ⟨op, ⟨hk, -⟩, rfl⟩ | ⟨v, hv, rfl⟩
      · rw [hk]
        exact completes_cons_of_within fun _ => rest_relationalOperator_iff
      · rw [hk]
        exact completes_cons_of_within fun _ => rest_logicalOperator_iff
      · exact completes_cons_of_end fun _ => rest_literal_iff (isLiteral_of_literal? hv)
    | openRelational op =>
      obtain ⟨hk, rfl⟩ := take?_openRelational.mp h
      rw [hk]
      exact completes_cons_of_within fun _ => rest_openRelational_iff
    | openLogical op =>
      obtain ⟨hk, rfl⟩ := take?_openLogical.mp h
      rw [hk]
      exact completes_cons_of_argument fun _ => rest_openLogical_iff
    | field op =>
      obtain ⟨hk, rfl⟩ := take?_field.mp h
      rw [hk]
      exact completes_cons_of_within fun _ => rest_field_iff
    | comma op f =>
      obtain ⟨hk, rfl⟩ := take?_comma.mp h
      rw [hk]
      exact completes_cons_of_within fun _ => rest_comma_iff
    | value op f =>
      obtain ⟨v, hv, rfl⟩ := take?_value.mp h
      exact completes_cons_of_within fun _ => rest_value_iff (isLiteral_of_literal? hv)
    | close op f v =>
      obtain ⟨hk, rfl⟩ := take?_close.mp h
      rw [hk]
      exact completes_cons_of_end fun _ => rest_close_iff
    | argument op ns =>
      rcases take?_argument.mp h with ⟨hk, rfl⟩ | ⟨hk, two, rfl⟩
      · rw [hk]
        exact completes_cons_of_argument fun _ => rest_argument_comma_iff
      · rw [hk]
        exact completes_cons_of_end fun _ =>
          rest_argument_closeParen_iff.trans (and_iff_right two)
  · simp at h

lemma completes_of_takeAll? {s s' : State} {ts : List Token} (h : takeAll? s ts = some s')
    (us : List Kind) : Completes s (ts.map (·.kind) ++ us) ↔ Completes s' us := by
  induction ts generalizing s with
  | nil =>
    cases h
    rfl
  | cons t ts ih =>
    obtain ⟨s₁, h₁, h₂⟩ := Option.bind_eq_some_iff.mp h
    rw [List.map_cons, List.cons_append, completes_of_take? h₁, ih h₂]

lemma completes_start_iff {us : List Kind} : Completes start us ↔ Sentence us := by
  constructor
  · intro h
    cases h with
    | reading rest closing =>
      cases closing
      cases rest with
      | expression sentence =>
        rw [List.append_nil]
        exact sentence
  · intro sentence
    have hstart := Completes.reading (.expression sentence) .nil
    rwa [List.append_nil] at hstart

/-- The sentences that start with the tokens that have been taken. -/
lemma sentence_append_iff {s : State} {ts : List Token} (h : takeAll? start ts = some s)
    (us : List Kind) : Sentence (ts.map (·.kind) ++ us) ↔ Completes s us := by
  rw [← completes_of_takeAll? h, completes_start_iff]

/-! ### Tokens that are refused, and what is missed -/

/-- The kinds that may come next. -/
def Mode.Admits (mode : Mode) (k : Kind) : Prop := ∃ ks, mode.Rest (k :: ks)

lemma accept?_expression_of_isLiteral {outer : List Frame} {t : Token}
    (h : t.kind.isLiteral = true) : accept? .expression outer t =
      t.literal?.map (·.map fun v => attach (.literal v) outer) := by
  cases hk : t.kind <;> simp_all [accept?, Kind.isLiteral]

lemma accept?_ne_none_of_rest {mode : Mode} {outer : List Frame} {t : Token} {ks : List Kind}
    (h : mode.Rest (t.kind :: ks)) : accept? mode outer t ≠ none := by
  have hliteral : ∀ k, t.kind = k → k.isLiteral = true → t.literal? ≠ none := by
    rintro k rfl hk hnone
    rw [literal?_eq_none_iff, hk] at hnone
    cases hnone
  generalize hks : t.kind :: ks = ls at h
  cases h with
  | expression sentence =>
    cases sentence with
    | literal isLiteral =>
      obtain ⟨rfl, -⟩ := List.cons_eq_cons.mp hks
      rw [accept?_expression_of_isLiteral isLiteral]
      simpa using hliteral _ rfl isLiteral
    | relational isLiteral =>
      have hk := (List.cons_eq_cons.mp hks).1
      simp [accept?, hk]
    | logical arguments =>
      have hk := (List.cons_eq_cons.mp hks).1
      simp [accept?, hk]
  | value isLiteral =>
    have hk := (List.cons_eq_cons.mp hks).1
    simpa [accept?] using hliteral _ hk isLiteral
  | argument tail =>
    cases tail with
    | close two =>
      have hk := (List.cons_eq_cons.mp hks).1
      simp [accept?, hk, Nat.not_lt.mpr two]
    | comma next tail =>
      have hk := (List.cons_eq_cons.mp hks).1
      simp [accept?, hk]
  | _ =>
    have hk := (List.cons_eq_cons.mp hks).1
    simp [accept?, hk]

lemma admits_of_accept?_ne_none {mode : Mode} {outer : List Frame} {t : Token}
    (h : accept? mode outer t ≠ none) : mode.Admits t.kind := by
  -- what is missing behind the token is made up with numbers
  have hnumber : Kind.number.isLiteral = true := rfl
  by_cases hk : t.kind.isLiteral = true
  · cases mode with
    | expression => exact ⟨_, .expression (.literal hk)⟩
    | value op f => exact ⟨_, .value hk⟩
    | _ => cases hkind : t.kind <;> simp_all [accept?, Kind.isLiteral]
  · have hnone := literal?_eq_none_iff.mpr (Bool.eq_false_iff.mpr hk)
    cases mode with
    | expression =>
      cases hkind : t.kind with
      | relationalOperator => exact ⟨_, .expression (.relational hnumber)⟩
      | logicalOperator =>
        exact ⟨_, .expression (.logical (.two (.literal hnumber) (.literal hnumber)))⟩
      | _ => simp [accept?, hkind, hnone] at h
    | openRelational op =>
      cases hkind : t.kind with
      | openParen => exact ⟨_, .openRelational hnumber⟩
      | _ => simp [accept?, hkind] at h
    | openLogical op =>
      cases hkind : t.kind with
      | openParen => exact ⟨_, .openLogical (.two (.literal hnumber) (.literal hnumber))⟩
      | _ => simp [accept?, hkind] at h
    | field op =>
      cases hkind : t.kind with
      | identifier => exact ⟨_, .field hnumber⟩
      | _ => simp [accept?, hkind] at h
    | comma op f =>
      cases hkind : t.kind with
      | comma => exact ⟨_, .comma hnumber⟩
      | _ => simp [accept?, hkind] at h
    | value op f => simp [accept?, hnone] at h
    | close op f v =>
      cases hkind : t.kind with
      | closeParen => exact ⟨_, .close⟩
      | _ => simp [accept?, hkind] at h
    | argument op ns =>
      cases hkind : t.kind with
      | comma =>
        obtain ⟨ks, hks⟩ := exists_tail (ns.length + 1)
        exact ⟨_, .argument (.comma (.literal hnumber) hks)⟩
      | closeParen =>
        have two : 2 ≤ ns.length := by
          by_contra hlt
          simp [accept?, hkind, Nat.not_le.mp hlt] at h
        exact ⟨_, .argument (.close two)⟩
      | _ => simp [accept?, hkind] at h

/-- A token is refused exactly when its kind may not come. -/
lemma accept?_eq_none_iff {mode : Mode} {outer : List Frame} {t : Token} :
    accept? mode outer t = none ↔ ¬ mode.Admits t.kind := by
  rw [← not_iff_not, not_not]
  exact ⟨admits_of_accept?_ne_none, fun ⟨_, h⟩ => accept?_ne_none_of_rest h⟩

lemma admits_of_expected {mode : Mode} {k : Kind} (h : mode.expected.Admits k) :
    mode.Admits k := by
  have hnumber : Kind.number.isLiteral = true := rfl
  cases mode with
  | expression => exact ⟨_, .expression (.literal (isLiteral_iff.mpr h))⟩
  | value op f => exact ⟨_, .value (isLiteral_iff.mpr h)⟩
  | openRelational op =>
    obtain rfl : k = .openParen := h
    exact ⟨_, .openRelational hnumber⟩
  | openLogical op =>
    obtain rfl : k = .openParen := h
    exact ⟨_, .openLogical (.two (.literal hnumber) (.literal hnumber))⟩
  | field op =>
    obtain rfl : k = .identifier := h
    exact ⟨_, .field hnumber⟩
  | comma op f =>
    obtain rfl : k = .comma := h
    exact ⟨_, .comma hnumber⟩
  | close op f v =>
    obtain rfl : k = .closeParen := h
    exact ⟨_, .close⟩
  | argument op ns =>
    simp only [Mode.expected, Expected.Admits] at h
    split_ifs at h with hlt
    · subst h
      obtain ⟨ks, hks⟩ := exists_tail (ns.length + 1)
      exact ⟨_, .argument (.comma (.literal hnumber) hks)⟩
    · subst h
      exact ⟨_, .argument (.close (Nat.not_lt.mp hlt))⟩

section

variable {ts : List Token} {mode : Mode} {outer : List Frame}

lemma viable_of_takeAll? {s : State} (h : takeAll? start ts = some s) :
    Viable (ts.map (·.kind)) := by
  obtain ⟨us, hus⟩ := exists_completes s
  exact ⟨us, (sentence_append_iff h us).mpr hus⟩

/-- The tokens that have been taken go on with the kinds that may come, and with no others. -/
theorem viable_append_iff (h : takeAll? start ts = some (.reading mode outer)) (k : Kind) :
    Viable (ts.map (·.kind) ++ [k]) ↔ mode.Admits k := by
  have hnext : ∀ us, Sentence (ts.map (·.kind) ++ [k] ++ us) ↔
      ∃ ks ls, mode.Rest (k :: ks) ∧ Closing outer ls ∧ us = ks ++ ls := by
    intro us
    rw [List.append_assoc, sentence_append_iff h]
    exact completes_cons_iff
  constructor
  · rintro ⟨us, hus⟩
    obtain ⟨ks, -, hks, -⟩ := (hnext us).mp hus
    exact ⟨ks, hks⟩
  · rintro ⟨ks, hks⟩
    obtain ⟨ls, hls⟩ := exists_closing outer
    exact ⟨ks ++ ls, (hnext _).mpr ⟨ks, ls, hks, hls, rfl⟩⟩

lemma not_sentence_of_takeAll? (h : takeAll? start ts = some (.reading mode outer)) :
    ¬ Sentence (ts.map (·.kind)) := by
  intro sentence
  rw [← List.append_nil (ts.map _), sentence_append_iff h] at sentence
  generalize hnil : ([] : List Kind) = us at sentence
  cases sentence with
  | reading rest _ => exact rest.ne_nil (List.append_eq_nil_iff.mp hnil.symm).1

end

end Parser

end DocFilter.Query
