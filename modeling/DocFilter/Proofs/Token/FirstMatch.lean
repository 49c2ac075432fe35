import DocFilter.Proofs.Token.RuleLength

/-!
The table of rules against the lexical grammar: the first rule that applies takes exactly the
lexeme at the front of a text, and where no rule applies there is none.
-/

namespace DocFilter.Token

open Text

namespace Rule

lemma first?_append_of_skipped {skipped rules : List Rule} {cs : List Char}
    (h : ∀ r ∈ skipped, r.length cs = 0) : first? (skipped ++ rules) cs = first? rules cs := by
  induction skipped with
  | nil => rfl
  | cons r skipped ih =>
    rw [List.forall_mem_cons] at h
    rw [List.cons_append, first?, List.findSome?_cons, h.1]
    exact ih h.2

lemma first?_cons_of_length {r : Rule} {rules : List Rule} {cs : List Char} {n : Nat}
    (h : r.length cs = n) (hn : 0 < n) : first? (r :: rules) cs = some (r.kind, n) := by
  simp [first?, h, hn]

lemma first?_eq_none {rules : List Rule} {cs : List Char}
    (h : ∀ r ∈ rules, r.length cs = 0) : first? rules cs = none :=
  List.findSome?_eq_none_iff.mpr fun r hr => by simp [h r hr]

lemma timestamp_of_not_isDigit {c : Char} {cs : List Char} (h : c.isDigit = false) :
    timestamp (c :: cs) = 0 := by
  refine timestamp_eq_zero_iff.mpr fun d hd hdate => ?_
  obtain ⟨c', ds, rfl, hc'⟩ := hdate.head
  obtain ⟨rfl, -⟩ := List.cons_prefix_cons.mp hd
  rw [hc'] at h
  cases h

lemma keyword_of_not_isWord {words : List String} {c : Char} {cs : List Char}
    (h : isWord c = false) : keyword words (c :: cs) = 0 := by
  simp [keyword, run_cons_of_neg h]

lemma keyword_append {words : List String} {w rest : List Char}
    (hw : ∀ c ∈ w, isWord c = true) (hs : Stops isWord rest) :
    keyword words (w ++ rest) = if String.ofList w ∈ words then w.length else 0 := by
  simp [keyword, takeWhile_append hw hs, run_append hw hs]

lemma length_eq_zero_of_isWord {c : Char} (cs : List Char) (h : isWord c = true) :
    ∀ r ∈ [whitespace, openParen, closeParen, comma], r.length (c :: cs) = 0 := by
  have hne : ∀ p, isWord p = false → c ≠ p := by
    rintro p hp rfl
    rw [h] at hp
    cases hp
  simp [whitespace, openParen, closeParen, comma, single, run_cons_of_neg (not_isBlank_of_isWord h),
    hne '(' rfl, hne ')' rfl, hne ',' rfl]

lemma length_eq_zero_of_not_isWord {c : Char} (cs : List Char) (h : isWord c = false) :
    ∀ r ∈ [date, number, relationalOperator, logicalOperator, boolean, identifier],
      r.length (c :: cs) = 0 := by
  have hd : c.isDigit = false := by
    by_contra hd
    rw [isWord_iff.mpr (.inr (Bool.of_not_eq_false hd))] at h
    cases h
  simp [date, number, relationalOperator, logicalOperator, boolean, identifier,
    timestamp_of_not_isDigit hd, run_cons_of_neg hd, run_cons_of_neg h, keyword_of_not_isWord h]

/-- The kind of a word is found by the first of four rules that has it. -/
lemma first?_word {w rest : List Char} (ne : w ≠ []) (all : ∀ c ∈ w, isWord c = true)
    (stop : Stops isWord rest) :
    first? [relationalOperator, logicalOperator, boolean, identifier, doubleQuoted, singleQuoted]
      (w ++ rest) = some (some (wordKind w), w.length) := by
  have hlen : 0 < w.length := List.length_pos_iff.mpr ne
  have hrel : ∀ s : String, s ∈ ["eq", "ne", "lt", "le", "gt", "ge"] ↔
      s ∈ ["eq", "ne", "gt", "ge", "lt", "le"] := by simp; tauto
  simp only [first?, List.findSome?_cons, relationalOperator, logicalOperator, boolean, identifier,
    keyword_append all stop, run_append all stop, wordKind, hrel]
  by_cases hr : String.ofList w ∈ ["eq", "ne", "gt", "ge", "lt", "le"]
  · simp only [hr, hlen, if_true]
  by_cases hl : String.ofList w ∈ ["and", "or"]
  · simp only [hr, hl, hlen, if_true, if_false, Nat.lt_irrefl]
  by_cases hb : String.ofList w ∈ ["true", "false"]
  · simp only [hr, hl, hb, hlen, if_true, if_false, Nat.lt_irrefl]
  · simp only [hr, hl, hb, hlen, if_true, if_false, Nat.lt_irrefl]

lemma quoted_append {q : Char} {body : List Char} (h : q ∉ body) (rest : List Char) :
    quoted q (q :: (body ++ [q]) ++ rest) = (q :: (body ++ [q])).length := by
  have hrun : run (· ≠ q) (body ++ q :: rest) = body.length := by
    refine run_append (fun c hc => ?_) (stops_cons.mpr (by simp))
    exact decide_eq_true fun heq => h (heq ▸ hc)
  simp only [List.cons_append, List.append_assoc, List.nil_append, quoted, hrun]
  simp

lemma length_eq_zero_of_quote {q : Char} (cs : List Char) (h : q = '"' ∨ q = '\'') :
    ∀ r ∈ [whitespace, openParen, closeParen, comma] ++
      [date, number, relationalOperator, logicalOperator, boolean, identifier],
      r.length (q :: cs) = 0 := by
  have hword : isWord q = false := by rcases h with rfl | rfl <;> rfl
  refine List.forall_mem_append.mpr ⟨?_, length_eq_zero_of_not_isWord cs hword⟩
  rcases h with rfl | rfl <;>
    simp [whitespace, openParen, closeParen, comma, single, run, isBlank]

lemma first?_of_lexeme {k : Option Kind} {w rest : List Char} (h : Lexeme k w rest) :
    first? table (w ++ rest) = some (k, w.length) := by
  -- the rules in front of the one for the lexeme take nothing
  cases h with
  | blanks ne all stop =>
    have hrun : whitespace.length (w ++ rest) = w.length :=
      run_append (fun c hc => isBlank_iff.mpr (all c hc)) (isBlank_eq ▸ stop)
    exact first?_cons_of_length hrun (List.length_pos_iff.mpr ne)
  | openParen => rfl
  | closeParen => rfl
  | comma => rfl
  | date hdate =>
    have htake : date.length (w ++ rest) = w.length := timestamp_append hdate rest
    obtain ⟨c, ds, rfl, hc⟩ := hdate.head
    have hskip := length_eq_zero_of_isWord (ds ++ rest) (isWord_iff.mpr (.inr hc))
    exact (first?_append_of_skipped hskip).trans (first?_cons_of_length htake (Nat.succ_pos _))
  | number ne all stop noDate =>
    have hrun : number.length (w ++ rest) = w.length := run_append all stop
    have hdate : ∀ r ∈ [date], r.length (w ++ rest) = 0 := by
      simpa [date] using timestamp_eq_zero_iff.mpr noDate
    obtain ⟨c, ds, rfl⟩ := List.exists_cons_of_ne_nil ne
    have hskip := length_eq_zero_of_isWord (ds ++ rest) (isWord_iff.mpr (.inr (all c (by simp))))
    exact (first?_append_of_skipped hskip).trans ((first?_append_of_skipped hdate).trans
      (first?_cons_of_length hrun (Nat.succ_pos _)))
  | @word c cs _ first all stop =>
    have hdigit := not_isDigit_of_first first
    have hword := isWord_iff.mpr (.inl first)
    have hskip := length_eq_zero_of_isWord (cs ++ rest) hword
    have hnum : ∀ r ∈ [date, number], r.length (c :: cs ++ rest) = 0 := by
      simp [date, number, timestamp_of_not_isDigit hdigit, run_cons_of_neg hdigit]
    exact (first?_append_of_skipped hskip).trans ((first?_append_of_skipped hnum).trans
      (first?_word (List.cons_ne_nil c cs) (List.forall_mem_cons.mpr ⟨hword, all⟩) stop))
  | @string q body _ quote inner =>
    have hskip := length_eq_zero_of_quote (body ++ [q] ++ rest) quote
    refine (first?_append_of_skipped hskip).trans ?_
    rcases quote with rfl | rfl
    · have htake : doubleQuoted.length ('"' :: (body ++ ['"']) ++ rest) = _ :=
        quoted_append inner rest
      exact first?_cons_of_length htake (Nat.succ_pos _)
    · have htake : singleQuoted.length ('\'' :: (body ++ ['\'']) ++ rest) = _ :=
        quoted_append inner rest
      have hother : ∀ r ∈ [doubleQuoted], r.length ('\'' :: (body ++ ['\'']) ++ rest) = 0 := by
        simp [doubleQuoted, quoted]
      exact (first?_append_of_skipped hother).trans (first?_cons_of_length htake (Nat.succ_pos _))

lemma lexeme_unique {k k' : Option Kind} {w rest w' rest' : List Char} (h : Lexeme k w rest)
    (h' : Lexeme k' w' rest') (heq : w ++ rest = w' ++ rest') :
    k = k' ∧ w = w' ∧ rest = rest' := by
  have hfirst := first?_of_lexeme h
  rw [heq, first?_of_lexeme h'] at hfirst
  simp only [Option.some.injEq, Prod.mk.injEq] at hfirst
  obtain ⟨rfl, hlen⟩ := hfirst
  exact ⟨rfl, List.append_inj heq hlen.symm⟩

lemma exists_lexeme_of_isWord {c : Char} (h : isWord c = true) (cs : List Char) :
    ∃ k w rest, c :: cs = w ++ rest ∧ Lexeme k w rest := by
  by_cases hd : c.isDigit = true
  · by_cases hdate : timestamp (c :: cs) = 0
    · obtain ⟨ds, rest, rfl, hds, hs⟩ := exists_run Char.isDigit cs
      exact ⟨_, c :: ds, rest, rfl, .number (List.cons_ne_nil c ds)
        (List.forall_mem_cons.mpr ⟨hd, hds⟩) hs (timestamp_eq_zero_iff.mp hdate)⟩
    · obtain ⟨d, rest, heq, hd⟩ := exists_date hdate
      exact ⟨_, d, rest, heq, .date hd⟩
  · obtain ⟨w, rest, rfl, hw, hs⟩ := exists_run isWord cs
    exact ⟨_, c :: w, rest, rfl, .word ((isWord_iff.mp h).resolve_right hd) hw hs⟩

lemma exists_lexeme_of_quote {q : Char} (h : q = '"' ∨ q = '\'') {cs : List Char} (hq : q ∈ cs) :
    ∃ k w rest, q :: cs = w ++ rest ∧ Lexeme k w rest := by
  obtain ⟨body, rest, rfl, hbody⟩ := List.eq_append_cons_of_mem hq
  exact ⟨_, q :: (body ++ [q]), rest, by simp, .string h hbody⟩

lemma quoted_of_not_mem {q q' : Char} {cs : List Char} (h : q = q' → q ∉ cs) :
    quoted q' (q :: cs) = 0 := by
  have hrun : q = q' → run (· ≠ q') cs = cs.length := by
    rintro rfl
    have hall : ∀ c ∈ cs, decide (c ≠ q) = true := fun c hc =>
      decide_eq_true fun heq => h rfl (heq ▸ hc)
    simpa using run_append hall (stops_nil _)
  by_cases heq : q = q'
  · simp only [quoted, hrun heq]
    simp
  · simp [quoted, heq]

lemma exists_lexeme {cs : List Char} (h : first? table cs ≠ none) :
    ∃ k w rest, cs = w ++ rest ∧ Lexeme k w rest := by
  rcases cs with _ | ⟨c, cs⟩
  · exact absurd rfl h
  by_cases hword : isWord c = true
  · exact exists_lexeme_of_isWord hword cs
  by_cases hblank : isBlank c = true
  · obtain ⟨w, rest, rfl, hw, hs⟩ := exists_run isBlank cs
    have hall : ∀ d ∈ c :: w, isBlank d = true := List.forall_mem_cons.mpr ⟨hblank, hw⟩
    exact ⟨none, c :: w, rest, rfl,
      .blanks (List.cons_ne_nil c w) (fun d hd => isBlank_iff.mp (hall d hd)) (isBlank_eq ▸ hs)⟩
  by_cases hopen : c = '('
  · exact ⟨_, ['('], cs, hopen ▸ rfl, .openParen⟩
  by_cases hclose : c = ')'
  · exact ⟨_, [')'], cs, hclose ▸ rfl, .closeParen⟩
  by_cases hcomma : c = ','
  · exact ⟨_, [','], cs, hcomma ▸ rfl, .comma⟩
  by_cases hquote : (c = '"' ∨ c = '\'') ∧ c ∈ cs
  · exact exists_lexeme_of_quote hquote.1 hquote.2
  -- no rule is left that takes such a character
  refine absurd (first?_eq_none ?_) h
  have hrun : run isBlank (c :: cs) = 0 := run_cons_of_neg (Bool.eq_false_iff.mpr hblank)
  have hdouble : quoted '"' (c :: cs) = 0 := quoted_of_not_mem fun hc hm => hquote ⟨.inl hc, hm⟩
  have hsingle : quoted '\'' (c :: cs) = 0 := quoted_of_not_mem fun hc hm => hquote ⟨.inr hc, hm⟩
  have hwords := length_eq_zero_of_not_isWord cs (Bool.eq_false_iff.mpr hword)
  have hmarks : ∀ r ∈ [whitespace, openParen, closeParen, comma], r.length (c :: cs) = 0 := by
    simp [whitespace, openParen, closeParen, comma, single, hrun, hopen, hclose, hcomma]
  have hquotes : ∀ r ∈ [doubleQuoted, singleQuoted], r.length (c :: cs) = 0 := by
    simp [doubleQuoted, singleQuoted, hdouble, hsingle]
  exact List.forall_mem_append.mpr ⟨hmarks, List.forall_mem_append.mpr ⟨hwords, hquotes⟩⟩

end Rule

end DocFilter.Token
