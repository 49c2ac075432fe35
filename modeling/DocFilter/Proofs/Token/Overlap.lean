import DocFilter.Proofs.Token.Apart

/-!
Rules that apply at the same place. At a lexeme any rule but the one that takes it is of a kind that
comes later, and takes no more than the lexeme, unless the lexeme is a number and the rule the one
for identifiers.
-/

namespace DocFilter.Token

open Text

namespace Rule

/-- The kinds of which the rules may apply at the same place, where the first is to take what is
there. Dates also come before identifiers, with numbers between them. -/
def precedence : List (Kind × Kind) :=
  [(.date, .number), (.number, .identifier), (.relationalOperator, .identifier),
    (.logicalOperator, .identifier), (.boolean, .identifier)]

/-- A rule of the second kind may apply where one of the first kind takes a lexeme. -/
inductive Overlaps : Kind → Kind → Prop
  | pair {k l : Kind} (mem : (k, l) ∈ precedence) : Overlaps k l
  | date : Overlaps .date .identifier

/-- The rules of the table that may apply where a character stands. -/
def startingWith (c : Char) : List Rule :=
  if isBlank c then [whitespace]
  else if c = '(' then [openParen]
  else if c = ')' then [closeParen]
  else if c = ',' then [comma]
  else if c = '"' then [doubleQuoted]
  else if c = '\'' then [singleQuoted]
  else if c.isDigit then [date, number, identifier]
  else [relationalOperator, logicalOperator, boolean, identifier]

variable {r : Rule} {c : Char} {cs : List Char}

/-! ### By the first character -/

lemma startingWith_of_isWord (h : isWord c = true) : startingWith c =
    if c.isDigit then [date, number, identifier]
    else [relationalOperator, logicalOperator, boolean, identifier] := by
  have hne : ∀ p, isWord p = false → c ≠ p := by
    rintro p hp rfl
    rw [h] at hp
    cases hp
  simp only [startingWith, not_isBlank_of_isWord h, hne '(' rfl, hne ')' rfl, hne ',' rfl,
    hne '"' rfl, hne '\'' rfl, if_false, Bool.false_eq_true]

lemma keyword_of_isDigit {words : List String} (hwords : words ⊆ keywords)
    (h : c.isDigit = true) : keyword words (c :: cs) = 0 := by
  have htake : (c :: cs).takeWhile isWord = c :: cs.takeWhile isWord :=
    List.takeWhile_cons_of_pos (isWord_iff.mpr (.inr h))
  refine if_neg fun hmem => ?_
  rw [List.contains_iff_mem, htake] at hmem
  obtain ⟨_, _, heq, hfirst, -⟩ := isName_of_mem_keywords (hwords hmem)
  obtain ⟨rfl, -⟩ := List.cons_eq_cons.mp heq
  rw [not_isDigit_of_first hfirst] at h
  cases h

lemma length_eq_zero_of_isDigit (cs : List Char) (h : c.isDigit = true) :
    ∀ r ∈ [relationalOperator, logicalOperator, boolean], r.length (c :: cs) = 0 := by
  have hrel : ["eq", "ne", "lt", "le", "gt", "ge"] ⊆ keywords := by decide
  have hlog : ["and", "or"] ⊆ keywords := by decide
  have hbool : ["true", "false"] ⊆ keywords := by decide
  simp [relationalOperator, logicalOperator, boolean, keyword_of_isDigit hrel h,
    keyword_of_isDigit hlog h, keyword_of_isDigit hbool h]

lemma quoted_of_isWord {q : Char} (cs : List Char) (hq : q = '"' ∨ q = '\'')
    (h : isWord c = true) : quoted q (c :: cs) = 0 := by
  refine quoted_of_not_mem fun heq => ?_
  subst heq
  rcases hq with rfl | rfl
  · cases h
  · cases h

lemma mem_startingWith_of_isWord (h : isWord c = true) (hr : r ∈ table)
    (hpos : 0 < r.length (c :: cs)) : r ∈ startingWith c := by
  have hne : r.length (c :: cs) ≠ 0 := Nat.pos_iff_ne_zero.mp hpos
  have hmarks := length_eq_zero_of_isWord cs h
  have hquotes : ∀ r ∈ [doubleQuoted, singleQuoted], r.length (c :: cs) = 0 := by
    simp [doubleQuoted, singleQuoted, quoted_of_isWord cs _ h]
  have hr : r ∈ [whitespace, openParen, closeParen, comma] ++ ([date, number] ++
    ([relationalOperator, logicalOperator, boolean] ++ ([identifier] ++
      [doubleQuoted, singleQuoted]))) := hr
  simp only [List.mem_append] at hr
  rw [startingWith_of_isWord h]
  -- the rules that are not listed take nothing at such a character
  split_ifs with hdigit
  · have hwords := length_eq_zero_of_isDigit cs hdigit
    rcases hr with hr | hr | hr | hr | hr
    · exact absurd (hmarks r hr) hne
    · exact List.mem_append_left [identifier] hr
    · exact absurd (hwords r hr) hne
    · exact List.mem_append_right [date, number] hr
    · exact absurd (hquotes r hr) hne
  · have hdigit := Bool.eq_false_iff.mpr hdigit
    have hnumbers : ∀ r ∈ [date, number], r.length (c :: cs) = 0 := by
      simp [date, number, timestamp_of_not_isDigit hdigit, run_cons_of_neg hdigit]
    rcases hr with hr | hr | hr | hr | hr
    · exact absurd (hmarks r hr) hne
    · exact absurd (hnumbers r hr) hne
    · exact List.mem_append_left [identifier] hr
    · exact List.mem_append_right [relationalOperator, logicalOperator, boolean] hr
    · exact absurd (hquotes r hr) hne

lemma eq_of_single {p : Char} (cs : List Char) (h : 0 < single p (c :: cs)) : c = p := by
  by_contra hc
  simp [single, hc] at h

lemma eq_of_quoted {p : Char} (cs : List Char) (h : 0 < quoted p (c :: cs)) : c = p := by
  by_contra hc
  simp [quoted, hc] at h

lemma mem_startingWith_of_not_isWord (h : isWord c = false) (hr : r ∈ table)
    (hpos : 0 < r.length (c :: cs)) : r ∈ startingWith c := by
  have hwords := length_eq_zero_of_not_isWord cs h
  have hr : r ∈ [whitespace, openParen, closeParen, comma] ++ ([date, number, relationalOperator,
    logicalOperator, boolean, identifier] ++ [doubleQuoted, singleQuoted]) := hr
  rcases List.mem_append.mp hr with hr | hr
  · simp only [List.mem_cons, List.not_mem_nil, or_false] at hr
    obtain rfl | rfl | rfl | rfl := hr
    · have hblank : isBlank c = true := by
        by_contra hno
        have hzero : run isBlank (c :: cs) = 0 := run_cons_of_neg (Bool.eq_false_iff.mpr hno)
        exact absurd hzero (Nat.pos_iff_ne_zero.mp hpos)
      simp [startingWith, hblank]
    · obtain rfl := eq_of_single cs hpos
      exact List.mem_singleton_self _
    · obtain rfl := eq_of_single cs hpos
      exact List.mem_singleton_self _
    · obtain rfl := eq_of_single cs hpos
      exact List.mem_singleton_self _
  rcases List.mem_append.mp hr with hr | hr
  · exact absurd (hwords r hr) (Nat.pos_iff_ne_zero.mp hpos)
  · rcases List.mem_pair.mp hr with rfl | rfl
    · obtain rfl := eq_of_quoted cs hpos
      exact List.mem_singleton_self _
    · obtain rfl := eq_of_quoted cs hpos
      exact List.mem_singleton_self _

lemma mem_startingWith (hr : r ∈ table) (hpos : 0 < r.length (c :: cs)) : r ∈ startingWith c := by
  by_cases hword : isWord c = true
  · exact mem_startingWith_of_isWord hword hr hpos
  · exact mem_startingWith_of_not_isWord (Bool.eq_false_iff.mpr hword) hr hpos

/-! ### At a lexeme -/

/-- How a rule that applies at a lexeme of a kind stands to it. -/
inductive Applies (k : Option Kind) (w rest : List Char) (r : Rule) : Prop
  | takes (kind : r.kind = k) (length : r.length (w ++ rest) = w.length)
  | shorter {first later : Kind} (lexeme : k = some first) (kind : r.kind = some later)
      (overlaps : Overlaps first later) (length : r.length (w ++ rest) ≤ w.length)
  | longer (lexeme : k = some .number) (rule : r = identifier)

variable {k : Option Kind} {w rest : List Char}

lemma run_append_of_all {p : Char → Bool} (h : ∀ c ∈ w, p c = true) (rest : List Char) :
    run p (w ++ rest) = w.length + run p rest := by
  unfold run
  rw [List.takeWhile_append_of_pos h, List.length_append]

/-- Of a date only the year is a run of digits or word characters. -/
lemma run_le_of_isDate {p : Char → Bool} (hdate : IsDate w) (rest : List Char)
    (hdigit : ∀ c, c.isDigit = true → p c = true) (hdash : p '-' = false) :
    run p (w ++ rest) ≤ w.length := by
  obtain ⟨year, more, rfl, hyear⟩ := hdate.exists_year
  have hrun : run p (year ++ '-' :: (more ++ rest)) = year.length :=
    run_append (fun c hc => hdigit c (hyear c hc)) (stops_cons.mpr hdash)
  rw [List.append_assoc, List.cons_append, hrun, List.length_append]
  exact Nat.le_add_right _ _

lemma applies_of_isDate (hdate : IsDate w) (hr : r ∈ [date, number, identifier]) :
    Applies (some .date) w rest r := by
  simp only [List.mem_cons, List.not_mem_nil, or_false] at hr
  obtain rfl | rfl | rfl := hr
  · exact .takes rfl (timestamp_append hdate rest)
  · exact .shorter rfl rfl (.pair (by decide)) (run_le_of_isDate hdate rest (fun _ h => h) rfl)
  · exact .shorter rfl rfl .date
      (run_le_of_isDate hdate rest (fun _ h => isWord_iff.mpr (.inr h)) rfl)

lemma applies_of_digits (all : ∀ d ∈ w, d.isDigit = true) (stop : Stops Char.isDigit rest)
    (noDate : ∀ d, d <+: w ++ rest → ¬ IsDate d) (hr : r ∈ [date, number, identifier])
    (hpos : 0 < r.length (w ++ rest)) : Applies (some .number) w rest r := by
  simp only [List.mem_cons, List.not_mem_nil, or_false] at hr
  obtain rfl | rfl | rfl := hr
  · exact absurd (timestamp_eq_zero_iff.mpr noDate) (Nat.pos_iff_ne_zero.mp hpos)
  · exact .takes rfl (run_append all stop)
  · exact .longer rfl rfl

lemma applies_of_keyword {words : List String} {l : Kind} (hlength : r.length = keyword words)
    (hkind : r.kind = some l) (hwords : String.ofList w ∈ words → wordKind w = l)
    (all : ∀ c ∈ w, isWord c = true) (stop : Stops isWord rest)
    (hpos : 0 < r.length (w ++ rest)) : Applies (some (wordKind w)) w rest r := by
  have htake : r.length (w ++ rest) = if String.ofList w ∈ words then w.length else 0 :=
    hlength ▸ keyword_append all stop
  split_ifs at htake with hmem
  · exact .takes (by rw [hkind, hwords hmem]) htake
  · exact absurd htake (Nat.pos_iff_ne_zero.mp hpos)

lemma applies_of_word (all : ∀ c ∈ w, isWord c = true) (stop : Stops isWord rest)
    (hr : r ∈ [relationalOperator, logicalOperator, boolean, identifier])
    (hpos : 0 < r.length (w ++ rest)) : Applies (some (wordKind w)) w rest r := by
  simp only [List.mem_cons, List.not_mem_nil, or_false] at hr
  obtain rfl | rfl | rfl | rfl := hr
  · refine applies_of_keyword rfl rfl (fun hmem => ?_) all stop hpos
    have hshape : Kind.relationalOperator.Shape w :=
      (by decide : ["eq", "ne", "lt", "le", "gt", "ge"] ⊆ ["eq", "ne", "gt", "ge", "lt", "le"]) hmem
    exact hshape.wordKind_eq rfl
  · have hshape : String.ofList w ∈ ["and", "or"] → Kind.logicalOperator.Shape w := id
    exact applies_of_keyword rfl rfl (fun hmem => (hshape hmem).wordKind_eq rfl) all stop hpos
  · have hshape : String.ofList w ∈ ["true", "false"] → Kind.boolean.Shape w := id
    exact applies_of_keyword rfl rfl (fun hmem => (hshape hmem).wordKind_eq rfl) all stop hpos
  · have htake : identifier.length (w ++ rest) = w.length := run_append all stop
    by_cases hident : wordKind w = .identifier
    · exact .takes (congrArg some hident.symm) htake
    · refine .shorter rfl rfl (.pair ?_) htake.le
      revert hident
      unfold wordKind
      split_ifs <;> decide

/-- **How the rules overlap.** A rule that applies at a lexeme takes it, or is of a kind that comes
later and takes no more, or is the one for identifiers at a number. -/
theorem applies_of_lexeme (h : Lexeme k w rest) (hr : r ∈ table)
    (hpos : 0 < r.length (w ++ rest)) : Applies k w rest r := by
  -- the first character leaves few rules
  have hfirst : ∀ c cs, w = c :: cs → r ∈ startingWith c := by
    rintro c cs rfl
    exact mem_startingWith hr hpos
  cases h with
  | blanks ne all stop =>
    obtain ⟨c, cs, rfl⟩ := List.exists_cons_of_ne_nil ne
    have hblank : ∀ d ∈ c :: cs, isBlank d = true := fun d hd => isBlank_iff.mpr (all d hd)
    have hmem := hfirst c cs rfl
    rw [startingWith, if_pos (hblank c List.mem_cons_self), List.mem_singleton] at hmem
    subst hmem
    exact .takes rfl (run_append hblank (isBlank_eq ▸ stop))
  | openParen =>
    obtain rfl : r = openParen := List.mem_singleton.mp (hfirst '(' [] rfl)
    exact .takes rfl rfl
  | closeParen =>
    obtain rfl : r = closeParen := List.mem_singleton.mp (hfirst ')' [] rfl)
    exact .takes rfl rfl
  | comma =>
    obtain rfl : r = comma := List.mem_singleton.mp (hfirst ',' [] rfl)
    exact .takes rfl rfl
  | date hdate =>
    obtain ⟨c, cs, rfl, hc⟩ := hdate.head
    have hmem := hfirst c cs rfl
    rw [startingWith_of_isWord (isWord_iff.mpr (.inr hc)), if_pos hc] at hmem
    exact applies_of_isDate hdate hmem
  | number ne all stop noDate =>
    obtain ⟨c, cs, rfl⟩ := List.exists_cons_of_ne_nil ne
    have hc := all c List.mem_cons_self
    have hmem := hfirst c cs rfl
    rw [startingWith_of_isWord (isWord_iff.mpr (.inr hc)), if_pos hc] at hmem
    exact applies_of_digits all stop noDate hmem hpos
  | @word c cs _ first all stop =>
    have hc : isWord c = true := isWord_iff.mpr (.inl first)
    have hmem := hfirst c cs rfl
    rw [startingWith_of_isWord hc, not_isDigit_of_first first, if_neg Bool.false_ne_true] at hmem
    exact applies_of_word (List.forall_mem_cons.mpr ⟨hc, all⟩) stop hmem hpos
  | @string q body _ quote inner =>
    have hmem := hfirst q _ rfl
    rcases quote with rfl | rfl
    · obtain rfl : r = doubleQuoted := List.mem_singleton.mp hmem
      exact .takes rfl (quoted_append inner rest)
    · obtain rfl : r = singleQuoted := List.mem_singleton.mp hmem
      exact .takes rfl (quoted_append inner rest)

end Rule

end DocFilter.Token
