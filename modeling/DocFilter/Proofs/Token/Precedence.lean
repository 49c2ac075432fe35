import DocFilter.Proofs.Token.Overlap

/-!
Which orders of the rules scan alike. The order matters for five pairs of kinds only, and the first
rule that applies is one that takes most, unless a number runs on into a word.
-/

namespace DocFilter.Token

open Text

namespace Rule

/-- No rule of the second kind stands in front of one of the first. -/
def Precedes (k l : Kind) (rules : List Rule) : Prop :=
  rules.Pairwise fun r s => ¬ (r.kind = some l ∧ s.kind = some k)

instance (k l : Kind) (rules : List Rule) : Decidable (Precedes k l rules) :=
  inferInstanceAs (Decidable (rules.Pairwise _))

/-- What is left of a text goes on with a letter or an underscore behind a number. -/
def RunsOn (k : Option Kind) (rest : List Char) : Prop :=
  k = some .number ∧ ∃ c ∈ rest.head?, c.isAlpha = true ∨ c = '_'

variable {rules : List Rule}

/-! ### The first rule that applies -/

lemma first?_eq_none_iff {cs : List Char} :
    first? rules cs = none ↔ ∀ r ∈ rules, r.length cs = 0 := by
  refine ⟨fun h r hr => ?_, first?_eq_none⟩
  have hnone := List.findSome?_eq_none_iff.mp h r hr
  split_ifs at hnone with hpos
  exact Nat.eq_zero_of_not_pos hpos

lemma exists_of_first? {cs : List Char} {k : Option Kind} {n : Nat}
    (h : first? rules cs = some (k, n)) : ∃ front r back, rules = front ++ r :: back ∧
      (∀ s ∈ front, s.length cs = 0) ∧ r.kind = k ∧ r.length cs = n ∧ 0 < n := by
  obtain ⟨front, r, back, rfl, htake, hfront⟩ := List.findSome?_eq_some_iff.mp h
  split_ifs at htake with hpos
  cases htake
  refine ⟨front, r, back, rfl, fun s hs => ?_, rfl, rfl, hpos⟩
  have hnone := hfront s hs
  split_ifs at hnone with hs'
  exact Nat.eq_zero_of_not_pos hs'

lemma Precedes.trans {k m l : Kind} (hkm : Precedes k m rules) (hml : Precedes m l rules)
    (hmem : ∃ r ∈ rules, r.kind = some m) : Precedes k l rules := by
  obtain ⟨r, hr, hkind⟩ := hmem
  obtain ⟨n, hn, rfl⟩ := List.getElem_of_mem hr
  unfold Precedes
  rw [List.pairwise_iff_getElem]
  rintro i j hi hj hij ⟨hl, hk⟩
  rcases Nat.lt_or_ge n j with hlt | hge
  · exact List.pairwise_iff_getElem.mp hkm n j hn hj hlt ⟨hkind, hk⟩
  · exact List.pairwise_iff_getElem.mp hml i n hi hn (hij.trans_le hge) ⟨hl, hkind⟩

lemma Overlaps.precedes {k l : Kind} (h : Overlaps k l) (hperm : rules.Perm table)
    (hkeeps : ∀ p ∈ precedence, Precedes p.1 p.2 rules) : Precedes k l rules := by
  cases h with
  | pair mem => exact hkeeps (k, l) mem
  | date =>
    have hdate : Precedes .date .number rules := hkeeps (.date, .number) (by decide)
    have hident : Precedes .number .identifier rules :=
      hkeeps (.number, .identifier) (by decide)
    have hmem : number ∈ table := List.mem_of_getElem? (i := 5) rfl
    exact hdate.trans hident ⟨number, hperm.mem_iff.mpr hmem, rfl⟩

lemma Overlaps.ne {k l : Kind} (h : Overlaps k l) : k ≠ l := by
  cases h with
  | pair mem =>
    have hall : ∀ p ∈ precedence, p.1 ≠ p.2 := by decide
    exact hall (k, l) mem
  | date => decide

/-- In any order that keeps the precedence the same rule's kind and length come first. -/
lemma first?_of_perm (hperm : rules.Perm table)
    (hkeeps : ∀ p ∈ precedence, Precedes p.1 p.2 rules) (cs : List Char) :
    first? rules cs = first? table cs := by
  by_cases hnone : first? table cs = none
  · rw [hnone, first?_eq_none_iff]
    exact fun r hr => first?_eq_none_iff.mp hnone r (hperm.mem_iff.mp hr)
  obtain ⟨k, w, rest, rfl, hlex⟩ := exists_lexeme hnone
  have hfirst := first?_of_lexeme hlex
  obtain ⟨_, r, _, htable, -, hkind, hlength, hpos⟩ := exists_of_first? hfirst
  have hr : r ∈ rules := hperm.mem_iff.mpr (htable ▸ List.mem_append_right _ List.mem_cons_self)
  have hsome : first? rules (w ++ rest) ≠ none := by
    intro h
    rw [first?_eq_none_iff.mp h r hr] at hlength
    omega
  obtain ⟨⟨k', n⟩, hother⟩ := Option.ne_none_iff_exists'.mp hsome
  obtain ⟨front, s, back, rfl, hfront, rfl, rfl, hs⟩ := exists_of_first? hother
  have hmem : s ∈ table := hperm.mem_iff.mp (List.mem_append_right _ List.mem_cons_self)
  -- a rule of a later kind is not the first, since the one that takes the lexeme is not behind it
  have hlater : ∀ first later, k = some first → s.kind = some later → ¬ Overlaps first later := by
    intro first later hk hlater hoverlap
    have horder := hoverlap.precedes hperm hkeeps
    rcases List.mem_append.mp hr with hr | hr
    · rw [hfront r hr] at hlength
      omega
    rcases List.mem_cons.mp hr with rfl | hr
    · rw [hkind, hk] at hlater
      exact hoverlap.ne (Option.some.inj hlater)
    · have hback := (List.pairwise_append.mp horder).2.1
      exact (List.pairwise_cons.mp hback).1 r hr ⟨hlater, hkind.trans hk⟩
  rw [hother, hfirst]
  cases applies_of_lexeme hlex hmem hs with
  | takes kind length => rw [kind, length]
  | shorter lexeme kind overlaps => exact absurd overlaps (hlater _ _ lexeme kind)
  | longer lexeme rule =>
    exact absurd (.pair (by decide)) (hlater .number .identifier lexeme (by rw [rule]; rfl))

end Rule

/-! ### Whole scans -/

open Rule

lemma pullBy_congr {rules rules' : List Rule} (h : ∀ cs, first? rules cs = first? rules' cs)
    (s : Scanner) : s.pullBy rules = s.pullBy rules' := by
  fun_induction Scanner.pullBy rules s with
  | case1 s hs =>
    rw [Scanner.pullBy]
    split <;> simp_all
  | case2 s c cs hs hr =>
    rw [h] at hr
    rw [Scanner.pullBy]
    split
    · simp_all
    · split <;> simp_all
  | case3 s c cs hs kind n hr =>
    rw [h] at hr
    rw [Scanner.pullBy]
    split
    · simp_all
    · split <;> simp_all
  | case4 s c cs hs n hr ih =>
    rw [h] at hr
    rw [ih]
    conv_rhs => rw [Scanner.pullBy]
    split
    · simp_all
    · split <;> simp_all

lemma scanBy_congr {rules rules' : List Rule} (h : ∀ cs, first? rules cs = first? rules' cs)
    (s : Scanner) : Stream.scanBy rules s = Stream.scanBy rules' s := by
  fun_induction Stream.scanBy rules s with
  | case1 s s' hpull =>
    rw [pullBy_congr h] at hpull
    rw [Stream.scanBy]
    split <;> simp_all
  | case2 s e s' hpull =>
    rw [pullBy_congr h] at hpull
    rw [Stream.scanBy]
    split <;> simp_all
  | case3 s t s' hpull ih =>
    rw [pullBy_congr h] at hpull
    rw [ih]
    conv_rhs => rw [Stream.scanBy]
    split <;> simp_all

lemma exists_token_of_first? {rules : List Rule} {text : String} {k : Kind} {n : Nat}
    (ne : text.toList ≠ []) (h : first? rules text.toList = some (some k, n)) :
    ∃ t rest, Stream.scanBy rules (.ofText text) = .token t rest ∧ t.kind = k := by
  have hpull : ∃ t s, (Scanner.ofText text).pullBy rules = (.token t, s) ∧ t.kind = k := by
    rw [Scanner.pullBy]
    split
    · next hnil => exact absurd hnil ne
    · split <;> simp_all [Scanner.ofText]
  obtain ⟨t, s, hpull, hkind⟩ := hpull
  rw [Stream.scanBy]
  split <;> simp_all

lemma scanBy_ne_of_first? {rules rules' : List Rule} {text : String} {k k' : Kind} {n n' : Nat}
    (ne : text.toList ≠ []) (h : first? rules text.toList = some (some k, n))
    (h' : first? rules' text.toList = some (some k', n')) (hkind : k ≠ k') :
    Stream.scanBy rules (.ofText text) ≠ Stream.scanBy rules' (.ofText text) := by
  obtain ⟨t, rest, hscan, rfl⟩ := exists_token_of_first? ne h
  obtain ⟨t', rest', hscan', rfl⟩ := exists_token_of_first? ne h'
  rw [hscan, hscan']
  intro heq
  cases heq
  exact hkind rfl

/-! ### Which orders scan alike -/

lemma perm_of_moved (front : List Rule) (r : Rule) (mid : List Rule) {back : List Rule}
    (split : table = front ++ r :: (mid ++ back)) : (front ++ (mid ++ r :: back)).Perm table := by
  rw [split]
  exact List.perm_middle.append_left front

/-- Each pair of the precedence matters by itself. -/
lemma exists_order_of_pair {p : Kind × Kind} (hp : p ∈ precedence) :
    ∃ rules : List Rule, rules.Perm table ∧ ¬ Precedes p.1 p.2 rules ∧
      (∀ q ∈ precedence, q ≠ p → Precedes q.1 q.2 rules) ∧
      ∃ text, Stream.scanBy rules (.ofText text) ≠ .ofText text := by
  simp only [precedence, List.mem_cons, List.not_mem_nil, or_false] at hp
  -- the first rule of the pair is moved right behind the second one
  obtain rfl | rfl | rfl | rfl | rfl := hp
  · exact ⟨_, perm_of_moved [whitespace, openParen, closeParen, comma] date [number] rfl,
      by decide, by decide, "2024-01-01T00:00:00Z",
      scanBy_ne_of_first? (by decide) rfl rfl (by decide : Kind.number ≠ .date)⟩
  · exact ⟨_, perm_of_moved [whitespace, openParen, closeParen, comma, date] number
      [relationalOperator, logicalOperator, boolean, identifier] rfl,
      by decide, by decide, "1",
      scanBy_ne_of_first? (by decide) rfl rfl (by decide : Kind.identifier ≠ .number)⟩
  · exact ⟨_, perm_of_moved [whitespace, openParen, closeParen, comma, date, number]
      relationalOperator [logicalOperator, boolean, identifier] rfl,
      by decide, by decide, "eq",
      scanBy_ne_of_first? (by decide) rfl rfl (by decide : Kind.identifier ≠ .relationalOperator)⟩
  · exact ⟨_, perm_of_moved [whitespace, openParen, closeParen, comma, date, number,
      relationalOperator] logicalOperator [boolean, identifier] rfl,
      by decide, by decide, "and",
      scanBy_ne_of_first? (by decide) rfl rfl (by decide : Kind.identifier ≠ .logicalOperator)⟩
  · exact ⟨_, perm_of_moved [whitespace, openParen, closeParen, comma, date, number,
      relationalOperator, logicalOperator] boolean [identifier] rfl,
      by decide, by decide, "true",
      scanBy_ne_of_first? (by decide) rfl rfl (by decide : Kind.identifier ≠ .boolean)⟩

section

variable {k : Option Kind} {w rest : List Char}

lemma stops_of_number (h : Lexeme (some .number) w rest) : Stops Char.isDigit rest := by
  generalize hk : some Kind.number = k at h
  cases h with
  | number _ _ stop => exact stop
  | word =>
    revert hk
    unfold wordKind
    split_ifs <;> simp
  | _ => cases hk

lemma lt_identifier_of_runsOn (h : Lexeme k w rest) (hruns : RunsOn k rest) :
    w.length < identifier.length (w ++ rest) := by
  obtain ⟨rfl, c, hc, hfirst⟩ := hruns
  obtain ⟨cs, rfl⟩ := List.head?_eq_some_iff.mp hc
  obtain ⟨-, all⟩ := h.shape
  have hmore : run isWord (c :: cs) = run isWord cs + 1 := by
    simp [run, isWord_iff.mpr (.inl hfirst)]
  have htake : identifier.length (w ++ c :: cs) = w.length + run isWord (c :: cs) :=
    run_append_of_all (fun d hd => isWord_iff.mpr (.inr (all d hd))) _
  omega

lemma identifier_le_of_not_runsOn (h : Lexeme (some .number) w rest)
    (hruns : ¬ RunsOn (some .number) rest) : identifier.length (w ++ rest) ≤ w.length := by
  have hstop : Stops isWord rest := by
    intro c hc
    by_contra hword
    rcases isWord_iff.mp (Bool.of_not_eq_false hword) with hfirst | hdigit
    · exact hruns ⟨rfl, c, hc, hfirst⟩
    · exact absurd hdigit (Bool.eq_false_iff.mp (stops_of_number h c hc))
  obtain ⟨-, all⟩ := h.shape
  exact (run_append (fun d hd => isWord_iff.mpr (.inr (all d hd))) hstop).le

/-- What the table takes is most, unless a number runs on. -/
lemma length_le_iff (h : Lexeme k w rest) :
    (∀ r ∈ table, r.length (w ++ rest) ≤ w.length) ↔ ¬ RunsOn k rest := by
  constructor
  · intro hmost hruns
    have hmem : identifier ∈ table := List.mem_of_getElem? (i := 9) rfl
    exact absurd (hmost identifier hmem) (Nat.not_le.mpr (lt_identifier_of_runsOn h hruns))
  · intro hruns r hr
    rcases Nat.eq_zero_or_pos (r.length (w ++ rest)) with hzero | hpos
    · exact hzero.le.trans (Nat.zero_le _)
    cases applies_of_lexeme h hr hpos with
    | takes _ length => exact length.le
    | shorter _ _ _ length => exact length
    | longer lexeme rule =>
      subst lexeme rule
      exact identifier_le_of_not_runsOn h hruns

end

/-- **The order of the rules matters for five pairs of kinds.** Every order that keeps them scans
every text as the table does; for each of them some order that breaks it alone does not. What the
first rule of the table takes is the most that any rule takes there, unless it is a number that a
letter or an underscore follows directly, of which the rule for identifiers takes more. -/
theorem order_of_rules :
    (∀ rules : List Rule, rules.Perm table → (∀ p ∈ precedence, Precedes p.1 p.2 rules) →
      ∀ text, Stream.scanBy rules (.ofText text) = .ofText text) ∧
    (∀ p ∈ precedence, ∃ rules : List Rule, rules.Perm table ∧ ¬ Precedes p.1 p.2 rules ∧
      (∀ q ∈ precedence, q ≠ p → Precedes q.1 q.2 rules) ∧
      ∃ text, Stream.scanBy rules (.ofText text) ≠ .ofText text) ∧
    (∀ cs : List Char, (∃ r ∈ table, 0 < r.length cs) →
      ∃ k n, first? table cs = some (k, n) ∧ (∃ r ∈ table, r.kind = k ∧ r.length cs = n) ∧
        ((∀ r ∈ table, r.length cs ≤ n) ↔ ¬ RunsOn k (cs.drop n)) ∧
        (RunsOn k (cs.drop n) → n < identifier.length cs)) := by
  refine ⟨fun rules hperm hkeeps text => ?_, fun p => exists_order_of_pair, fun cs hsome => ?_⟩
  · exact scanBy_congr (first?_of_perm hperm hkeeps) (.ofText text)
  · obtain ⟨r, hr, hpos⟩ := hsome
    have hne : first? table cs ≠ none := fun hnone =>
      Nat.pos_iff_ne_zero.mp hpos (first?_eq_none_iff.mp hnone r hr)
    obtain ⟨k, w, rest, rfl, hlex⟩ := exists_lexeme hne
    have hfirst := first?_of_lexeme hlex
    obtain ⟨_, s, _, htable, -, hkind, hlength, -⟩ := exists_of_first? hfirst
    have hs : s ∈ table := htable ▸ List.mem_append_right _ List.mem_cons_self
    refine ⟨k, w.length, hfirst, ⟨s, hs, hkind, hlength⟩, ?_⟩
    rw [List.drop_left]
    exact ⟨length_le_iff hlex, lt_identifier_of_runsOn hlex⟩

/-- Blanks, parentheses and commas may come last; of `2ab` the rule for identifiers takes more. -/
theorem order_of_rules_marks_last :
    (∀ text, Stream.scanBy ([date, number, relationalOperator, logicalOperator, boolean, identifier,
      doubleQuoted, singleQuoted] ++ [whitespace, openParen, closeParen, comma]) (.ofText text) =
        .ofText text) ∧
    (∃ rules : List Rule, rules.Perm table ∧ ¬ Precedes .date .number rules ∧
      ∃ text, Stream.scanBy rules (.ofText text) ≠ .ofText text) ∧
    first? table "2ab".toList = some (some .number, 1) ∧
    ¬ ∀ r ∈ table, r.length "2ab".toList ≤ 1 := by
  obtain ⟨halike, hmatters, hmost⟩ := order_of_rules
  refine ⟨halike _ List.perm_append_comm (by decide), ?_, rfl, ?_⟩
  · obtain ⟨rules, hperm, hbreaks, -, hdiffers⟩ := hmatters (.date, .number) (by decide)
    exact ⟨rules, hperm, hbreaks, hdiffers⟩
  · have hmem : number ∈ table := List.mem_of_getElem? (i := 5) rfl
    obtain ⟨k, n, hfirst, -, hiff, -⟩ := hmost "2ab".toList ⟨number, hmem, by decide⟩
    have htakes : some (some Kind.number, 1) = some (k, n) := hfirst
    cases htakes
    exact fun hall => hiff.mp hall ⟨rfl, 'a', rfl, .inl rfl⟩

end DocFilter.Token
