import DocFilter.Proofs.Token.Lexical

/-!
What keeps lexemes apart: the shape of a token's text is enough for it to be a lexeme, unless a
character follows that would lengthen it.
-/

namespace DocFilter.Token

open Text

/-! ### Words -/

/-- The words that are no identifiers. -/
def keywords : List String :=
  ["eq", "ne", "gt", "ge", "lt", "le", "and", "or", "true", "false"]

/-- A letter or an underscore, and then letters, digits and underscores. -/
def IsName (w : List Char) : Prop :=
  ∃ c cs, w = c :: cs ∧ (c.isAlpha = true ∨ c = '_') ∧ ∀ d ∈ cs, isWord d = true

lemma isName_of_mem_keywords {w : List Char} (h : String.ofList w ∈ keywords) : IsName w := by
  have hall : keywords.all (fun s => s.toList.head?.any Char.isAlpha && s.toList.all isWord) := by
    decide
  have hw := List.all_eq_true.mp hall _ h
  rw [String.toList_ofList, Bool.and_eq_true, Option.any_eq_true, List.all_eq_true] at hw
  obtain ⟨⟨c, hhead, hfirst⟩, hword⟩ := hw
  obtain ⟨cs, rfl⟩ := List.head?_eq_some_iff.mp hhead
  exact ⟨c, cs, rfl, .inl hfirst, fun d hd => hword d (List.mem_cons_of_mem c hd)⟩

lemma wordKind_eq_identifier_iff {w : List Char} :
    wordKind w = .identifier ↔ String.ofList w ∉ keywords := by
  have hkeywords : String.ofList w ∈ keywords ↔
      String.ofList w ∈ ["eq", "ne", "gt", "ge", "lt", "le"] ∨
        String.ofList w ∈ ["and", "or"] ∨ String.ofList w ∈ ["true", "false"] := by
    simp only [keywords, List.mem_cons, List.not_mem_nil, or_false, or_assoc]
  rw [hkeywords]
  unfold wordKind
  split_ifs with hrel hlog hbool
  · simp [hrel]
  · simp [hlog]
  · simp [hbool]
  · simp [hrel, hlog, hbool]

/-- The kinds of words. -/
def Kind.isWord : Kind → Bool
  | relationalOperator | logicalOperator | boolean | identifier => true
  | _ => false

lemma Kind.Shape.isName {k : Kind} {w : List Char} (h : k.Shape w) (hk : k.isWord = true) :
    IsName w := by
  cases k with
  | identifier =>
    obtain ⟨c, cs, rfl, hfirst, hall, -⟩ := h
    exact ⟨c, cs, rfl, hfirst, hall⟩
  | relationalOperator => exact isName_of_mem_keywords (List.mem_append_left _ h)
  | logicalOperator =>
    rcases List.mem_pair.mp h with heq | heq
    · exact isName_of_mem_keywords (by rw [heq]; decide)
    · exact isName_of_mem_keywords (by rw [heq]; decide)
  | boolean =>
    rcases List.mem_pair.mp h with heq | heq
    · exact isName_of_mem_keywords (by rw [heq]; decide)
    · exact isName_of_mem_keywords (by rw [heq]; decide)
  | _ => cases hk

lemma Kind.Shape.wordKind_eq {k : Kind} {w : List Char} (h : k.Shape w) (hk : k.isWord = true) :
    wordKind w = k := by
  cases k with
  | identifier =>
    obtain ⟨c, cs, rfl, -, -, hkind⟩ := h
    exact hkind
  | relationalOperator => exact if_pos h
  | logicalOperator => rcases List.mem_pair.mp h with heq | heq <;> simp [wordKind, heq]
  | boolean => rcases List.mem_pair.mp h with heq | heq <;> simp [wordKind, heq]
  | _ => cases hk

/-! ### What follows a lexeme -/

/-- Whether a character would be taken into a lexeme of a kind that it follows, or would make a
number the year of a date. -/
def joins : Option Kind → Char → Bool
  | none, c => c ∈ blanks
  | some .number, c => c.isDigit || c = '-'
  | some k, c => k.isWord && Text.isWord c

lemma Stops.mono {p q : Char → Bool} {rest : List Char} (h : Stops p rest)
    (hpq : ∀ c, q c = true → p c = true) : Stops q rest := by
  intro c hc
  by_contra hq
  have hp := hpq c (Bool.of_not_eq_false hq)
  rw [h c hc] at hp
  cases hp

lemma Follows.split {p q cs : List Char} (h : Follows (p ++ q) cs) :
    ∃ u v, cs = u ++ v ∧ Follows p u ∧ Follows q v := by
  induction p generalizing cs with
  | nil => exact ⟨[], cs, rfl, .nil, h⟩
  | cons c p ih =>
    cases h with
    | cons hc h =>
      obtain ⟨u, v, rfl, hu, hv⟩ := ih h
      exact ⟨_ :: u, v, rfl, .cons hc hu, hv⟩

lemma Follows.isDigit {n : Nat} {cs : List Char} (h : Follows (List.replicate n '0') cs) :
    ∀ c ∈ cs, c.isDigit = true := by
  induction n generalizing cs with
  | zero =>
    cases h
    simp
  | succ n ih =>
    cases h with
    | cons hc h => exact List.forall_mem_cons.mpr ⟨hc, ih h⟩

lemma IsDate.exists_year {d : List Char} (h : IsDate d) :
    ∃ year rest, d = year ++ '-' :: rest ∧ ∀ c ∈ year, c.isDigit = true := by
  obtain ⟨stamp, fraction, zone, rfl, hstamp, -, -⟩ := h
  obtain ⟨year, rest, rfl, hyear, hrest⟩ :=
    Follows.split (p := List.replicate 4 '0') (q := "-00-00T00:00:00".toList) hstamp
  obtain ⟨_, rest, rfl, rfl⟩ := Follows.head (p := '-') hrest
  exact ⟨year, rest ++ (fraction ++ zone), by simp, hyear.isDigit⟩

lemma not_isDate_of_stops {ds rest d : List Char} (all : ∀ c ∈ ds, c.isDigit = true)
    (stop : Stops (joins (some .number)) rest) (hd : d <+: ds ++ rest) : ¬ IsDate d := by
  intro hdate
  obtain ⟨more, hmore⟩ := hd
  obtain ⟨year, tail, rfl, hyear⟩ := hdate.exists_year
  have hdigits : Stops Char.isDigit rest := stop.mono fun c hc => by simp [joins, hc]
  have hds := Rule.takeWhile_append all hdigits
  rw [← hmore, List.append_assoc, List.cons_append,
    Rule.takeWhile_append hyear (stops_cons.mpr rfl)] at hds
  subst hds
  rw [List.append_assoc, List.cons_append] at hmore
  rw [← List.append_cancel_left hmore] at stop
  cases stops_cons.mp stop

/-- **A text of the right shape is a lexeme** where nothing follows that joins it. -/
theorem Lexeme.of_shape {k : Kind} {w rest : List Char} (shape : k.Shape w)
    (stop : Stops (joins (some k)) rest) : Lexeme (some k) w rest := by
  have hword : k.isWord = true → Lexeme (some k) w rest := by
    intro hk
    obtain ⟨c, cs, rfl, hfirst, hall⟩ := shape.isName hk
    rw [← shape.wordKind_eq hk]
    refine .word hfirst hall (stop.mono fun d hd => ?_)
    cases k <;> simp_all [joins, Kind.isWord]
  cases k with
  | number =>
    obtain ⟨ne, all⟩ := shape
    have hdigits : Stops Char.isDigit rest := stop.mono fun c hc => by simp [joins, hc]
    exact .number ne all hdigits fun d hd => not_isDate_of_stops all stop hd
  | string =>
    obtain ⟨q, body, quote, inner, rfl⟩ := shape
    exact .string quote inner
  | date => exact .date shape
  | openParen =>
    obtain rfl : w = ['('] := shape
    exact .openParen
  | closeParen =>
    obtain rfl : w = [')'] := shape
    exact .closeParen
  | comma =>
    obtain rfl : w = [','] := shape
    exact .comma
  | relationalOperator => exact hword rfl
  | logicalOperator => exact hword rfl
  | boolean => exact hword rfl
  | identifier => exact hword rfl

lemma Lexeme.head_ne_dash {k : Option Kind} {w rest : List Char} (h : Lexeme k w rest) :
    ∀ c ∈ (w ++ rest).head?, c ≠ '-' := by
  rintro c hc rfl
  obtain ⟨cs, hcs⟩ := List.head?_eq_some_iff.mp hc
  have hfirst := Rule.first?_of_lexeme h
  rw [hcs] at hfirst
  have hnone : Rule.first? Rule.table ('-' :: cs) = none := rfl
  rw [hnone] at hfirst
  cases hfirst

lemma joins_of_wordKind {w : List Char} {c : Char} (h : joins (some (wordKind w)) c = true) :
    isWord c = true := by
  revert h
  unfold wordKind
  split_ifs <;> simp [joins, Kind.isWord]

/-- Of two lexemes that stand side by side the second one does not join the first. -/
lemma Lexeme.stops_of_next {k k' : Option Kind} {v w rest : List Char}
    (h : Lexeme k v (w ++ rest)) (next : Lexeme k' w rest) : Stops (joins k) (w ++ rest) := by
  cases h with
  | blanks ne all stop => exact stop
  | number ne all stop noDate =>
    intro c hc
    simp [joins, stop c hc, next.head_ne_dash c hc]
  | word first all stop => exact stop.mono fun _ => joins_of_wordKind
  | _ => exact fun _ _ => rfl

end DocFilter.Token
