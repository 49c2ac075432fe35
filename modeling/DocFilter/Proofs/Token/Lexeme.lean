import DocFilter.Token.Rule
import Mathlib.Data.List.Basic
import Mathlib.Data.List.Forall2
import Mathlib.Tactic.Lemma

/-!
The lexical grammar of the query language, by what a lexeme looks like and not by how it is found.

A lexeme is a run of blanks, which is skipped, or the text of a token. Runs are maximal and a number
gives way to a date, so whether some characters are a lexeme depends on what follows them. The
table of rules takes exactly the lexemes, and at most one lexeme stands at any place.
-/

namespace DocFilter.Token

open Text

/-- Some characters follow a pattern, in which a zero stands for any digit. -/
def Follows (pattern cs : List Char) : Prop :=
  List.Forall₂ (fun p c => if p = '0' then c.isDigit = true else c = p) pattern cs

/-- A point and digits, or nothing. -/
def IsFraction (cs : List Char) : Prop :=
  cs = [] ∨ ∃ ds, cs = '.' :: ds ∧ ds ≠ [] ∧ ∀ d ∈ ds, d.isDigit = true

/-- An offset from UTC. -/
def IsZone (cs : List Char) : Prop :=
  cs = ['Z'] ∨ Follows "+00:00".toList cs ∨ Follows "-00:00".toList cs

/-- A date with a time, a fraction if any, and an offset. -/
def IsDate (cs : List Char) : Prop :=
  ∃ stamp fraction zone, cs = stamp ++ (fraction ++ zone) ∧
    Follows "0000-00-00T00:00:00".toList stamp ∧ IsFraction fraction ∧ IsZone zone

/-- Tab, line feed, vertical tab, form feed, carriage return and space. -/
def blanks : List Char := ['\t', '\n', '\x0b', '\x0c', '\r', ' ']

/-- A text does not start with a character of a class. -/
def Stops (p : Char → Bool) (rest : List Char) : Prop := ∀ c ∈ rest.head?, p c = false

/-- The kind of a word: a word is an identifier unless it is one of ten. -/
def wordKind (word : List Char) : Kind :=
  if String.ofList word ∈ ["eq", "ne", "gt", "ge", "lt", "le"] then .relationalOperator
  else if String.ofList word ∈ ["and", "or"] then .logicalOperator
  else if String.ofList word ∈ ["true", "false"] then .boolean
  else .identifier

/-- `Lexeme kind text rest`: before `rest`, `text` is a lexeme. Blanks have no kind. -/
inductive Lexeme : Option Kind → List Char → List Char → Prop
  | blanks {w rest} (ne : w ≠ []) (all : ∀ c ∈ w, c ∈ blanks) (stop : Stops (· ∈ blanks) rest) :
      Lexeme none w rest
  | openParen {rest} : Lexeme (some .openParen) ['('] rest
  | closeParen {rest} : Lexeme (some .closeParen) [')'] rest
  | comma {rest} : Lexeme (some .comma) [','] rest
  | date {d rest} (date : IsDate d) : Lexeme (some .date) d rest
  | number {ds rest} (ne : ds ≠ []) (all : ∀ d ∈ ds, d.isDigit = true)
      (stop : Stops Char.isDigit rest) (noDate : ∀ d, d <+: ds ++ rest → ¬ IsDate d) :
      Lexeme (some .number) ds rest
  | word {c cs rest} (first : c.isAlpha = true ∨ c = '_') (all : ∀ d ∈ cs, isWord d = true)
      (stop : Stops isWord rest) : Lexeme (some (wordKind (c :: cs))) (c :: cs) rest
  | string {q body rest} (quote : q = '"' ∨ q = '\'') (inner : q ∉ body) :
      Lexeme (some .string) (q :: (body ++ [q])) rest

@[simp] lemma stops_nil (p : Char → Bool) : Stops p [] := by simp [Stops]

@[simp] lemma stops_cons {p : Char → Bool} {c : Char} {cs : List Char} :
    Stops p (c :: cs) ↔ p c = false := by simp [Stops]

/-! ### Classes of characters -/

lemma isDigit_iff {c : Char} : c.isDigit = true ↔ 48 ≤ c.toNat ∧ c.toNat ≤ 57 := by
  simp [Char.isDigit, UInt32.le_iff_toNat_le, ← Char.toNat_val]

lemma isAlpha_iff {c : Char} :
    c.isAlpha = true ↔ 65 ≤ c.toNat ∧ c.toNat ≤ 90 ∨ 97 ≤ c.toNat ∧ c.toNat ≤ 122 := by
  change (decide ('A'.val ≤ c.val ∧ c.val ≤ 'Z'.val) ||
    decide ('a'.val ≤ c.val) && decide (c.val ≤ 'z'.val)) = true ↔ _
  simp [UInt32.le_iff_toNat_le, ← Char.toNat_val]

lemma isBlank_iff_toNat {c : Char} :
    isBlank c = true ↔ c.toNat = 32 ∨ 9 ≤ c.toNat ∧ c.toNat ≤ 13 := by
  simp [isBlank, Char.le_def, UInt32.le_iff_toNat_le, ← Char.toNat_val, ← Char.toNat_inj]

lemma isBlank_iff {c : Char} : isBlank c = true ↔ c ∈ blanks := by
  simp only [isBlank_iff_toNat, blanks, List.mem_cons, List.not_mem_nil, or_false,
    ← Char.toNat_inj]
  simp
  omega

lemma isBlank_eq : isBlank = (· ∈ blanks) := by
  ext c
  rw [Bool.eq_iff_iff, isBlank_iff, decide_eq_true_iff]

lemma isWord_iff {c : Char} :
    isWord c = true ↔ (c.isAlpha = true ∨ c = '_') ∨ c.isDigit = true := by
  simp only [isWord, Char.isAlphanum, Bool.or_eq_true, decide_eq_true_eq]
  exact or_right_comm

lemma not_isDigit_of_first {c : Char} (h : c.isAlpha = true ∨ c = '_') : c.isDigit = false := by
  rw [Bool.eq_false_iff, Ne, isDigit_iff]
  rw [isAlpha_iff, ← Char.toNat_inj] at h
  have : '_'.toNat = 95 := rfl
  omega

lemma not_isBlank_of_isWord {c : Char} (h : isWord c = true) : isBlank c = false := by
  rw [Bool.eq_false_iff, Ne, isBlank_iff_toNat]
  rw [isWord_iff, isAlpha_iff, isDigit_iff, ← Char.toNat_inj] at h
  have : '_'.toNat = 95 := rfl
  omega

/-! ### Dates -/

lemma Follows.length {pattern cs : List Char} (h : Follows pattern cs) :
    cs.length = pattern.length := (List.Forall₂.length_eq h).symm

lemma Follows.head {p : Char} {pattern cs : List Char} (h : Follows (p :: pattern) cs) :
    ∃ c rest, cs = c :: rest ∧ if p = '0' then c.isDigit = true else c = p := by
  cases h with
  | @cons _ c _ rest hc _ => exact ⟨c, rest, rfl, hc⟩

lemma IsZone.head {cs : List Char} (h : IsZone cs) :
    ∃ c rest, cs = c :: rest ∧ (c = 'Z' ∨ c = '+' ∨ c = '-') := by
  rcases h with rfl | h | h
  · exact ⟨'Z', [], rfl, .inl rfl⟩
  · obtain ⟨c, rest, rfl, hc⟩ := Follows.head (p := '+') h
    exact ⟨c, rest, rfl, .inr (.inl hc)⟩
  · obtain ⟨c, rest, rfl, hc⟩ := Follows.head (p := '-') h
    exact ⟨c, rest, rfl, .inr (.inr hc)⟩

lemma IsDate.head {cs : List Char} (h : IsDate cs) :
    ∃ c rest, cs = c :: rest ∧ c.isDigit = true := by
  obtain ⟨stamp, fraction, zone, rfl, hs, -, -⟩ := h
  obtain ⟨c, rest, rfl, hc⟩ := Follows.head (p := '0') hs
  exact ⟨c, rest ++ (fraction ++ zone), rfl, hc⟩

end DocFilter.Token
