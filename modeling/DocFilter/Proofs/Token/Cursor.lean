import DocFilter.Proofs.Text.Boundary
import DocFilter.Proofs.Token.Tiling

/-!
One pull of a scanner: all that it can give, and how far the cursor moves. A scanner stays at
boundaries of characters within its text.
-/

namespace DocFilter

open Text Token

namespace Scanner

/-! ### One pull -/

/-- All that a pull can give. Blanks are skipped, also where no token comes behind them. -/
inductive Pulled (s : Scanner) : Pull → Scanner → Prop
  | token {gap w rest : List Char} {k : Kind} (blank : ∀ c ∈ gap, c ∈ blanks)
      (split : s.rest = gap ++ (w ++ rest)) (lexeme : Lexeme (some k) w rest) :
      Pulled s (.token ⟨k, String.ofList w, s.cursor + byteLength gap⟩)
        { s with cursor := s.cursor + byteLength (gap ++ w), rest := rest }
  | finished (blank : ∀ c ∈ s.rest, c ∈ blanks) :
      Pulled s .finished { s with cursor := s.cursor + byteLength s.rest, rest := [] }
  | stray {gap cs : List Char} {c : Char} (blank : ∀ c ∈ gap, c ∈ blanks)
      (split : s.rest = gap ++ c :: cs) (none : NoLexeme (c :: cs)) :
      Pulled s (.stray ⟨c, s.cursor + byteLength gap⟩)
        { s with cursor := s.cursor + byteLength gap, rest := c :: cs }

lemma pulled (s : Scanner) : Pulled s s.pull.1 s.pull.2 := by
  obtain ⟨gap, rest, hsplit, hgap, hstop⟩ := Rule.exists_run (· ∈ blanks) s.rest
  have blank : ∀ c ∈ gap, c ∈ blanks := fun c hc => of_decide_eq_true (hgap c hc)
  rw [pull_skip blank hstop hsplit]
  rcases rest with _ | ⟨c, cs⟩
  · rw [pull_of_nil rfl]
    rw [List.append_nil] at hsplit
    subst hsplit
    exact .finished blank
  · by_cases hno : NoLexeme (c :: cs)
    · rw [pull_of_stray rfl (noLexeme_iff.mp hno)]
      exact .stray blank hsplit hno
    · obtain ⟨k, w, rest, hcut, lexeme⟩ := Rule.exists_lexeme (mt noLexeme_iff.mpr hno)
      rw [hcut] at hsplit hstop ⊢
      rcases k with _ | k
      · -- the blanks have been skipped
        cases lexeme with
        | blanks ne all =>
          obtain ⟨d, w, rfl⟩ := List.exists_cons_of_ne_nil ne
          exact absurd (all d List.mem_cons_self) (of_decide_eq_false (stops_cons.mp hstop))
      · rw [pull_of_token lexeme rfl]
        have htoken := Pulled.token blank hsplit lexeme
        rwa [byteLength_append, ← Nat.add_assoc] at htoken

lemma pull_eq_finished_iff {s : Scanner} :
    s.pull.1 = .finished ↔ ∀ c ∈ s.rest, c ∈ blanks := by
  constructor
  · intro h
    have hpulled := pulled s
    rw [h] at hpulled
    generalize s.pull.2 = s' at hpulled
    cases hpulled with
    | finished blank => exact blank
  · intro blank
    rw [pull_skip blank (stops_nil _) (List.append_nil _).symm, pull_of_nil rfl]

/-! ### The cursor -/

/-- The scanner stands in a text: before what it has still to scan there are as many bytes as its
cursor says. -/
structure Within (s : Scanner) (text : String) : Prop where
  text_eq : s.text = text
  split : ∃ front, text.toList = front ++ s.rest ∧ byteLength front = s.cursor

lemma within_ofText (text : String) : (ofText text).Within text := ⟨rfl, [], rfl, rfl⟩

section

variable {s s' : Scanner} {text : String} {p : Pull}

lemma Within.cursor_le (h : s.Within text) : s.cursor ≤ text.utf8ByteSize := by
  obtain ⟨front, hsplit, hcursor⟩ := h.split
  exact hcursor ▸ byteLength_le hsplit

lemma Within.isValid (h : s.Within text) : String.Pos.Raw.IsValid text ⟨s.cursor⟩ := by
  obtain ⟨front, hsplit, hcursor⟩ := h.split
  exact hcursor ▸ isValid_byteLength hsplit

lemma Within.cursor_add (h : s.Within text) :
    s.cursor + byteLength s.rest = text.utf8ByteSize := by
  obtain ⟨front, hsplit, hcursor⟩ := h.split
  rw [utf8ByteSize_eq, hsplit, byteLength_append, hcursor]

lemma Within.move {w rest : List Char} (h : s.Within text) (hw : s.rest = w ++ rest) :
    Within { s with cursor := s.cursor + byteLength w, rest := rest } text := by
  obtain ⟨front, hsplit, hcursor⟩ := h.split
  refine ⟨h.text_eq, front ++ w, ?_, ?_⟩
  · rw [hsplit, hw, List.append_assoc]
  · rw [byteLength_append, hcursor]

lemma Pulled.within (hp : Pulled s p s') (h : s.Within text) : s'.Within text := by
  cases hp with
  | token _ split => exact h.move (by rw [split, List.append_assoc])
  | finished => exact h.move (List.append_nil _).symm
  | stray _ split => exact h.move split

lemma Pulled.cursor_le (hp : Pulled s p s') : s.cursor ≤ s'.cursor := by
  cases hp with
  | token => exact Nat.le_add_right _ _
  | finished => exact Nat.le_add_right _ _
  | stray => exact Nat.le_add_right _ _

end

end Scanner

end DocFilter
