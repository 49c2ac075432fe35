import DocFilter.Proofs.Token.Cursor

/-!
A scanner round by round. A pull skips blanks and then takes a token, a round for each; in every
round the scanner stands at a boundary of characters, what the table takes is there to be taken,
and where the table takes nothing there is a character to report.
-/

namespace DocFilter

open Text Token

namespace Token

lemma Rule.length_of_first? {cs : List Char} {k : Option Kind} {n : Nat}
    (h : first? table cs = some (k, n)) : (cs.take n).length = n := by
  obtain ⟨k', w, rest, rfl, lexeme⟩ := exists_lexeme (by rw [h]; exact Option.some_ne_none _)
  rw [first?_of_lexeme lexeme] at h
  obtain ⟨-, rfl⟩ := Prod.mk.inj (Option.some.inj h)
  rw [List.take_left]

end Token

namespace Scanner

/-- The scanner before some round, from the start of a text on. -/
inductive Reached (text : String) : Scanner → Prop
  | start : Reached text (ofText text)
  | round {s : Scanner} {k : Option Kind} {n : Nat} (reached : Reached text s)
      (takes : Rule.first? Rule.table s.rest = some (k, n)) : Reached text (s.advance n)

/-- What a round asks for is in the text. -/
structure Sound (s : Scanner) (text : String) : Prop where
  /-- The rest of the text starts at the cursor. -/
  rest : Slice text s.cursor text.utf8ByteSize s.rest
  /-- A round has a character in front of it, which it reports if no rule applies. -/
  character : s.hasMore = true ↔ ∃ c cs, s.rest = c :: cs
  /-- As many characters are there as a rule takes. -/
  taken : ∀ k n, Rule.first? Rule.table s.rest = some (k, n) → (s.rest.take n).length = n ∧
    Slice (String.ofList s.rest) 0 (byteLength (s.rest.take n)) (s.rest.take n)

variable {s : Scanner} {text : String}

lemma Reached.within (h : Reached text s) : s.Within text := by
  induction h with
  | start => exact within_ofText text
  | round _ _ ih => exact ih.move (List.take_append_drop _ _).symm

lemma Reached.pull (h : Reached text s) : Reached text s.pull.2 := by
  unfold Scanner.pull
  fun_induction pullBy Rule.table s with
  | case1 => exact h
  | case2 => exact h
  | case3 s c cs hs kind n hr => exact h.round hr
  | case4 s c cs hs n hr ih => exact ih (h.round hr)

lemma Within.sound (h : s.Within text) : s.Sound text where
  rest := by
    obtain ⟨front, hsplit, hcursor⟩ := h.split
    have hslice := slice_of_split (hsplit.trans (by rw [List.append_nil]) :
      text.toList = front ++ (s.rest ++ []))
    rwa [hcursor, ← hsplit, ← utf8ByteSize_eq] at hslice
  character := by
    have hadd := h.cursor_add
    unfold hasMore
    rw [h.text_eq, decide_eq_true_iff]
    constructor
    · intro hlt
      refine List.exists_cons_of_ne_nil fun hnil => ?_
      rw [hnil, byteLength_nil] at hadd
      omega
    · rintro ⟨c, cs, hrest⟩
      have hpos := c.utf8Size_pos
      rw [hrest, byteLength_cons] at hadd
      omega
  taken := fun k n hr => by
    refine ⟨Rule.length_of_first? hr, ?_⟩
    have hsplit : (String.ofList s.rest).toList = [] ++ (s.rest.take n ++ s.rest.drop n) := by
      rw [String.toList_ofList, List.nil_append, List.take_append_drop]
    exact slice_of_split hsplit

end Scanner

end DocFilter
