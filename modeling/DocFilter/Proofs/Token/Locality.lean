import DocFilter.Proofs.Token.Tiling

/-!
What a lexeme depends on: the characters behind a quote do not matter to the lexemes before it.

A date is the only lexeme that is looked for far ahead, and no date has a quote in it.
-/

namespace DocFilter.Token

open Text

/-! ### Dates have no quotes -/

lemma not_isDigit_quote {q : Char} (h : q = '"' ∨ q = '\'') : q.isDigit = false := by
  rcases h with rfl | rfl <;> rfl

lemma Follows.not_mem {pattern cs : List Char} {q : Char} (h : Follows pattern cs)
    (hq : q.isDigit = false) (hp : q ∉ pattern) : q ∉ cs := by
  induction h with
  | nil => exact List.not_mem_nil
  | @cons p c pattern cs hc _ ih =>
    rw [List.mem_cons, not_or] at hp ⊢
    refine ⟨?_, ih hp.2⟩
    rintro rfl
    split at hc
    · rw [hq] at hc
      cases hc
    · exact hp.1 hc

lemma IsFraction.not_mem {cs : List Char} {q : Char} (h : IsFraction cs)
    (hq : q.isDigit = false) (hp : q ≠ '.') : q ∉ cs := by
  rcases h with rfl | ⟨ds, rfl, -, hds⟩
  · exact List.not_mem_nil
  · rw [List.mem_cons, not_or]
    refine ⟨hp, fun hmem => ?_⟩
    rw [hds q hmem] at hq
    cases hq

lemma IsZone.not_mem {cs : List Char} {q : Char} (h : IsZone cs) (hq : q = '"' ∨ q = '\'') :
    q ∉ cs := by
  rcases h with rfl | h | h
  · rcases hq with rfl | rfl <;> decide
  · exact h.not_mem (not_isDigit_quote hq) (by rcases hq with rfl | rfl <;> decide)
  · exact h.not_mem (not_isDigit_quote hq) (by rcases hq with rfl | rfl <;> decide)

lemma IsDate.not_mem {cs : List Char} {q : Char} (h : IsDate cs) (hq : q = '"' ∨ q = '\'') :
    q ∉ cs := by
  obtain ⟨stamp, fraction, zone, rfl, hs, hf, hz⟩ := h
  have hstamp : q ∉ stamp :=
    hs.not_mem (not_isDigit_quote hq) (by rcases hq with rfl | rfl <;> decide)
  have hfraction : q ∉ fraction :=
    hf.not_mem (not_isDigit_quote hq) (by rcases hq with rfl | rfl <;> decide)
  simp [hstamp, hfraction, hz.not_mem hq]

/-! ### Lexemes before a quote -/

lemma Stops.of_append_cons {p : Char → Bool} {us X : List Char} {q : Char}
    (h : Stops p (us ++ q :: X)) (Y : List Char) : Stops p (us ++ q :: Y) := by
  cases us with
  | nil => exact h
  | cons u us => exact h

/-- What stands in front of a character that it does not have is in front of all that comes
behind the character. -/
lemma prefix_of_prefix_append_cons {ds us X : List Char} {q : Char} (h : ds <+: us ++ q :: X)
    (hq : q ∉ ds) : ds <+: us := by
  rcases List.prefix_or_prefix_of_prefix h (List.prefix_append us (q :: X)) with hle | ⟨vs, rfl⟩
  · exact hle
  · cases vs with
    | nil => simp
    | cons v vs =>
      obtain ⟨rfl, -⟩ := List.cons_prefix_cons.mp ((List.prefix_append_right_inj us).mp h)
      exact absurd (by simp) hq

lemma Lexeme.of_append_cons {k : Option Kind} {w us X : List Char} {q : Char}
    (hq : q = '"' ∨ q = '\'') (h : Lexeme k w (us ++ q :: X)) (Y : List Char) :
    Lexeme k w (us ++ q :: Y) := by
  cases h with
  | blanks ne all stop => exact .blanks ne all (stop.of_append_cons Y)
  | openParen => exact .openParen
  | closeParen => exact .closeParen
  | comma => exact .comma
  | date date => exact .date date
  | number ne all stop noDate =>
    refine .number ne all (stop.of_append_cons Y) fun d hd hdate => noDate d ?_ hdate
    rw [← List.append_assoc] at hd ⊢
    have hbefore := prefix_of_prefix_append_cons hd (hdate.not_mem hq)
    exact hbefore.trans (List.prefix_append _ _)
  | word first all stop => exact .word first all (stop.of_append_cons Y)
  | string quote inner => exact .string quote inner

namespace Tiling

lemma append_iff {cs rest : List Char} {tiles tiles' : List Tile} :
    Tiling cs (tiles ++ tiles') rest ↔ ∃ mid, Tiling cs tiles mid ∧ Tiling mid tiles' rest := by
  constructor
  · intro h
    induction tiles generalizing cs with
    | nil => exact ⟨cs, .nil, h⟩
    | cons tile tiles ih =>
      cases h with
      | cons lexeme tail =>
        obtain ⟨mid, hl, hr⟩ := ih tail
        exact ⟨mid, .cons lexeme hl, hr⟩
  · rintro ⟨mid, hl, hr⟩
    induction hl with
    | nil => exact hr
    | cons lexeme _ ih => exact .cons lexeme (ih hr)

/-- The tiles before a quote do not depend on what comes behind the quote. -/
lemma of_append_cons {us X : List Char} {tiles : List Tile} {q : Char} (hq : q = '"' ∨ q = '\'')
    (h : Tiling (us ++ q :: X) tiles (q :: X)) (Y : List Char) :
    Tiling (us ++ q :: Y) tiles (q :: Y) := by
  obtain rfl : us = Tile.cover tiles := List.append_cancel_right h.eq_cover_append
  induction tiles with
  | nil => exact .nil
  | cons tile tiles ih =>
    rw [Tile.cover, List.flatMap_cons, List.append_assoc] at h ⊢
    generalize hcs : tile.text ++ (tiles.flatMap Tile.text ++ q :: X) = cs at h
    cases h with
    | @cons k w cs _ _ lexeme tail =>
      obtain rfl := List.append_cancel_left hcs
      exact .cons (lexeme.of_append_cons hq Y) (ih tail)

end Tiling

end DocFilter.Token
