import DocFilter.Proofs.Token.Offset
import DocFilter.Proofs.Token.Spacing

/-!
Another text in the place of a token. Where it joins what stands before it no more than the old
text did, the scanner yields the same words, but for the one.
-/

namespace DocFilter.Token

open Text

/-! ### Streams with related tokens -/

/-- As many tokens, which are related, and then the same sort of end. -/
inductive Stream.Related (R : Token → Token → Prop) : Stream → Stream → Prop
  | finished {p p' : Nat} : Related R (.finished p) (.finished p')
  | stray {e e' : Stray} : Related R (.stray e) (.stray e')
  | token {t t' : Token} {rest rest' : Stream} (head : R t t') (tail : Related R rest rest') :
      Related R (.token t rest) (.token t' rest')

namespace Stream.Related

variable {R : Token → Token → Prop}

lemma prepend {ts ts' : List Token} {rest rest' : Stream} (h : List.Forall₂ R ts ts')
    (hrest : Related R rest rest') : Related R (.prepend ts rest) (.prepend ts' rest') := by
  induction h with
  | nil => exact hrest
  | cons head _ ih => exact .token head ih

lemma imp {S : Token → Token → Prop} {stream stream' : Stream} (h : Related R stream stream')
    (hRS : ∀ t t', R t t' → S t t') : Related S stream stream' := by
  induction h with
  | finished => exact .finished
  | stray => exact .stray
  | token head _ ih => exact .token (hRS _ _ head) ih

lemma exists_prepend {ts : List Token} {rest stream : Stream}
    (h : Related R (.prepend ts rest) stream) :
    ∃ ts' rest', stream = .prepend ts' rest' ∧ List.Forall₂ R ts ts' ∧ Related R rest rest' := by
  induction ts generalizing stream with
  | nil => exact ⟨[], stream, rfl, .nil, h⟩
  | cons t ts ih =>
    rw [prepend_cons] at h
    cases h with
    | @token _ t' _ _ head tail =>
      obtain ⟨ts', rest', rfl, hts, hrest⟩ := ih tail
      exact ⟨t' :: ts', rest', rfl, .cons head hts, hrest⟩

end Stream.Related

lemma halt_related (R : Token → Token → Prop) (start start' : Nat) (rest : List Char) :
    Stream.Related R (halt start rest) (halt start' rest) := by
  cases rest with
  | nil => exact .finished
  | cons c cs => exact .stray

/-! ### Tiles before the token -/

lemma Lexeme.of_stops {k : Option Kind} {w rest rest' : List Char} (h : Lexeme k w rest)
    (stop : Stops (joins k) rest') : Lexeme k w rest' := by
  cases k with
  | none =>
    cases h with
    | blanks ne all _ => exact .blanks ne all stop
  | some k => exact .of_shape h.shape stop

lemma Stops.of_append {p : Char → Bool} {us X : List Char} (h : Stops p (us ++ X)) (ne : us ≠ [])
    (Y : List Char) : Stops p (us ++ Y) := by
  obtain ⟨u, us, rfl⟩ := List.exists_cons_of_ne_nil ne
  exact h

namespace Tiling

lemma exists_first {cs X : List Char} {tiles : List Tile} (h : Tiling cs tiles X)
    (next : ∃ k w rest, X = w ++ rest ∧ Lexeme k w rest) :
    ∃ k w rest, cs = w ++ rest ∧ Lexeme k w rest := by
  cases h with
  | nil => exact next
  | cons lexeme tail => exact ⟨_, _, _, rfl, lexeme⟩

/-- The tiles before a lexeme stay, when what is there instead joins no lexeme that the old text
did not join. -/
lemma of_append {us X Y : List Char} {tiles : List Tile} (h : Tiling (us ++ X) tiles X)
    (next : ∃ k w rest, X = w ++ rest ∧ Lexeme k w rest)
    (stop : ∀ k, Stops (joins k) X → Stops (joins k) Y) : Tiling (us ++ Y) tiles Y := by
  obtain rfl : us = Tile.cover tiles := List.append_cancel_right h.eq_cover_append
  induction tiles with
  | nil => exact .nil
  | cons tile tiles ih =>
    rw [Tile.cover_cons, List.append_assoc] at h ⊢
    generalize hcs : tile.text ++ (Tile.cover tiles ++ X) = cs at h
    cases h with
    | @cons k w cs _ _ lexeme tail =>
      obtain rfl := List.append_cancel_left hcs
      obtain ⟨k', w', rest, hfirst, hnext⟩ := tail.exists_first next
      have hstop : Stops (joins k) (Tile.cover tiles ++ X) := by
        rw [hfirst] at lexeme ⊢
        exact lexeme.stops_of_next hnext
      -- only a lexeme with no tile between it and the new text has that text next to it
      have hstop' : Stops (joins k) (Tile.cover tiles ++ Y) := by
        by_cases hnil : Tile.cover tiles = []
        · rw [hnil] at hstop ⊢
          exact stop k hstop
        · exact hstop.of_append hnil Y
      exact .cons (lexeme.of_stops hstop') (ih tail)

end Tiling

/-! ### The tokens -/

/-- The tokens are the same word, or the one has the old text and the other the new one. -/
def Replaced (k : Kind) (old new : List Char) (t t' : Token) : Prop :=
  word t' = word t ∨ word t = ⟨k, old⟩ ∧ word t' = ⟨k, new⟩

lemma replaced_tokens (k : Kind) (old new : List Char) (start start' : Nat) (tiles : List Tile) :
    List.Forall₂ (Replaced k old new) (Tile.tokens start tiles) (Tile.tokens start' tiles) := by
  have hwords : (Tile.tokens start tiles).map word = (Tile.tokens start' tiles).map word := by
    rw [map_word_tokens, map_word_tokens]
  rw [← List.forall₂_eq_eq_eq, List.forall₂_map_left_iff, List.forall₂_map_right_iff] at hwords
  exact hwords.imp fun _ _ h => .inl h.symm

section

variable {a b w rest : List Char} {k : Kind} {before after : List Tile}

lemma exists_tiles_at (ht : ⟨k, String.ofList w, byteLength a⟩ ∈
      (Stream.ofText (String.ofList (a ++ (w ++ b)))).tokens) :
    ∃ before after rest, Tiling (a ++ (w ++ b)) before (w ++ b) ∧ Lexeme (some k) w b ∧
      Tiling b after rest ∧ NoLexeme rest := by
  obtain ⟨tiles, rest, htiles, hno⟩ := Tiling.exists_maximal (a ++ (w ++ b))
  rw [ofText_eq (by rwa [String.toList_ofList]) hno, Stream.tokens_prepend, tokens_halt,
    List.append_nil] at ht
  obtain ⟨before, after, hsplit, hoff⟩ := Tile.exists_of_mem_tokens ht
  simp only [String.toList_ofList, Nat.zero_add] at hsplit hoff
  subst hsplit
  obtain ⟨mid, hbefore, hafter⟩ := Tiling.append_iff.mp htiles
  obtain ⟨-, rfl⟩ := eq_of_byteLength_eq hbefore.eq_cover_append hoff
  generalize hmid : w ++ b = mid at hafter
  cases hafter with
  | cons lexeme tail =>
    obtain rfl := List.append_cancel_left hmid
    exact ⟨before, after, rest, hbefore, lexeme, tail, hno⟩

lemma ofText_eq_of_tiles_at (hbefore : Tiling (a ++ (w ++ b)) before (w ++ b))
    (lexeme : Lexeme (some k) w b) (hafter : Tiling b after rest) (hno : NoLexeme rest) :
    ∃ start finish, Stream.ofText (String.ofList (a ++ (w ++ b))) =
      Stream.prepend (Tile.tokens 0 before ++
        ⟨k, String.ofList w, byteLength (Tile.cover before)⟩ :: Tile.tokens start after)
        (halt finish rest) := by
  have htiles := Tiling.append_iff.mpr ⟨_, hbefore, .cons lexeme hafter⟩
  refine ⟨byteLength (Tile.cover before) + byteLength w,
    byteLength (Tile.cover (before ++ ⟨some k, w⟩ :: after)), ?_⟩
  rw [ofText_eq (by rwa [String.toList_ofList]) hno, Tile.tokens_append, Nat.zero_add, Tile.tokens]

end

/-- **A token is replaced without reach.** Between the same texts before and behind it, a lexeme in
the place of a token changes none of the other words. -/
theorem ofText_replace {a b old new : List Char} {k : Kind}
    (ht : ⟨k, String.ofList old, byteLength a⟩ ∈
      (Stream.ofText (String.ofList (a ++ (old ++ b)))).tokens)
    (lexeme : Lexeme (some k) new b)
    (stop : ∀ k, Stops (joins k) (old ++ b) → Stops (joins k) (new ++ b)) :
    Stream.Related (Replaced k old new) (Stream.ofText (String.ofList (a ++ (old ++ b))))
      (Stream.ofText (String.ofList (a ++ (new ++ b)))) := by
  obtain ⟨before, after, rest, hbefore, hold, hafter, hno⟩ := exists_tiles_at ht
  have hbefore' := hbefore.of_append ⟨_, old, b, rfl, hold⟩ stop
  obtain ⟨start, finish, hstream⟩ := ofText_eq_of_tiles_at hbefore hold hafter hno
  obtain ⟨start', finish', hstream'⟩ := ofText_eq_of_tiles_at hbefore' lexeme hafter hno
  rw [hstream, hstream']
  refine .prepend (List.rel_append (replaced_tokens _ _ _ 0 0 before) (.cons ?_ ?_))
    (halt_related _ finish finish' rest)
  · exact .inr ⟨by simp [word], by simp [word]⟩
  · exact replaced_tokens _ _ _ start start' after

/-! ### Dates -/

lemma joins_of_isDigit {k : Option Kind} {c d : Char} (hc : c.isDigit = true)
    (hd : d.isDigit = true) (h : joins k c = false) : joins k d = false := by
  have hword : isWord c = true := isWord_iff.mpr (.inr hc)
  rcases k with _ | k
  · have hblank := not_isBlank_of_isWord (isWord_iff.mpr (.inr hd))
    rwa [isBlank_eq] at hblank
  · cases k <;> simp_all [joins, Kind.isWord]

lemma stops_of_isDate {old new b : List Char} (hold : IsDate old) (hnew : IsDate new)
    (k : Option Kind) (h : Stops (joins k) (old ++ b)) : Stops (joins k) (new ++ b) := by
  obtain ⟨c, cs, rfl, hc⟩ := hold.head
  obtain ⟨d, ds, rfl, hd⟩ := hnew.head
  rw [List.cons_append, stops_cons] at h ⊢
  exact joins_of_isDigit hc hd h

lemma exists_split {text : String} {t : Token} (ht : t ∈ (Stream.ofText text).tokens) :
    ∃ a b, text.toList = a ++ (t.text.toList ++ b) ∧ t.offset = byteLength a := by
  obtain ⟨tiles, rest, htiles, hno⟩ := Tiling.exists_maximal text.toList
  rw [ofText_eq htiles hno, Stream.tokens_prepend, tokens_halt, List.append_nil] at ht
  obtain ⟨before, after, rfl, hoff⟩ := Tile.exists_of_mem_tokens ht
  refine ⟨Tile.cover before, Tile.cover after ++ rest, ?_, by rw [hoff, Nat.zero_add]⟩
  rw [htiles.eq_cover_append, Tile.cover_append, Tile.cover_cons, List.append_assoc,
    List.append_assoc]

end DocFilter.Token
