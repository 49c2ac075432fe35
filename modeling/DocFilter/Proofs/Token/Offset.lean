import DocFilter.Proofs.Token.Locality

/-!
Where tokens start: the tokens of some tiles by the byte at which the first tile starts.
-/

namespace DocFilter.Token

open Text

lemma byteLength_pos {cs : List Char} (h : cs ≠ []) : 0 < byteLength cs := by
  obtain ⟨c, cs, rfl⟩ := List.exists_cons_of_ne_nil h
  have := c.utf8Size_pos
  rw [byteLength_cons]
  omega

lemma eq_of_byteLength_eq {us vs X Y : List Char} (h : us ++ X = vs ++ Y)
    (hlen : byteLength us = byteLength vs) : us = vs ∧ X = Y := by
  have hnil : ∀ ws : List Char, byteLength ws = 0 → ws = [] := fun ws hws => by
    by_contra hne
    have := byteLength_pos hne
    omega
  rcases List.append_eq_append_iff.mp h with ⟨ws, rfl, rfl⟩ | ⟨ws, rfl, rfl⟩
  · rw [byteLength_append] at hlen
    obtain rfl := hnil ws (by omega)
    simp
  · rw [byteLength_append] at hlen
    obtain rfl := hnil ws (by omega)
    simp

namespace Tile

lemma cover_append (tiles tiles' : List Tile) :
    cover (tiles ++ tiles') = cover tiles ++ cover tiles' := List.flatMap_append

lemma cover_cons (tile : Tile) (tiles : List Tile) :
    cover (tile :: tiles) = tile.text ++ cover tiles := List.flatMap_cons

lemma tokens_append (start : Nat) (tiles tiles' : List Tile) :
    tokens start (tiles ++ tiles') =
      tokens start tiles ++ tokens (start + byteLength (cover tiles)) tiles' := by
  induction tiles generalizing start with
  | nil => rfl
  | cons tile tiles ih =>
    rcases tile with ⟨_ | k, w⟩ <;>
      simp [tokens, ih, cover_cons, Nat.add_assoc]

lemma tokens_eq_map {f : Nat → Nat} {start start' : Nat} (h : ∀ x, f (start + x) = start' + x)
    (tiles : List Tile) :
    tokens start' tiles = (tokens start tiles).map fun t => { t with offset := f t.offset } := by
  induction tiles generalizing start start' with
  | nil => rfl
  | cons tile tiles ih =>
    have hmove : ∀ x, f (start + byteLength tile.text + x) = start' + byteLength tile.text + x := by
      simpa [Nat.add_assoc] using fun x => h (byteLength tile.text + x)
    have htail := ih hmove
    rcases tile with ⟨_ | k, w⟩
    · exact htail
    · have hhead := h 0
      rw [Nat.add_zero, Nat.add_zero] at hhead
      rw [tokens, tokens, htail, List.map_cons, hhead]

lemma exists_of_mem_tokens {start : Nat} {tiles : List Tile} {t : Token}
    (h : t ∈ tokens start tiles) :
    ∃ before after, tiles = before ++ ⟨some t.kind, t.text.toList⟩ :: after ∧
      t.offset = start + byteLength (cover before) := by
  induction tiles generalizing start with
  | nil => cases h
  | cons tile tiles ih =>
    have hlater : t ∈ tokens (start + byteLength tile.text) tiles →
        ∃ before after, tile :: tiles = before ++ ⟨some t.kind, t.text.toList⟩ :: after ∧
          t.offset = start + byteLength (cover before) := by
      intro hmem
      obtain ⟨before, after, rfl, hoff⟩ := ih hmem
      exact ⟨tile :: before, after, rfl, by simp [cover_cons, hoff, Nat.add_assoc]⟩
    rcases tile with ⟨_ | k, w⟩
    · exact hlater h
    · rcases List.mem_cons.mp h with rfl | hmem
      · exact ⟨[], tiles, by simp, by simp [cover]⟩
      · exact hlater hmem

end Tile

namespace Tiling

variable {cs rest : List Char} {tiles : List Tile} {start : Nat} {t : Token}

lemma offset_lt (h : Tiling cs tiles rest) (ht : t ∈ Tile.tokens start tiles) :
    start ≤ t.offset ∧ t.offset < start + byteLength (Tile.cover tiles) := by
  obtain ⟨before, after, rfl, hoff⟩ := Tile.exists_of_mem_tokens ht
  obtain ⟨mid, -, htail⟩ := append_iff.mp h
  cases htail with
  | cons lexeme _ =>
    have hpos := byteLength_pos lexeme.ne_nil
    simp only [Tile.cover_append, Tile.cover_cons, byteLength_append]
    omega

lemma pairwise_offset (h : Tiling cs tiles rest) :
    (Tile.tokens start tiles).Pairwise (·.offset < ·.offset) := by
  induction h generalizing start with
  | nil => exact List.Pairwise.nil
  | @cons k w cs tiles rest lexeme tail ih =>
    rcases k with _ | k
    · exact ih
    · refine List.pairwise_cons.mpr ⟨fun t ht => ?_, ih⟩
      have hpos := byteLength_pos lexeme.ne_nil
      have hle := (tail.offset_lt ht).1
      simp only
      omega

end Tiling

lemma pairwise_offset_ofText (text : String) :
    (Stream.ofText text).tokens.Pairwise (·.offset < ·.offset) := by
  obtain ⟨tiles, rest, htiles, hno⟩ := Tiling.exists_maximal text.toList
  rw [ofText_eq htiles hno, Stream.tokens_prepend, tokens_halt, List.append_nil]
  exact htiles.pairwise_offset

lemma eq_of_offset_eq {text : String} {t u : Token} (ht : t ∈ (Stream.ofText text).tokens)
    (hu : u ∈ (Stream.ofText text).tokens) (h : t.offset = u.offset) : t = u := by
  obtain ⟨i, hi, rfl⟩ := List.getElem_of_mem ht
  obtain ⟨j, hj, rfl⟩ := List.getElem_of_mem hu
  have hpair := List.pairwise_iff_getElem.mp (pairwise_offset_ofText text)
  rcases Nat.lt_trichotomy i j with hlt | rfl | hlt
  · have := hpair i j hi hj hlt
    omega
  · rfl
  · have := hpair j i hj hi hlt
    omega

end DocFilter.Token
