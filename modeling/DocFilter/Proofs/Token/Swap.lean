import DocFilter.Proofs.Token.Lexical
import DocFilter.Proofs.Token.Offset

/-!
Other contents between the quotes of a string token: the scanner yields the same tokens, with that
token's text replaced and all that comes behind it moved.
-/

namespace DocFilter.Token

open Text

/-- A text with two quotes in it, and contents between them. -/
def quoting (front : List Char) (quote : Char) (contents back : List Char) : String :=
  String.ofList (front ++ quote :: (contents ++ quote :: back))

/-- The token that starts at a byte, with quotes around its contents, and contents to put in their
place. -/
structure Swap where
  start : Nat
  quote : Char
  old : List Char
  new : List Char

namespace Swap

/-- A position in the text with the new contents. -/
def position (w : Swap) (p : Nat) : Nat :=
  if w.start < p then p + byteLength w.new - byteLength w.old else p

/-- A token of the text with the new contents. -/
def token (w : Swap) (t : Token) : Token where
  kind := t.kind
  text := if t.offset = w.start then String.ofList (w.quote :: (w.new ++ [w.quote])) else t.text
  offset := w.position t.offset

lemma position_add (w : Swap) {p : Nat} (h : w.start < p) :
    w.position (p + byteLength w.old) = p + byteLength w.new := by
  unfold position
  rw [if_pos (by omega)]
  omega

lemma token_of_lt {w : Swap} {t : Token} (h : t.offset < w.start) : w.token t = t := by
  unfold token position
  rw [if_neg (by omega), if_neg (by omega)]

lemma token_of_gt {w : Swap} {t : Token} (h : w.start < t.offset) :
    w.token t = { t with offset := w.position t.offset } := by
  unfold token
  rw [if_neg (by omega)]

lemma text_token {w : Swap} {t : Token} (h : t.offset ≠ w.start) : (w.token t).text = t.text :=
  if_neg h

end Swap

section

variable {a c s : List Char} {q : Char} {t : Token}

lemma toList_quoting : (quoting a q c s).toList = a ++ q :: (c ++ q :: s) := String.toList_ofList

lemma exists_tiles_around (hq : q = '"' ∨ q = '\'') (hc : q ∉ c)
    (ht : t ∈ (Stream.ofText (quoting a q c s)).tokens) (offset : t.offset = byteLength a) :
    ∃ before after rest,
      Tiling (a ++ q :: (c ++ q :: s)) before (q :: (c ++ q :: s)) ∧ Tile.cover before = a ∧
      Tiling s after rest ∧ NoLexeme rest := by
  obtain ⟨tiles, rest, htiles, hno⟩ := Tiling.exists_maximal (a ++ q :: (c ++ q :: s))
  rw [ofText_eq (toList_quoting ▸ htiles) hno, Stream.tokens_prepend, tokens_halt,
    List.append_nil] at ht
  obtain ⟨before, after, rfl, hoff⟩ := Tile.exists_of_mem_tokens ht
  obtain ⟨mid, hbefore, hafter⟩ := Tiling.append_iff.mp htiles
  obtain ⟨hcover, rfl⟩ := eq_of_byteLength_eq hbefore.eq_cover_append (by omega)
  have hcut : q :: (c ++ q :: s) = q :: (c ++ [q]) ++ s := by simp
  generalize hmid : q :: (c ++ q :: s) = mid at hafter
  cases hafter with
  | cons lexeme tail =>
    -- the tile at the quote is the string, which ends at the next quote
    have hstring : Lexeme (some .string) (q :: (c ++ [q])) s := .string hq hc
    obtain ⟨-, -, rfl⟩ := Rule.lexeme_unique hstring lexeme (hcut.symm.trans hmid)
    exact ⟨before, after, rest, hmid ▸ hbefore, hcover.symm, tail, hno⟩

lemma ofText_eq_of_tiles {rest : List Char} {before after : List Tile}
    (hq : q = '"' ∨ q = '\'') (hc : q ∉ c)
    (hbefore : Tiling (a ++ q :: (c ++ q :: s)) before (q :: (c ++ q :: s)))
    (hcover : Tile.cover before = a) (hafter : Tiling s after rest) (hno : NoLexeme rest) :
    Stream.ofText (quoting a q c s) =
      Stream.prepend (Tile.tokens 0 before ++
        ⟨.string, String.ofList (q :: (c ++ [q])), byteLength a⟩ ::
          Tile.tokens (byteLength a + 2 + byteLength c) after)
        (halt (byteLength a + 2 + byteLength c + byteLength (Tile.cover after)) rest) := by
  have hcut : q :: (c ++ q :: s) = q :: (c ++ [q]) ++ s := by simp
  have hbytes : byteLength (q :: (c ++ [q])) = 2 + byteLength c := by
    have hsize : q.utf8Size = 1 := by rcases hq with rfl | rfl <;> rfl
    simp only [byteLength_append, byteLength_cons, byteLength_nil, hsize]
    omega
  have hstring : Tiling (q :: (c ++ q :: s)) (⟨some .string, q :: (c ++ [q])⟩ :: after) rest :=
    hcut ▸ .cons (.string hq hc) hafter
  have htiles := Tiling.append_iff.mpr ⟨_, hbefore, hstring⟩
  have hend : byteLength a + (2 + byteLength c + byteLength (Tile.cover after)) =
      byteLength a + 2 + byteLength c + byteLength (Tile.cover after) := by omega
  rw [ofText_eq (toList_quoting ▸ htiles) hno, Tile.tokens_append, Tile.cover_append,
    Tile.cover_cons, hcover, Nat.zero_add, Tile.tokens, byteLength_append, byteLength_append,
    hbytes, hend, Nat.add_assoc (byteLength a) 2 (byteLength c)]

lemma eq_of_offset (hq : q = '"' ∨ q = '\'') (hc : q ∉ c)
    (ht : t ∈ (Stream.ofText (quoting a q c s)).tokens) (offset : t.offset = byteLength a) :
    t = ⟨.string, String.ofList (q :: (c ++ [q])), byteLength a⟩ := by
  obtain ⟨before, after, rest, hbefore, hcover, hafter, hno⟩ := exists_tiles_around hq hc ht offset
  refine eq_of_offset_eq ht ?_ offset
  rw [ofText_eq_of_tiles hq hc hbefore hcover hafter hno, Stream.tokens_prepend]
  simp

end

/-- **Contents do not reach the tokens around them.** With other contents the scanner yields the
same tokens, but for the text of the one token and the positions behind it. -/
theorem ofText_swap {a s c c' : List Char} {q : Char} {t : Token} (hq : q = '"' ∨ q = '\'')
    (hc : q ∉ c) (hc' : q ∉ c') (ht : t ∈ (Stream.ofText (quoting a q c s)).tokens)
    (offset : t.offset = byteLength a) :
    Stream.ofText (quoting a q c' s) = (Stream.ofText (quoting a q c s)).map
      (Swap.token ⟨byteLength a, q, c, c'⟩) (Swap.position ⟨byteLength a, q, c, c'⟩) := by
  obtain ⟨before, after, rest, hbefore, hcover, hafter, hno⟩ :=
    exists_tiles_around hq hc ht offset
  have hbefore' := hbefore.of_append_cons hq (c' ++ q :: s)
  rw [ofText_eq_of_tiles hq hc hbefore hcover hafter hno,
    ofText_eq_of_tiles hq hc' hbefore' hcover hafter hno, Stream.map_prepend, map_halt]
  generalize hw : (⟨byteLength a, q, c, c'⟩ : Swap) = w
  -- what is behind the contents moves by the difference of their lengths
  have hmove : ∀ x, w.position (byteLength a + 2 + byteLength c + x) =
      byteLength a + 2 + byteLength c' + x := by
    intro x
    have hbehind : w.start < byteLength a + 2 + x := by
      subst hw
      simp only
      omega
    calc w.position (byteLength a + 2 + byteLength c + x)
        = w.position (byteLength a + 2 + x + byteLength w.old) := by
          rw [Nat.add_right_comm, ← hw]
      _ = byteLength a + 2 + x + byteLength w.new := w.position_add hbehind
      _ = byteLength a + 2 + byteLength c' + x := by rw [Nat.add_right_comm, ← hw]
  have hfront : (Tile.tokens 0 before).map w.token = Tile.tokens 0 before := by
    refine (List.map_congr_left fun u hu => Swap.token_of_lt ?_).trans (List.map_id _)
    have := (hbefore.offset_lt hu).2
    rw [hcover] at this
    subst hw
    simpa using this
  have hmiddle : w.token ⟨.string, String.ofList (q :: (c ++ [q])), byteLength a⟩ =
      ⟨.string, String.ofList (q :: (c' ++ [q])), byteLength a⟩ := by
    subst hw
    simp [Swap.token, Swap.position]
  have hback : (Tile.tokens (byteLength a + 2 + byteLength c) after).map w.token =
      Tile.tokens (byteLength a + 2 + byteLength c') after := by
    rw [Tile.tokens_eq_map hmove]
    refine List.map_congr_left fun u hu => Swap.token_of_gt ?_
    have := (hafter.offset_lt hu).1
    subst hw
    simp only
    omega
  rw [List.map_append, List.map_cons, hfront, hmiddle, hback, hmove]

end DocFilter.Token
