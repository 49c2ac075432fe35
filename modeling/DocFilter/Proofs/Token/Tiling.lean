import DocFilter.Proofs.Token.Pull

/-!
Tilings: a text cut from left to right into lexemes.

A text has at most one tiling. The scanner yields the tokens of the tiles, and stops where no tiling
goes on.
-/

namespace DocFilter.Token

open Text

/-- A lexeme that has been cut off, with its kind. -/
structure Tile where
  kind : Option Kind
  text : List Char

/-- `Tiling cs tiles rest`: the tiles are the lexemes from the front of `cs` up to `rest`. -/
inductive Tiling : List Char → List Tile → List Char → Prop
  | nil {rest} : Tiling rest [] rest
  | cons {k w cs tiles rest} (lexeme : Lexeme k w cs) (tail : Tiling cs tiles rest) :
      Tiling (w ++ cs) (⟨k, w⟩ :: tiles) rest

/-- No lexeme stands at the front of a text. -/
def NoLexeme (cs : List Char) : Prop := ∀ k w rest, cs = w ++ rest → ¬ Lexeme k w rest

/-- The characters of some tiles. -/
def Tile.cover (tiles : List Tile) : List Char := tiles.flatMap Tile.text

/-- The tokens of some tiles that start at a byte: blanks are none. -/
def Tile.tokens : Nat → List Tile → List Token
  | _, [] => []
  | start, ⟨none, w⟩ :: tiles => tokens (start + byteLength w) tiles
  | start, ⟨some k, w⟩ :: tiles =>
    ⟨k, String.ofList w, start⟩ :: tokens (start + byteLength w) tiles

lemma noLexeme_iff {cs : List Char} : NoLexeme cs ↔ Rule.first? Rule.table cs = none := by
  constructor
  · intro h
    by_contra hne
    obtain ⟨k, w, rest, heq, hlex⟩ := Rule.exists_lexeme hne
    exact h k w rest heq hlex
  · rintro h k w rest rfl hlex
    rw [Rule.first?_of_lexeme hlex] at h
    cases h

namespace Tiling

lemma eq_cover_append {cs rest : List Char} {tiles : List Tile} (h : Tiling cs tiles rest) :
    cs = Tile.cover tiles ++ rest := by
  induction h with
  | nil => rfl
  | cons _ _ ih => simp [Tile.cover, ih]

/-- Every text is tiled up to its end or to a place where no lexeme stands. -/
lemma exists_maximal (cs : List Char) : ∃ tiles rest, Tiling cs tiles rest ∧ NoLexeme rest := by
  -- by the length of the text, as no lexeme is empty
  induction hn : cs.length using Nat.strong_induction_on generalizing cs with
  | _ n ih =>
    by_cases h : NoLexeme cs
    · exact ⟨[], cs, nil, h⟩
    · obtain ⟨k, w, rest, rfl, hlex⟩ := Rule.exists_lexeme (fun hnone => h (noLexeme_iff.mpr hnone))
      have hshort : rest.length < n := by
        have := List.length_pos_iff.mpr hlex.ne_nil
        simp only [← hn, List.length_append]
        omega
      obtain ⟨tiles, rest', htiles, hno⟩ := ih _ hshort rest rfl
      exact ⟨⟨k, w⟩ :: tiles, rest', cons hlex htiles, hno⟩

lemma unique {cs rest rest' : List Char} {tiles tiles' : List Tile} (h : Tiling cs tiles rest)
    (h' : Tiling cs tiles' rest') (hr : NoLexeme rest) (hr' : NoLexeme rest') :
    tiles = tiles' ∧ rest = rest' := by
  induction h generalizing tiles' with
  | nil =>
    cases h' with
    | nil => exact ⟨rfl, rfl⟩
    | cons hlex _ => exact absurd hlex (hr _ _ _ rfl)
  | @cons k w cs tiles rest hlex htail ih =>
    generalize hcs : w ++ cs = cs' at h'
    cases h' with
    | nil => exact absurd hlex (hr' _ _ _ hcs.symm)
    | cons hlex' htail' =>
      obtain ⟨rfl, rfl, rfl⟩ := Rule.lexeme_unique hlex hlex' hcs
      obtain ⟨rfl, rfl⟩ := ih htail' hr
      exact ⟨rfl, rfl⟩

lemma scan_eq {cs rest : List Char} {tiles : List Tile} (h : Tiling cs tiles rest) (text : String)
    (start : Nat) : Stream.scan ⟨text, start, cs⟩ =
      Stream.prepend (Tile.tokens start tiles)
        (Stream.scan ⟨text, start + byteLength (Tile.cover tiles), rest⟩) := by
  induction h generalizing start with
  | nil => rfl
  | @cons k w cs tiles rest hlex _ ih =>
    have hbytes : byteLength (Tile.cover (⟨k, w⟩ :: tiles)) =
        byteLength w + byteLength (Tile.cover tiles) := by simp [Tile.cover]
    rw [hbytes, ← Nat.add_assoc]
    rcases k with _ | k
    · -- blanks yield no token
      rw [Stream.scan_congr (Scanner.pull_of_blanks hlex rfl), ih, Tile.tokens]
    · rw [Stream.scan_of_token (Scanner.pull_of_token hlex rfl), ih, Tile.tokens,
        Stream.prepend_cons]

end Tiling

/-- Where no lexeme stands the scanner is finished or meets a stray character. -/
def halt (start : Nat) : List Char → Stream
  | [] => .finished start
  | c :: _ => .stray ⟨c, start⟩

lemma tokens_halt (start : Nat) (rest : List Char) : (halt start rest).tokens = [] := by
  cases rest <;> rfl

lemma map_halt (f : Token → Token) (g : Nat → Nat) (start : Nat) (rest : List Char) :
    (halt start rest).map f g = halt (g start) rest := by
  cases rest <;> rfl

lemma scan_of_noLexeme {rest : List Char} (h : NoLexeme rest) (text : String) (start : Nat) :
    Stream.scan ⟨text, start, rest⟩ = halt start rest := by
  rcases rest with _ | ⟨c, cs⟩
  · exact Stream.scan_of_finished (Scanner.pull_of_nil rfl)
  · exact Stream.scan_of_stray (Scanner.pull_of_stray rfl (noLexeme_iff.mp h))

lemma ofText_eq {text : String} {tiles : List Tile} {rest : List Char}
    (h : Tiling text.toList tiles rest) (hr : NoLexeme rest) :
    Stream.ofText text = Stream.prepend (Tile.tokens 0 tiles)
      (halt (byteLength (Tile.cover tiles)) rest) := by
  have hscan := h.scan_eq text 0
  rw [scan_of_noLexeme hr, Nat.zero_add] at hscan
  exact hscan

lemma noLexeme_nil : NoLexeme [] := noLexeme_iff.mpr rfl

section

variable {s : String} {k : Kind}

lemma ofText_of_lexeme (h : Lexeme (some k) s.toList []) :
    Stream.ofText s = .prepend [⟨k, s, 0⟩] (.finished (byteLength s.toList)) := by
  have htiles : Tiling (s.toList ++ []) [⟨some k, s.toList⟩] [] := .cons h .nil
  rw [List.append_nil] at htiles
  rw [ofText_eq htiles noLexeme_nil]
  simp [Tile.tokens, Tile.cover, halt]

lemma tokenize_of_lexeme (h : Lexeme (some k) s.toList []) : tokenize s = .ok [⟨k, s, 0⟩] :=
  Stream.toList_eq_ok_iff.mpr ⟨_, ofText_of_lexeme h⟩

end

/-- **The scanner realises the lexical grammar.** The tokens of a query are those of its only
tiling; a query without tiling is refused at the first place, reached by tiling from the left,
where no lexeme stands. -/
theorem tokenize_iff_tiling (text : String) :
    (∀ ts, tokenize text = .ok ts ↔
      ∃ tiles, Tiling text.toList tiles [] ∧ Tile.tokens 0 tiles = ts) ∧
    (∀ tiles tiles', Tiling text.toList tiles [] → Tiling text.toList tiles' [] →
      tiles = tiles') ∧
    (∀ e, tokenize text = .error e ↔
      ∃ tiles c cs, Tiling text.toList tiles (c :: cs) ∧ NoLexeme (c :: cs) ∧
        e = ⟨c, byteLength (Tile.cover tiles)⟩) := by
  obtain ⟨tiles, rest, htiles, hno⟩ := Tiling.exists_maximal text.toList
  have htok : tokenize text = (halt (byteLength (Tile.cover tiles)) rest).toList.map
      (Tile.tokens 0 tiles ++ ·) := by
    rw [tokenize, ofText_eq htiles hno, Stream.toList_prepend]
  refine ⟨fun ts => ?_, fun _ _ h h' => (h.unique h' noLexeme_nil noLexeme_nil).1, fun e => ?_⟩
  · constructor
    · intro hok
      rcases rest with _ | ⟨c, cs⟩
      · refine ⟨tiles, htiles, ?_⟩
        simpa [htok, halt, Stream.toList, Except.map] using hok
      · simp [htok, halt, Stream.toList, Except.map] at hok
    · rintro ⟨tiles', htiles', rfl⟩
      obtain ⟨rfl, rfl⟩ := htiles.unique htiles' hno noLexeme_nil
      simp [htok, halt, Stream.toList, Except.map]
  · constructor
    · intro herr
      rcases rest with _ | ⟨c, cs⟩
      · simp [htok, halt, Stream.toList, Except.map] at herr
      · refine ⟨tiles, c, cs, htiles, hno, ?_⟩
        simpa [htok, halt, Stream.toList, Except.map] using herr.symm
    · rintro ⟨tiles', c, cs, htiles', hno', rfl⟩
      obtain ⟨rfl, rfl⟩ := htiles.unique htiles' hno hno'
      simp [htok, halt, Stream.toList, Except.map]

end DocFilter.Token
