import DocFilter.Proofs.Token.Tiling

/-!
What the text of a scanned token looks like, by its kind.
-/

namespace DocFilter.Token

/-- What the text of a token of a kind looks like. -/
def Kind.Shape (w : List Char) : Kind → Prop
  | number => w ≠ [] ∧ ∀ d ∈ w, d.isDigit = true
  | string => ∃ q body, (q = '"' ∨ q = '\'') ∧ q ∉ body ∧ w = q :: (body ++ [q])
  | boolean => String.ofList w ∈ ["true", "false"]
  | date => IsDate w
  | openParen => w = ['(']
  | closeParen => w = [')']
  | comma => w = [',']
  | relationalOperator => String.ofList w ∈ ["eq", "ne", "gt", "ge", "lt", "le"]
  | logicalOperator => String.ofList w ∈ ["and", "or"]
  | identifier => ∃ c cs, w = c :: cs ∧ (c.isAlpha = true ∨ c = '_') ∧
      (∀ d ∈ cs, Text.isWord d = true) ∧ wordKind w = identifier

/-- The text has the shape of its kind. -/
def Lexical (t : Token) : Prop := t.kind.Shape t.text.toList

lemma Lexeme.shape {k : Kind} {w rest : List Char} (h : Lexeme (some k) w rest) : k.Shape w := by
  generalize hk : some k = k' at h
  cases h with
  | blanks => cases hk
  | openParen => cases hk; rfl
  | closeParen => cases hk; rfl
  | comma => cases hk; rfl
  | date date => cases hk; exact date
  | number ne all => cases hk; exact ⟨ne, all⟩
  | string quote inner => cases hk; exact ⟨_, _, quote, inner, rfl⟩
  | @word c cs _ first all =>
    obtain rfl : k = wordKind (c :: cs) := Option.some.inj hk
    by_cases hident : wordKind (c :: cs) = .identifier
    · rw [hident]
      exact ⟨c, cs, rfl, first, all, hident⟩
    · revert hident
      unfold wordKind
      split_ifs <;> simp_all [Kind.Shape]

lemma Tiling.lexical {cs rest : List Char} {tiles : List Tile} (h : Tiling cs tiles rest)
    (start : Nat) : ∀ t ∈ Tile.tokens start tiles, t.Lexical := by
  induction h generalizing start with
  | nil => simp [Tile.tokens]
  | @cons k w cs tiles rest hlex _ ih =>
    rcases k with _ | k
    · exact ih _
    · exact List.forall_mem_cons.mpr ⟨by simpa [Lexical] using hlex.shape, ih _⟩

lemma lexical_of_mem_ofText {text : String} {t : Token} (h : t ∈ (Stream.ofText text).tokens) :
    t.Lexical := by
  obtain ⟨tiles, rest, htiles, hno⟩ := Tiling.exists_maximal text.toList
  rw [ofText_eq htiles hno, Stream.tokens_prepend, tokens_halt, List.append_nil] at h
  exact htiles.lexical 0 t h

lemma lexical_of_prepend {text : String} {ts : List Token} {rest : Stream}
    (h : Stream.ofText text = .prepend ts rest) : ∀ t ∈ ts, t.Lexical :=
  fun _ ht => lexical_of_mem_ofText (Stream.mem_tokens_of_prepend h ht)

end DocFilter.Token
