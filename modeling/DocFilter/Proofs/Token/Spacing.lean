import DocFilter.Proofs.Token.Apart
import Mathlib.Data.List.Chain

/-!
Texts made of words with blanks around them. The scanner yields the words again, as long as of any
two neighbours one is a parenthesis or a comma.
-/

namespace DocFilter.Token

open Text

/-- The text of a token and its kind. -/
structure Word where
  kind : Kind
  text : List Char

/-- A token without the place where it stands. -/
def word (t : Token) : Word := ⟨t.kind, t.text.toList⟩

lemma word_eq_iff {t : Token} {k : Kind} {w : List Char} :
    word t = ⟨k, w⟩ ↔ t.kind = k ∧ t.text = String.ofList w := by
  rw [word, Word.mk.injEq, ← String.toList_inj, String.toList_ofList]

/-- The words of some tiles. -/
def Tile.words (tiles : List Tile) : List Word :=
  tiles.filterMap fun tile => tile.kind.map (⟨·, tile.text⟩)

lemma map_word_tokens (start : Nat) (tiles : List Tile) :
    (Tile.tokens start tiles).map word = Tile.words tiles := by
  induction tiles generalizing start with
  | nil => rfl
  | cons tile tiles ih =>
    rcases tile with ⟨_ | k, w⟩
    · exact ih _
    · have htail := ih (start + byteLength w)
      simp only [Tile.tokens, Tile.words, List.map_cons, List.filterMap_cons,
        Option.map_some] at htail ⊢
      rw [htail, word, String.toList_ofList]

/-- Words with blanks before, between and after them. A gap may be empty. -/
inductive Spaced : List Word → List Char → Prop
  | nil {gap : List Char} (blank : ∀ c ∈ gap, c ∈ blanks) : Spaced [] gap
  | cons {gap rest : List Char} {w : Word} {ws : List Word} (blank : ∀ c ∈ gap, c ∈ blanks)
      (tail : Spaced ws rest) : Spaced (w :: ws) (gap ++ (w.text ++ rest))

lemma spaced_flatMap (ws : List Word) : Spaced ws (ws.flatMap Word.text) := by
  induction ws with
  | nil => exact .nil (List.forall_mem_nil _)
  | cons w ws ih => exact .cons (List.forall_mem_nil _) ih

/-- A parenthesis or a comma. -/
def Kind.isDelimiter : Kind → Bool
  | openParen | closeParen | comma => true
  | _ => false

/-- One of the words is a delimiter. -/
def Word.Apart (v w : Word) : Prop := v.kind.isDelimiter = true ∨ w.kind.isDelimiter = true

/-- The text has the shape of the kind. -/
def Word.Proper (w : Word) : Prop := w.kind.Shape w.text

/-- The words can be told apart, whatever blanks stand between them. -/
structure Legible (ws : List Word) : Prop where
  proper : ∀ w ∈ ws, w.Proper
  apart : ws.IsChain Word.Apart

lemma legible_nil : Legible [] := ⟨List.forall_mem_nil _, .nil⟩

lemma legible_singleton {w : Word} (h : w.Proper) : Legible [w] :=
  ⟨List.forall_mem_singleton.mpr h, .singleton w⟩

lemma Legible.delimit {ws us : List Word} {d : Word} (h : Legible ws) (h' : Legible us)
    (proper : d.Proper) (delimiter : d.kind.isDelimiter = true) : Legible (ws ++ d :: us) := by
  refine ⟨?_, ?_⟩
  · rw [List.forall_mem_append, List.forall_mem_cons]
    exact ⟨h.proper, proper, h'.proper⟩
  · rw [List.isChain_append, List.isChain_cons]
    refine ⟨h.apart, ⟨fun w _ => .inl delimiter, h'.apart⟩, fun v _ w hw => ?_⟩
    obtain rfl := Option.some.inj hw
    exact .inr delimiter

/-! ### Gaps -/

lemma joins_of_mem_blanks {k : Kind} {c : Char} (h : c ∈ blanks) : joins (some k) c = false := by
  have hword : isWord c = false := by
    by_contra hw
    have hblank := not_isBlank_of_isWord (Bool.of_not_eq_false hw)
    rw [isBlank_iff.mpr h] at hblank
    cases hblank
  have hdigit : c.isDigit = false := by
    by_contra hd
    rw [isWord_iff.mpr (.inr (Bool.of_not_eq_false hd))] at hword
    cases hword
  have hdash : c ≠ '-' := by
    rintro rfl
    exact absurd h (by decide)
  cases k <;> simp [joins, hdigit, hdash, hword]

lemma stops_of_isDelimiter {k : Kind} (h : k.isDelimiter = true) (rest : List Char) :
    Stops (joins (some k)) rest := by
  intro c _
  cases k <;> first | rfl | cases h

lemma Word.Proper.stops {w : Word} (h : w.Proper) (hw : w.kind.isDelimiter = true) (k : Kind)
    (rest : List Char) : Stops (joins (some k)) (w.text ++ rest) := by
  obtain ⟨kind, text⟩ := w
  have hjoins : joins (some k) '(' = false ∧ joins (some k) ')' = false ∧
      joins (some k) ',' = false := by cases k <;> decide
  cases kind with
  | openParen =>
    obtain rfl : text = ['('] := h
    exact stops_cons.mpr hjoins.1
  | closeParen =>
    obtain rfl : text = [')'] := h
    exact stops_cons.mpr hjoins.2.1
  | comma =>
    obtain rfl : text = [','] := h
    exact stops_cons.mpr hjoins.2.2
  | _ => cases hw

lemma Spaced.stops {ws : List Word} {cs : List Char} (h : Spaced ws cs)
    (proper : ∀ w ∈ ws, w.Proper) {v : Word} (apart : ∀ w ∈ ws.head?, v.Apart w) :
    Stops (joins (some v.kind)) cs := by
  cases h with
  | nil blank =>
    intro c hc
    exact joins_of_mem_blanks (blank c (List.mem_of_mem_head? hc))
  | @cons gap rest w ws blank tail =>
    rcases gap with _ | ⟨c, gap⟩
    · rcases apart w rfl with hv | hw
      · exact stops_of_isDelimiter hv _
      · exact (proper w List.mem_cons_self).stops hw _ _
    · exact stops_cons.mpr (joins_of_mem_blanks (blank c List.mem_cons_self))

lemma stops_blanks_of_lexeme {k : Kind} {w rest : List Char} (h : Lexeme (some k) w rest) :
    Stops (· ∈ blanks) (w ++ rest) := by
  intro c hc
  by_contra hblank
  obtain ⟨cs, hcs⟩ := List.head?_eq_some_iff.mp hc
  obtain ⟨gap, rest', rfl, hgap, hstop⟩ := Rule.exists_run (· ∈ blanks) cs
  have hall : ∀ d ∈ c :: gap, d ∈ blanks := by
    rw [List.forall_mem_cons]
    exact ⟨by simpa using hblank, fun d hd => by simpa using hgap d hd⟩
  -- the blanks would be another lexeme at the same place
  have hlex : Lexeme none (c :: gap) rest' := .blanks (List.cons_ne_nil c gap) hall hstop
  cases (Rule.lexeme_unique h hlex hcs).1

lemma Tiling.exists_of_gap {gap cs : List Char} {tiles : List Tile}
    (blank : ∀ c ∈ gap, c ∈ blanks) (stop : Stops (· ∈ blanks) cs) (h : Tiling cs tiles []) :
    ∃ tiles', Tiling (gap ++ cs) tiles' [] ∧ Tile.words tiles' = Tile.words tiles := by
  rcases gap with _ | ⟨c, gap⟩
  · exact ⟨tiles, h, rfl⟩
  · exact ⟨_, .cons (.blanks (List.cons_ne_nil c gap) blank stop) h, rfl⟩

/-! ### Words -/

/-- **Legible words are the tiles of the text.** -/
theorem Spaced.exists_tiling {ws : List Word} {cs : List Char} (h : Spaced ws cs)
    (legible : Legible ws) : ∃ tiles, Tiling cs tiles [] ∧ Tile.words tiles = ws := by
  obtain ⟨proper, apart⟩ := legible
  induction h with
  | nil blank =>
    obtain ⟨tiles, htiles, hwords⟩ := Tiling.exists_of_gap blank (stops_nil _) .nil
    rw [List.append_nil] at htiles
    exact ⟨tiles, htiles, hwords⟩
  | @cons gap rest w ws blank tail ih =>
    rw [List.forall_mem_cons] at proper
    rw [List.isChain_cons] at apart
    obtain ⟨tiles, htiles, hwords⟩ := ih proper.2 apart.2
    have hlex : Lexeme (some w.kind) w.text rest :=
      .of_shape proper.1 (tail.stops proper.2 apart.1)
    obtain ⟨tiles', htiles', hwords'⟩ :=
      Tiling.exists_of_gap blank (stops_blanks_of_lexeme hlex) (.cons hlex htiles)
    refine ⟨tiles', htiles', ?_⟩
    rw [hwords', ← hwords]
    rfl

lemma tokenize_of_spaced {ws : List Word} {text : String} (h : Spaced ws text.toList)
    (legible : Legible ws) : ∃ ts, tokenize text = .ok ts ∧ ts.map word = ws := by
  obtain ⟨tiles, htiles, hwords⟩ := h.exists_tiling legible
  refine ⟨Tile.tokens 0 tiles, ?_, (map_word_tokens 0 tiles).trans hwords⟩
  rw [tokenize, ofText_eq htiles noLexeme_nil]
  exact Stream.toList_eq_ok_iff.mpr ⟨_, rfl⟩

/-! ### No words -/

lemma Tiling.forall_mem_blanks {cs rest : List Char} {tiles : List Tile} {start : Nat}
    (h : Tiling cs tiles rest) (hnone : Tile.tokens start tiles = []) :
    ∀ c ∈ Tile.cover tiles, c ∈ blanks := by
  induction h generalizing start with
  | nil => simp [Tile.cover]
  | @cons k w cs tiles rest lexeme _ ih =>
    cases lexeme with
    | blanks ne all stop =>
      intro c hc
      rcases List.mem_append.mp hc with hw | htail
      · exact all c hw
      · exact ih hnone c htail
    | _ => cases hnone

lemma ofText_eq_finished_iff {text : String} :
    (∃ p, Stream.ofText text = .finished p) ↔ ∀ c ∈ text.toList, c ∈ blanks := by
  constructor
  · rintro ⟨p, hp⟩
    obtain ⟨tiles, rest, htiles, hno⟩ := Tiling.exists_maximal text.toList
    rw [ofText_eq htiles hno] at hp
    cases htokens : Tile.tokens 0 tiles with
    | cons t ts => rw [htokens] at hp; cases hp
    | nil =>
      rw [htokens] at hp
      cases rest with
      | cons c cs => cases hp
      | nil =>
        rw [htiles.eq_cover_append, List.append_nil]
        exact htiles.forall_mem_blanks htokens
  · intro hblank
    obtain ⟨tiles, htiles, hwords⟩ := (Spaced.nil hblank).exists_tiling legible_nil
    have htokens : Tile.tokens 0 tiles = [] := by
      rw [← List.map_eq_nil_iff (f := word), map_word_tokens, hwords]
    rw [ofText_eq htiles noLexeme_nil, htokens]
    exact ⟨_, rfl⟩

end DocFilter.Token
