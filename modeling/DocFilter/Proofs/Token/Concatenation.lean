import DocFilter.Proofs.Text.Boundary
import DocFilter.Proofs.Token.Replace

/-!
Texts one behind the other with blanks between them: the scanner yields the tokens of the first
text and then those of the second, so many bytes further on.
-/

namespace DocFilter.Token

open Text

/-- A token some bytes further on. -/
def shift (n : Nat) (t : Token) : Token := { t with offset := t.offset + n }

/-- A stray character some bytes further on. -/
def Stray.shift (n : Nat) (e : Stray) : Stray := { e with position := e.position + n }

/-- What a scanner yields some bytes further on. -/
def Stream.shift (n : Nat) (stream : Stream) : Stream := stream.map (Token.shift n) (· + n)

/-- What a scanner yields depends on what it has still to scan, and moves with it. -/
lemma scan_shift (text text' : String) (start n : Nat) (cs : List Char) :
    Stream.scan ⟨text', start + n, cs⟩ = (Stream.scan ⟨text, start, cs⟩).shift n := by
  obtain ⟨tiles, rest, htiles, hno⟩ := Tiling.exists_maximal cs
  have hmove : ∀ x, start + x + n = start + n + x := fun x => Nat.add_right_comm start x n
  have htokens := Tile.tokens_eq_map (f := (· + n)) hmove tiles
  rw [htiles.scan_eq, htiles.scan_eq, scan_of_noLexeme hno, scan_of_noLexeme hno, Stream.shift,
    Stream.map_prepend, map_halt, hmove, htokens]
  rfl

/-! ### Behind a whole text -/

/-- A lexeme of a whole text stays one when blanks follow the text. Only blanks at its end grow. -/
lemma Tiling.stops_append {cs : List Char} {tiles : List Tile} {k : Option Kind} {v w : List Char}
    (tail : Tiling cs tiles []) (lexeme : Lexeme k v cs) (hk : cs = [] → k ≠ none) (ne : w ≠ [])
    (blank : ∀ c ∈ w, c ∈ blanks) (b : List Char) : Stops (joins k) (cs ++ (w ++ b)) := by
  cases tail with
  | nil =>
    obtain ⟨k, rfl⟩ := Option.ne_none_iff_exists'.mp (hk rfl)
    obtain ⟨c, w, rfl⟩ := List.exists_cons_of_ne_nil ne
    exact stops_cons.mpr (joins_of_mem_blanks (blank c List.mem_cons_self))
  | @cons k' v' cs tiles _ next tail =>
    have hstop := lexeme.stops_of_next next
    rw [← List.append_nil (v' ++ cs)] at hstop
    exact hstop.of_append (List.append_ne_nil_of_left_ne_nil next.ne_nil _) _

lemma Tiling.scan_append {cs rest : List Char} {tiles : List Tile} (h : Tiling cs tiles rest)
    (hrest : rest = []) {w b : List Char} (ne : w ≠ []) (blank : ∀ c ∈ w, c ∈ blanks)
    (stop : Stops (· ∈ blanks) b) (text : String) (start : Nat) :
    Stream.scan ⟨text, start, cs ++ (w ++ b)⟩ = .prepend (Tile.tokens start tiles)
      (Stream.scan ⟨text, start + byteLength (cs ++ w), b⟩) := by
  induction h generalizing start with
  | nil =>
    subst hrest
    exact Stream.scan_congr (Scanner.pull_of_blanks (.blanks ne blank stop) rfl)
  | @cons k v cs tiles rest lexeme tail ih =>
    subst hrest
    have htail := ih rfl (start + byteLength v)
    rw [Nat.add_assoc, ← byteLength_append, ← List.append_assoc v] at htail
    by_cases hend : cs = [] ∧ k = none
    · -- the blanks at the end of the text and those behind it are one lexeme
      obtain ⟨rfl, rfl⟩ := hend
      obtain ⟨rfl, -⟩ := tail.unique .nil noLexeme_nil noLexeme_nil
      cases lexeme with
      | blanks _ all =>
        have hall : ∀ c ∈ v ++ w, c ∈ blanks := List.forall_mem_append.mpr ⟨all, blank⟩
        have hpull := Scanner.pull_of_blanks (s := ⟨text, start, v ++ [] ++ (w ++ b)⟩)
          (.blanks (List.append_ne_nil_of_right_ne_nil v ne) hall stop) (by simp)
        rw [Stream.scan_congr hpull, List.append_nil]
        rfl
    · have hk : cs = [] → k ≠ none := fun hcs hk => hend ⟨hcs, hk⟩
      have hlexeme := lexeme.of_stops (tail.stops_append lexeme hk ne blank b)
      rw [List.append_assoc v]
      rcases k with _ | k
      · rw [Stream.scan_congr (Scanner.pull_of_blanks hlexeme rfl), htail, Tile.tokens]
      · rw [Stream.scan_of_token (Scanner.pull_of_token hlexeme rfl), htail, Tile.tokens,
          Stream.prepend_cons]

lemma exists_tiling_of_tokenize {text : String} {ts : List Token} (h : tokenize text = .ok ts) :
    ∃ tiles, Tiling text.toList tiles [] ∧ Tile.tokens 0 tiles = ts := by
  obtain ⟨tiles, rest, htiles, hno⟩ := Tiling.exists_maximal text.toList
  rw [tokenize, ofText_eq htiles hno, Stream.toList_prepend] at h
  cases rest with
  | cons c cs => cases h
  | nil =>
    have htokens : Tile.tokens 0 tiles ++ [] = ts := Except.ok.inj h
    rw [List.append_nil] at htokens
    exact ⟨tiles, htiles, htokens⟩

/-- **Blanks keep texts apart.** Behind a text that is tokens throughout, and blanks, the scanner
yields what it yields for the other text alone, so many bytes further on. -/
theorem ofText_append {a w b : String} {ts : List Token} (h : tokenize a = .ok ts) (ne : w ≠ "")
    (blank : ∀ c ∈ w.toList, c ∈ blanks) : Stream.ofText (a ++ w ++ b) =
      .prepend ts ((Stream.ofText b).shift (a.utf8ByteSize + w.utf8ByteSize)) := by
  obtain ⟨tiles, htiles, rfl⟩ := exists_tiling_of_tokenize h
  obtain ⟨gap, rest, hsplit, hgap, hstop⟩ := Rule.exists_run (· ∈ blanks) b.toList
  have hgap : ∀ c ∈ gap, c ∈ blanks := fun c hc => of_decide_eq_true (hgap c hc)
  have hne : w.toList ++ gap ≠ [] :=
    List.append_ne_nil_of_left_ne_nil (by simpa using ne) gap
  have hall : ∀ c ∈ w.toList ++ gap, c ∈ blanks := List.forall_mem_append.mpr ⟨blank, hgap⟩
  have htext : (a ++ w ++ b).toList = a.toList ++ (w.toList ++ gap ++ rest) := by
    rw [String.toList_append, String.toList_append, hsplit, List.append_assoc, List.append_assoc]
  -- the blanks at the front of the second text are skipped with those between the texts
  have hb : Stream.ofText b = Stream.scan ⟨b, byteLength gap, rest⟩ := by
    have hpull := Scanner.pull_skip (s := .ofText b) hgap hstop hsplit
    rw [Scanner.ofText, Nat.zero_add] at hpull
    exact Stream.scan_congr hpull
  have hbytes : 0 + byteLength (a.toList ++ (w.toList ++ gap)) =
      byteLength gap + (a.utf8ByteSize + w.utf8ByteSize) := by
    rw [utf8ByteSize_eq, utf8ByteSize_eq, byteLength_append, byteLength_append]
    omega
  have hscan := htiles.scan_append rfl hne hall hstop (a ++ w ++ b) 0
  rw [← htext, hbytes, scan_shift b, ← hb] at hscan
  exact hscan

/-- **Tokens of texts with blanks between them** are those of the first text and then those of the
second, so many bytes further on. Where the second text has a stray character it is found there. -/
theorem tokenize_append {a w b : String} {ts : List Token} (h : tokenize a = .ok ts) (ne : w ≠ "")
    (blank : ∀ c ∈ w.toList, c ∈ blanks) :
    (∀ us, tokenize b = .ok us → tokenize (a ++ w ++ b) =
      .ok (ts ++ us.map (shift (a.utf8ByteSize + w.utf8ByteSize)))) ∧
    (∀ e, tokenize b = .error e → tokenize (a ++ w ++ b) =
      .error (e.shift (a.utf8ByteSize + w.utf8ByteSize))) := by
  have hwhole : tokenize (a ++ w ++ b) =
      ((Stream.ofText b).shift (a.utf8ByteSize + w.utf8ByteSize)).toList.map (ts ++ ·) := by
    rw [tokenize, ofText_append h ne blank, Stream.toList_prepend]
  rw [hwhole, Stream.shift, Stream.toList_map, ← tokenize]
  constructor
  · intro us hus
    rw [hus]
    rfl
  · intro e he
    rw [he]
    rfl

/-- An operator and what would make it another word, or is no token. -/
theorem tokenize_append_word :
    tokenize "or" = .ok [⟨.logicalOperator, "or", 0⟩] ∧ "\n" ≠ "" ∧
    (∀ c ∈ "\n".toList, c ∈ blanks) ∧
    tokenize "der" = .ok [⟨.identifier, "der", 0⟩] ∧
    tokenize "or\nder" = .ok [⟨.logicalOperator, "or", 0⟩, ⟨.identifier, "der", 3⟩] ∧
    tokenize "-" = .error ⟨'-', 0⟩ ∧ tokenize "or\n-" = .error ⟨'-', 3⟩ := by
  have hor : Lexeme (some .logicalOperator) "or".toList [] :=
    .of_shape (by decide : String.ofList "or".toList ∈ _) (stops_nil _)
  have hder : Lexeme (some .identifier) "der".toList [] :=
    .of_shape ⟨'d', _, rfl, .inl rfl, List.all_eq_true.mp rfl, by decide⟩ (stops_nil _)
  have hfirst : tokenize "or" = .ok [⟨.logicalOperator, "or", 0⟩] := tokenize_of_lexeme hor
  have hsecond : tokenize "der" = .ok [⟨.identifier, "der", 0⟩] := tokenize_of_lexeme hder
  have hdash : tokenize "-" = .error ⟨'-', 0⟩ := by
    have hno : NoLexeme "-".toList := noLexeme_iff.mpr rfl
    rw [tokenize, ofText_eq .nil hno]
    rfl
  have blank : ∀ c ∈ "\n".toList, c ∈ blanks := List.forall_mem_singleton.mpr (by decide)
  have ne : "\n" ≠ "" := by decide
  exact ⟨hfirst, ne, blank, hsecond, (tokenize_append hfirst ne blank).1 _ hsecond, hdash,
    (tokenize_append hfirst ne blank).2 _ hdash⟩

end DocFilter.Token
