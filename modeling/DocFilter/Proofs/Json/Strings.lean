import DocFilter.Json.Printer
import DocFilter.Json.Reader
import DocFilter.Proofs.Text.Repetition

/-!
Strings of JSON text: what is written for a string is read as that string.
-/

namespace DocFilter.Json.Written

open Text

/-- The characters that are escaped by a name, and not by their number. -/
def named : List Char := ['"', '\\', '\x08', '\x0c', '\n', '\r', '\t']

/-- What a written character is read as: a control character without a name as its number. -/
def piece (c : Char) : Piece :=
  if c ∉ named ∧ c.toNat < 0x20 then .unit c.toNat else .char c

/-! ### Characters -/

section

variable {c : Char}

lemma exists_escape (h : c ∈ named) :
    ∃ x, escaped c = ['\\', x] ∧ x ≠ 'u' ∧ escape? x = some c := by
  simp only [named, List.mem_cons, List.not_mem_nil, or_false] at h
  rcases h with rfl | rfl | rfl | rfl | rfl | rfl | rfl <;> exact ⟨_, rfl, by decide, rfl⟩

lemma escaped_of_not_named (h : c ∉ named) : escaped c =
    if c.toNat < 0x20 then
      '\\' :: 'u' :: '0' :: '0' :: (if c.toNat < 0x10 then '0' else '1') ::
        hexadecimal (c.toNat % 16)
    else [c] := by
  simp only [named, List.mem_cons, List.not_mem_nil, or_false, not_or] at h
  obtain ⟨h₁, h₂, h₃, h₄, h₅, h₆, h₇⟩ := h
  rw [escaped, if_neg h₁, if_neg h₂, if_neg h₃, if_neg h₄, if_neg h₅, if_neg h₆, if_neg h₇]

lemma ne_of_not_named (h : c ∉ named) : c ≠ '"' ∧ c ≠ '\\' :=
  ⟨fun heq => h (heq ▸ by decide), fun heq => h (heq ▸ by decide)⟩

lemma hexadecimal_mod (n : Nat) : hexadecimal (n % 16) = [(n % 16).digitChar] :=
  Nat.toDigits_of_lt_base (Nat.mod_lt _ (by decide))

lemma hexValue?_control : ∀ n < 0x20,
    hexValue? ['0', '0', if n < 0x10 then '0' else '1', (n % 16).digitChar] = some n := by
  decide

lemma readPiece_backslash (cs : List Char) : readPiece ('\\' :: cs) = readEscape cs := rfl

lemma readEscape_of_name {x : Char} (hx : x ≠ 'u') (h : escape? x = some c) (rest : List Char) :
    readEscape (x :: rest) = some (.char c, rest) := by
  rw [readEscape, Reader.bind_of_eq_some (Reader.one_cons rfl rest), if_neg hx, h]
  rfl

lemma readEscape_of_number {n : Nat} {w : List Char} (hw : w.length = 4) (h : hexValue? w = some n)
    (rest : List Char) : readEscape ('u' :: (w ++ rest)) = some (.unit n, rest) := by
  have hexactly : Reader.exactly 4 (fun _ => true) (w ++ rest) = some (w, rest) := by
    have htake : (w ++ rest).take 4 = w := by rw [← hw, List.take_left]
    rw [Reader.exactly, htake, if_pos ⟨hw, List.all_eq_true.mpr fun _ _ => rfl⟩, ← hw,
      List.drop_left]
  rw [readEscape, Reader.bind_of_eq_some (Reader.one_cons rfl _), if_pos rfl,
    Reader.bind_of_eq_some hexactly, h]
  rfl

lemma readPiece_escaped (c : Char) (rest : List Char) :
    readPiece (escaped c ++ rest) = some (piece c, rest) := by
  by_cases hn : c ∈ named
  · obtain ⟨x, hx, hu, hc⟩ := exists_escape hn
    rw [hx, piece, if_neg fun h => h.1 hn]
    exact (readPiece_backslash _).trans (readEscape_of_name hu hc rest)
  · by_cases h : c.toNat < 0x20
    · have hpiece : piece c = .unit c.toNat := if_pos ⟨hn, h⟩
      rw [escaped_of_not_named hn, if_pos h, hexadecimal_mod, hpiece]
      exact (readPiece_backslash _).trans (readEscape_of_number rfl (hexValue?_control _ h) rest)
    · obtain ⟨hquote, hslash⟩ := ne_of_not_named hn
      have hone : (decide (c ≠ '"') && decide (0x20 ≤ c.toNat)) = true := by
        simp only [Bool.and_eq_true, decide_eq_true_eq]
        exact ⟨hquote, by omega⟩
      rw [escaped_of_not_named hn, if_neg h, piece, if_neg fun hc => h hc.2, List.singleton_append,
        readPiece, Reader.bind_of_eq_some (Reader.one_cons hone rest), if_neg hslash]
      rfl

end

/-! ### Strings -/

lemma scalar?_toNat (c : Char) : scalar? c.toNat = some c := dif_pos c.valid

lemma isHigh_of_control {n : Nat} (h : n < 0x20) : isHigh n = false := by
  simp only [isHigh, Bool.and_eq_false_iff, decide_eq_false_iff_not]
  omega

lemma join?_map_piece (cs : List Char) : join? (cs.map piece) = some cs := by
  induction cs with
  | nil => rfl
  | cons c cs ih =>
    rw [List.map_cons, piece]
    split_ifs with h
    · -- the number of a control character is no half of a pair
      have hhigh := isHigh_of_control h.2
      cases cs with
      | nil =>
        rw [List.map_nil, join?, scalar?_toNat]
        · rfl
        · nofun
      | cons d cs =>
        rw [List.map_cons, piece] at ih ⊢
        split_ifs at ih ⊢
        · rw [join?, hhigh, if_neg Bool.false_ne_true, scalar?_toNat, ih]
          rfl
        · rw [join?, scalar?_toNat, ih]
          · rfl
          · nofun
    · rw [join?, ih]
      rfl

lemma escaped_ne_nil (c : Char) : escaped c ≠ [] := by
  unfold escaped
  split_ifs <;> exact List.cons_ne_nil _ _

lemma readString_quoted (s : String) (rest : List Char) :
    readString (quoted s ++ rest) = some (some s, rest) := by
  have hmany : Reader.many readPiece (s.toList.flatMap escaped ++ '"' :: rest) =
      some (s.toList.map piece, '"' :: rest) :=
    Reader.many_flatMap (P := fun _ => True) escaped_ne_nil (fun c _ cs _ => readPiece_escaped c cs)
      (fun _ _ => trivial) trivial rfl
  have hquoted : quoted s ++ rest = '"' :: (s.toList.flatMap escaped ++ '"' :: rest) := by
    simp [quoted]
  rw [hquoted, readString, Reader.bind_of_eq_some (Reader.char_cons _ _),
    Reader.bind_of_eq_some hmany, Reader.bind_of_eq_some (Reader.char_cons _ _), join?_map_piece,
    Option.map_some, String.ofList_toList]
  rfl

lemma readString_of_ne {c : Char} (h : c ≠ '"') (cs : List Char) : readString (c :: cs) = none :=
  Reader.bind_of_eq_none (Reader.char_of_ne h cs)

end DocFilter.Json.Written
