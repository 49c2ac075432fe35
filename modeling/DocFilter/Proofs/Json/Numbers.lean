import DocFilter.Json.Reader
import DocFilter.Proofs.Text.Repetition

/-!
Integers of JSON text: what is written for an integer is read as its sign and its digits.
-/

namespace DocFilter.Json

open Text
open Token (Stops)

/-- The characters that may stand behind a value: what goes on in an array or an object, and
blanks. -/
def ends : List Char := [',', ']', '\x7d', ' ', '\t', '\n', '\r']

/-- What may stand behind a value: nothing, or a text that starts with one of those. -/
def Behind (cs : List Char) : Prop := ∀ c ∈ cs.head?, c ∈ ends

lemma behind_nil : Behind [] := nofun

lemma behind_cons {c : Char} (h : c ∈ ends) (cs : List Char) : Behind (c :: cs) := by
  rintro d hd
  cases hd
  exact h

lemma Behind.stops {p : Char → Bool} {cs : List Char} (h : Behind cs)
    (none : ∀ c ∈ ends, p c = false) : Stops p cs :=
  fun c hc => none c (h c hc)

namespace Written

variable {rest : List Char}

lemma head?_decimal (n : Nat) : (decimal n).head? ≠ some '0' ∨ (decimal n).length = 1 := by
  by_contra hcon
  rw [not_or, not_not] at hcon
  obtain ⟨ds, hds⟩ := List.head?_eq_some_iff.mp hcon.1
  have hpos : 0 < ds.length := by
    have hlen := hcon.2
    rw [hds, List.length_cons] at hlen
    omega
  have hdigits : ∀ d ∈ ds, d.isDigit = true := fun d hd =>
    isDigit_of_mem_decimal (n := n) (hds ▸ List.mem_cons_of_mem _ hd)
  have hvalue : decimalValue ds = n := by
    rw [← decimalValue_decimal n, hds]
    rfl
  -- the digits behind the zero would do
  have hshort : (decimal n).length ≤ ds.length :=
    (Nat.length_toDigits_le_iff (by decide) hpos).mpr (hvalue ▸ decimalValue_lt hdigits)
  rw [hds, List.length_cons] at hshort
  omega

lemma readInteger_decimal (n : Nat) (stop : Stops Char.isDigit rest) :
    readInteger (decimal n ++ rest) = some (decimal n, rest) := by
  have hrun := Reader.run1_append (decimal_ne_nil n) (fun _ => isDigit_of_mem_decimal) stop
  have hzero : (decide ((decimal n).head? ≠ some '0') || decide ((decimal n).length = 1)) =
      true := by simpa using head?_decimal n
  rw [readInteger, Reader.bind_of_eq_some hrun, hzero]
  rfl

lemma readNumber_of_readInteger {sign : Option Unit} {digits cs cs' : List Char}
    (hsign : Reader.optional (Reader.char '-') cs = some (sign, cs'))
    (hinteger : readInteger cs' = some (digits, rest)) (behind : Behind rest) :
    readNumber cs = some (.number sign.isSome digits true, rest) := by
  have hpoint : Reader.optional readPoint rest = some (none, rest) :=
    Reader.optional_of_eq_none <| Reader.bind_of_eq_none <| Reader.bind_of_eq_none <|
      Reader.one_of_stops (behind.stops (by simp [ends]))
  have hpower : Reader.optional readExponent rest = some (none, rest) :=
    Reader.optional_of_eq_none <| Reader.bind_of_eq_none <|
      Reader.one_of_stops (behind.stops (by simp [ends]))
  rw [readNumber, Reader.bind_of_eq_some hsign, Reader.bind_of_eq_some hinteger,
    Reader.bind_of_eq_some hpoint, Reader.bind_of_eq_some hpower]
  rfl

lemma exists_decimal_eq_cons (n : Nat) : ∃ d ds, decimal n = d :: ds ∧ d.isDigit = true := by
  obtain ⟨d, ds, hds⟩ := List.exists_cons_of_ne_nil (decimal_ne_nil n)
  exact ⟨d, ds, hds, isDigit_of_mem_decimal (hds ▸ List.mem_cons_self)⟩

lemma readNumber_signedDecimal (n : Int) (behind : Behind rest) :
    readNumber (signedDecimal n ++ rest) =
      some (.number (n < 0) (decimal n.natAbs) true, rest) := by
  have hinteger := readInteger_decimal n.natAbs (behind.stops (by simp [ends]))
  rw [signedDecimal]
  by_cases hn : n < 0
  · rw [if_pos hn, decide_eq_true hn, List.cons_append]
    have hsign := Reader.optional_of_eq_some (Reader.char_cons '-' (decimal n.natAbs ++ rest))
    exact readNumber_of_readInteger hsign hinteger behind
  · rw [if_neg hn, decide_eq_false hn]
    obtain ⟨d, ds, hds, hd⟩ := exists_decimal_eq_cons n.natAbs
    have hsign : Reader.char '-' (decimal n.natAbs ++ rest) = none := by
      rw [hds]
      exact Reader.char_of_ne (by rintro rfl; cases hd) _
    exact readNumber_of_readInteger (Reader.optional_of_eq_none hsign) hinteger behind

lemma exists_signedDecimal_eq_cons (n : Int) :
    ∃ d ds, signedDecimal n = d :: ds ∧ (d = '-' ∨ d.isDigit = true) := by
  rw [signedDecimal]
  split_ifs with hn
  · exact ⟨_, _, rfl, .inl rfl⟩
  · obtain ⟨d, ds, hds, hd⟩ := exists_decimal_eq_cons n.natAbs
    exact ⟨d, ds, hds, .inr hd⟩

lemma readNumber_of_ne {d : Char} (hd : ¬ (d = '-' ∨ d.isDigit = true)) (cs : List Char) :
    readNumber (d :: cs) = none := by
  rw [not_or] at hd
  have hsign := Reader.optional_of_eq_none (Reader.char_of_ne hd.1 cs)
  have hrun : Reader.run1 Char.isDigit (d :: cs) = none :=
    Reader.run1_of_stops (Token.stops_cons.mpr (Bool.eq_false_iff.mpr hd.2))
  rw [readNumber, Reader.bind_of_eq_some hsign]
  exact Reader.bind_of_eq_none (Reader.bind_of_eq_none hrun)

end Written

end DocFilter.Json
