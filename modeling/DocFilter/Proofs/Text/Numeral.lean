import DocFilter.Proofs.Token.RuleLength
import DocFilter.Text.Reader
import Mathlib.Algebra.Group.Nat.Defs

/-!
Decimal digits and the numbers they stand for, and readers that take them off a text.
-/

namespace DocFilter

namespace Text

/-- `Numeral width n ds`: the digits, of which there are `width`, stand for `n`. -/
structure Numeral (width n : Nat) (ds : List Char) : Prop where
  length : ds.length = width
  digits : ∀ d ∈ ds, d.isDigit = true
  value : decimalValue ds = n

lemma decimalValue_append (ds es : List Char) :
    decimalValue (ds ++ es) = 10 ^ es.length * decimalValue ds + decimalValue es := by
  calc decimalValue (ds ++ es)
      = Nat.ofDigitChars 10 es (Nat.ofDigitChars 10 ds 0) := Nat.ofDigitChars_append 0
    _ = 10 ^ es.length * decimalValue ds + decimalValue es :=
      Nat.ofDigitChars_eq_ofDigitChars_zero

lemma decimalValue_decimal (n : Nat) : decimalValue (decimal n) = n :=
  Nat.ofDigitChars_ten_toDigits

lemma decimalValue_lt {ds : List Char} (h : ∀ d ∈ ds, d.isDigit = true) :
    decimalValue ds < 10 ^ ds.length := by
  induction ds with
  | nil => exact Nat.zero_lt_one
  | cons d ds ih =>
    rw [List.forall_mem_cons] at h
    have hd : decimalValue [d] ≤ 9 := by
      have hcode := (Token.isDigit_iff.mp h.1).2
      change 10 * 0 + (d.toNat - 48) ≤ 9
      omega
    calc decimalValue ([d] ++ ds)
        = 10 ^ ds.length * decimalValue [d] + decimalValue ds := decimalValue_append [d] ds
      _ < 10 ^ ds.length * 9 + 10 ^ ds.length :=
        Nat.add_lt_add_of_le_of_lt (Nat.mul_le_mul_left _ hd) (ih h.2)
      _ = 10 ^ ([d] ++ ds).length := by
        rw [List.singleton_append, List.length_cons, Nat.pow_succ]
        omega

lemma Numeral.lt {width n : Nat} {ds : List Char} (h : Numeral width n ds) : n < 10 ^ width := by
  rw [← h.value, ← h.length]
  exact decimalValue_lt h.digits

lemma isDigit_of_mem_decimal {n : Nat} {d : Char} (h : d ∈ decimal n) : d.isDigit = true :=
  Nat.isDigit_of_mem_toDigits (by decide) (by decide) h

lemma decimal_ne_nil (n : Nat) : decimal n ≠ [] :=
  List.length_pos_iff.mp Nat.length_toDigits_pos

lemma isDigit_of_mem_padded {width n : Nat} {d : Char} (h : d ∈ padded width n) :
    d.isDigit = true := by
  rcases List.mem_append.mp h with hzero | hdigit
  · rw [List.eq_of_mem_replicate hzero]
    rfl
  · exact isDigit_of_mem_decimal hdigit

lemma padded_ne_nil (width n : Nat) : padded width n ≠ [] :=
  List.append_ne_nil_of_right_ne_nil _ (decimal_ne_nil n)

lemma decimalValue_padded (width n : Nat) : decimalValue (padded width n) = n := by
  have hzeros : decimalValue (List.replicate (width - (decimal n).length) '0') = 0 :=
    Nat.ofDigitChars_replicate_zero
  rw [padded, decimalValue_append, hzeros, decimalValue_decimal, Nat.mul_zero, Nat.zero_add]

lemma numeral_padded {width n : Nat} (pos : 0 < width) (h : n < 10 ^ width) :
    Numeral width n (padded width n) := by
  have hlength : (decimal n).length ≤ width :=
    (Nat.length_toDigits_le_iff (by decide) pos).mpr h
  refine ⟨?_, fun _ => isDigit_of_mem_padded, decimalValue_padded width n⟩
  rw [padded, List.length_append, List.length_replicate]
  omega

end Text

/-! ### Readers -/

namespace Reader

open Text

variable {α β : Type} {r : Reader α} {f : α → Reader β} {cs rest : List Char}

lemma bind_eq_some_iff {b : β} :
    (r >>= f) cs = some (b, rest) ↔ ∃ a cs', r cs = some (a, cs') ∧ f a cs' = some (b, rest) := by
  rw [bind_apply]
  rcases r cs with _ | ⟨a, cs'⟩
  · simp
  · simp

lemma bind_of_eq_some {a : α} (h : r cs = some (a, rest)) : (r >>= f) cs = f a rest := by
  rw [bind_apply, h]

lemma map_of_eq_some {a : α} {g : α → β} (h : r cs = some (a, rest)) :
    (g <$> r) cs = some (g a, rest) :=
  bind_of_eq_some h

lemma bind_of_eq_none (h : r cs = none) : (r >>= f) cs = none := by
  rw [bind_apply, h]

lemma orElse_of_eq_some {s : Reader α} {a : α} (h : r cs = some (a, rest)) :
    (r <|> s) cs = some (a, rest) := by
  rw [orElse_apply, h]

lemma orElse_of_eq_none {s : Reader α} (h : r cs = none) : (r <|> s) cs = s cs := by
  rw [orElse_apply, h]

lemma one_cons {p : Char → Bool} {c : Char} (h : p c = true) (cs : List Char) :
    one p (c :: cs) = some (c, cs) :=
  if_pos h

lemma char_cons (c : Char) (cs : List Char) : char c (c :: cs) = some ((), cs) :=
  bind_of_eq_some (one_cons (decide_eq_true rfl) cs)

lemma char_of_ne {c d : Char} (h : d ≠ c) (cs : List Char) : char c (d :: cs) = none :=
  bind_of_eq_none (if_neg (by simpa using h))

lemma run_append {p : Char → Bool} {w : List Char} (all : ∀ c ∈ w, p c = true)
    (stop : Token.Stops p rest) : run p (w ++ rest) = some (w, rest) := by
  have htake : (w ++ rest).takeWhile p = w := Token.Rule.takeWhile_append all stop
  have hdrop : (w ++ rest).dropWhile p = rest := by
    have hcut := List.takeWhile_append_dropWhile (p := p) (l := w ++ rest)
    rw [htake] at hcut
    exact List.append_cancel_left hcut
  rw [run, htake, hdrop]

lemma run1_append {p : Char → Bool} {w : List Char} (ne : w ≠ []) (all : ∀ c ∈ w, p c = true)
    (stop : Token.Stops p rest) : run1 p (w ++ rest) = some (w, rest) := by
  have hne : w.isEmpty = false := by rwa [List.isEmpty_eq_false_iff]
  unfold run1
  rw [bind_of_eq_some (run_append all stop), hne]
  rfl

lemma digits_append {width n : Nat} {ds : List Char} (h : Numeral width n ds) (rest : List Char) :
    digits width (ds ++ rest) = some (n, rest) := by
  have htake : (ds ++ rest).take width = ds := by rw [← h.length, List.take_left]
  have hall : ds.length = width ∧ ds.all Char.isDigit = true :=
    ⟨h.length, List.all_eq_true.mpr h.digits⟩
  have hexactly : exactly width Char.isDigit (ds ++ rest) = some (ds, rest) := by
    unfold exactly
    rw [htake, if_pos hall, ← h.length, List.drop_left]
  exact h.value ▸ map_of_eq_some hexactly

/-! ### What a reader may find -/

/-- Every value that the reader finds has a property. -/
def Yields (r : Reader α) (P : α → Prop) : Prop := ∀ cs a rest, r cs = some (a, rest) → P a

lemma Yields.pure {P : α → Prop} {a : α} (h : P a) : Yields (Pure.pure a) P := by
  intro cs a' rest heq
  obtain ⟨rfl, -⟩ := Prod.mk.inj (Option.some.inj heq)
  exact h

lemma Yields.bind {P : α → Prop} {Q : β → Prop} (h : r.Yields P)
    (hf : ∀ a, P a → (f a).Yields Q) : (r >>= f).Yields Q := by
  intro cs b rest heq
  obtain ⟨a, cs', ha, hb⟩ := bind_eq_some_iff.mp heq
  exact hf a (h cs a cs' ha) cs' b rest hb

lemma Yields.after {Q : β → Prop} (hf : ∀ a, (f a).Yields Q) : (r >>= f).Yields Q :=
  .bind (P := fun _ => True) (fun _ _ _ _ => trivial) fun a _ => hf a

lemma exactly_yields (n : Nat) (p : Char → Bool) :
    (exactly n p).Yields fun w => w.length = n ∧ ∀ c ∈ w, p c = true := by
  intro cs w rest h
  simp only [exactly] at h
  split_ifs at h with hall
  obtain ⟨rfl, -⟩ := Prod.mk.inj (Option.some.inj h)
  exact ⟨hall.1, List.all_eq_true.mp hall.2⟩

lemma digits_yields (width : Nat) : (digits width).Yields fun n => n < 10 ^ width :=
  .bind (exactly_yields width Char.isDigit) fun _ h => .pure (Numeral.lt ⟨h.1, h.2, rfl⟩)

end Reader

end DocFilter
