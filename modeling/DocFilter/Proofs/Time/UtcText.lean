import DocFilter.Proofs.Text.Repetition
import DocFilter.Proofs.Time.Utc

/-!
The text of a time in UTC shows its fields and stands for that time only, also where the year is
written with a sign.
-/

namespace DocFilter

open Text
open Token (Stops)

namespace Civil

/-! ### Years -/

/-- A year with its sign, if it has one. -/
def readYear : Reader Int := do
  let sign ← Reader.optional (Reader.one (['+', '-'].contains ·))
  let digits ← Reader.run1 Char.isDigit
  let size : Int := decimalValue digits
  pure (if sign = some '-' then -size else size)

lemma readYear_of_sign {sign : Option Char} {year : Int} {cs rest : List Char}
    (hsign : Reader.optional (Reader.one (['+', '-'].contains ·)) cs =
      some (sign, padded 4 year.natAbs ++ rest))
    (hyear : (if sign = some '-' then -(year.natAbs : Int) else year.natAbs) = year)
    (stop : Stops Char.isDigit rest) : readYear cs = some (year, rest) := by
  have hdigits := Reader.run1_append (padded_ne_nil 4 year.natAbs)
    (fun _ => isDigit_of_mem_padded) stop
  rw [readYear, Reader.bind_of_eq_some hsign, Reader.bind_of_eq_some hdigits, decimalValue_padded,
    hyear]
  rfl

lemma readYear_yearText (year : Int) {rest : List Char} (stop : Stops Char.isDigit rest) :
    readYear (yearText year ++ rest) = some (year, rest) := by
  unfold yearText
  split_ifs with hneg hlarge
  · refine readYear_of_sign (Reader.optional_of_eq_some (Reader.one_cons rfl _)) ?_ stop
    rw [if_pos rfl]
    omega
  · refine readYear_of_sign (Reader.optional_of_eq_some (Reader.one_cons rfl _)) ?_ stop
    rw [if_neg (by decide)]
    omega
  · have hnone : Reader.one (['+', '-'].contains ·) (padded 4 year.natAbs ++ rest) = none := by
      obtain ⟨d, ds, hds⟩ := List.exists_cons_of_ne_nil (padded_ne_nil 4 year.natAbs)
      have hd : d.isDigit = true := isDigit_of_mem_padded (hds ▸ List.mem_cons_self)
      rw [hds]
      refine if_neg fun hmem => ?_
      rcases List.mem_pair.mp (List.contains_iff_mem.mp hmem) with rfl | rfl <;> cases hd
    refine readYear_of_sign (Reader.optional_of_eq_none hnone) ?_ stop
    rw [if_neg (by decide)]
    omega

/-! ### The time behind the year -/

/-- The same time in the year 0. That year has every day of any year. -/
def inYearZero (c : Civil) : Civil := { c with date := { c.date with year := 0 } }

lemma daysInMonth_le_yearZero (year : Int) (month : Nat) :
    Date.daysInMonth year month ≤ Date.daysInMonth 0 month := by
  have hzero : Date.isLeap 0 = true := rfl
  unfold Date.daysInMonth
  split
  · rw [hzero, if_pos rfl]
    split_ifs <;> decide
  all_goals exact Nat.le_refl _

lemma inYearZero_valid {c : Civil} (h : c.Valid) : c.inYearZero.Valid := by
  obtain ⟨⟨hmonth, hmonth', hday, hday'⟩, htime⟩ := h
  exact ⟨⟨hmonth, hmonth', hday, hday'.trans (daysInMonth_le_yearZero _ _)⟩, htime⟩

/-- What is written behind the year. -/
def behindYear (c : Civil) : List Char :=
  '-' :: (padded 2 c.date.month ++ '-' :: (padded 2 c.date.day ++ 'T' :: (padded 2 c.hour ++
    ':' :: (padded 2 c.minute ++ ':' :: (padded 2 c.second ++ (fractionText c.nano ++ ['Z']))))))

lemma toList_toUtcText (c : Civil) :
    c.toUtcText.toList = yearText c.date.year ++ c.behindYear := by
  simp [toUtcText, toText, behindYear]

lemma readYear_toUtcText (c : Civil) :
    readYear c.toUtcText.toList = some (c.date.year, c.behindYear) := by
  rw [toList_toUtcText]
  exact readYear_yearText c.date.year (Token.stops_cons.mpr rfl)

lemma eq_of_behindYear_eq {c d : Civil} (hc : c.Valid) (hd : d.Valid)
    (h : c.behindYear = d.behindYear) : c.inYearZero = d.inYearZero := by
  have htext : c.inYearZero.toUtcText.toList = d.inYearZero.toUtcText.toList := by
    rw [toList_toUtcText, toList_toUtcText]
    exact congrArg (yearText 0 ++ ·) h
  have hread : ∀ {e : Civil}, e.Valid → Timestamp.reader e.inYearZero.toUtcText.toList =
      some (Timestamp.ofUtc e.inYearZero, []) := fun he =>
    Timestamp.reader_of_spells <| Timestamp.spells_toUtcText (inYearZero_valid he)
      (Int.le_refl 0) (by decide : (0 : Int) ≤ 9999)
  have hstamp := (htext ▸ hread hc).symm.trans (hread hd)
  exact congrArg Timestamp.civil (Prod.mk.inj (Option.some.inj hstamp)).1

/-- **The text of a time in UTC stands for that time only.** -/
theorem toUtcText_inj {c d : Civil} (hc : c.Valid) (hd : d.Valid)
    (h : c.toUtcText = d.toUtcText) : c = d := by
  have hyear := readYear_toUtcText c
  rw [h, readYear_toUtcText] at hyear
  obtain ⟨hyears, hbehind⟩ := Prod.mk.inj (Option.some.inj hyear)
  have hzero := eq_of_behindYear_eq hc hd hbehind.symm
  calc c = { c.inYearZero with date := { c.inYearZero.date with year := c.date.year } } := rfl
    _ = { d.inYearZero with date := { d.inYearZero.date with year := d.date.year } } := by
      rw [hzero, hyears]
    _ = d := rfl

/-! ### The fields that are shown -/

/-- A year as four digits, or with its sign and no less than four. -/
inductive PrintsYear : Int → List Char → Prop
  | plain {year : Nat} {ds : List Char} (digits : Numeral 4 year ds) : PrintsYear year ds
  | late {year width : Nat} {ds : List Char} (late : 9999 < year)
      (digits : Numeral width year ds) : PrintsYear year ('+' :: ds)
  | early {year width : Nat} {ds : List Char} (early : 0 < year) (wide : 4 ≤ width)
      (digits : Numeral width year ds) : PrintsYear (-year) ('-' :: ds)

/-- `c.Prints cs`: the text shows each field of the time, and that it is in UTC. -/
inductive Prints : Civil → List Char → Prop
  | mk {year : Int} {month day hour minute second nano : Nat}
      {yyyy mm dd hh mi ss fraction : List Char} (years : PrintsYear year yyyy)
      (months : Numeral 2 month mm) (days : Numeral 2 day dd) (hours : Numeral 2 hour hh)
      (minutes : Numeral 2 minute mi) (seconds : Numeral 2 second ss)
      (nanos : Timestamp.SpellsFraction nano fraction) :
      Prints ⟨⟨year, month, day⟩, hour, minute, second, nano⟩
        (yyyy ++ '-' :: (mm ++ '-' :: (dd ++ 'T' :: (hh ++ ':' :: (mi ++ ':' :: (ss ++
          (fraction ++ ['Z'])))))))

lemma numeral_padded_length (width n : Nat) :
    Numeral (padded width n).length n (padded width n) :=
  ⟨rfl, fun _ => isDigit_of_mem_padded, decimalValue_padded width n⟩

lemma le_length_padded (width n : Nat) : width ≤ (padded width n).length := by
  rw [padded, List.length_append, List.length_replicate]
  omega

lemma printsYear_yearText (year : Int) : PrintsYear year (yearText year) := by
  unfold yearText
  split_ifs with hneg hlarge
  · obtain ⟨n, rfl⟩ : ∃ n : Nat, year = -n := ⟨year.natAbs, by omega⟩
    rw [Int.natAbs_neg, Int.natAbs_natCast]
    exact .early (by omega) (le_length_padded 4 n) (numeral_padded_length 4 n)
  · obtain ⟨n, rfl⟩ : ∃ n : Nat, year = n := ⟨year.natAbs, by omega⟩
    rw [Int.natAbs_natCast]
    exact .late (by omega) (numeral_padded_length 4 n)
  · obtain ⟨n, rfl⟩ : ∃ n : Nat, year = n := ⟨year.natAbs, by omega⟩
    rw [Int.natAbs_natCast]
    exact .plain (numeral_padded (by decide) (by omega))

/-- **The text of a time in UTC shows its fields.** -/
theorem prints_toUtcText {c : Civil} (h : c.Valid) : c.Prints c.toUtcText.toList := by
  obtain ⟨⟨year, month, day⟩, hour, minute, second, nano⟩ := c
  obtain ⟨⟨-, hmonth, -, hday⟩, hhour, hminute, hsecond, hnano⟩ := h
  simp only at hmonth hday hhour hminute hsecond hnano
  have hlast : day ≤ 31 := hday.trans (Date.daysInMonth_le year month)
  rw [toList_toUtcText]
  exact .mk (printsYear_yearText year) (numeral_padded (by decide) (by omega))
    (numeral_padded (by decide) (by omega)) (numeral_padded (by decide) (by omega))
    (numeral_padded (by decide) (by omega)) (numeral_padded (by decide) (by omega))
    (Timestamp.spellsFraction_fractionText hnano)

end Civil

end DocFilter
