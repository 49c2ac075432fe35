import DocFilter.Proofs.Text.Numeral
import DocFilter.Time.Rfc3339

/-!
Which texts spell a timestamp. A spelling is a date of the query language and is read back as the
timestamp; a timestamp whose year has four digits is written as one of its spellings.
-/

namespace DocFilter

open Text Token

lemma Date.daysInMonth_le (year : Int) (month : Nat) : daysInMonth year month ≤ 31 := by
  unfold daysInMonth
  split
  · split_ifs <;> omega
  all_goals omega

namespace Timestamp

/-- A fraction of a second that is a number of nanoseconds. -/
inductive SpellsFraction : Nat → List Char → Prop
  | none : SpellsFraction 0 []
  | digits {nano : Nat} {ds : List Char} (ne : ds ≠ []) (all : ∀ d ∈ ds, d.isDigit = true)
      (exact : decimalValue ds * 10 ^ 9 = nano * 10 ^ ds.length) : SpellsFraction nano ('.' :: ds)

/-- An offset in minutes. -/
inductive SpellsOffset : Int → List Char → Prop
  | utc : SpellsOffset 0 ['Z']
  | east {h m : Nat} {hh mm : List Char} (hours : Numeral 2 h hh) (minutes : Numeral 2 m mm)
      (within : m ≤ 59) : SpellsOffset (60 * h + m) ('+' :: (hh ++ ':' :: mm))
  | west {h m : Nat} {hh mm : List Char} (hours : Numeral 2 h hh) (minutes : Numeral 2 m mm)
      (within : m ≤ 59) : SpellsOffset (-(60 * h + m)) ('-' :: (hh ++ ':' :: mm))

/-- `t.Spells cs`: the text has the form of RFC 3339 and its fields are those of the timestamp. -/
inductive Spells : Timestamp → List Char → Prop
  | mk {year month day hour minute second nano : Nat} {offset : Int}
      {yyyy mm dd hh mi ss fraction zone : List Char} (years : Numeral 4 year yyyy)
      (months : Numeral 2 month mm) (days : Numeral 2 day dd) (hours : Numeral 2 hour hh)
      (minutes : Numeral 2 minute mi) (seconds : Numeral 2 second ss)
      (nanos : SpellsFraction nano fraction) (offsets : SpellsOffset offset zone) :
      Spells ⟨⟨⟨year, month, day⟩, hour, minute, second, nano⟩, offset⟩
        (yyyy ++ '-' :: (mm ++ '-' :: (dd ++ 'T' :: (hh ++ ':' :: (mi ++ ':' :: (ss ++
          (fraction ++ zone)))))))

/-- A fraction of a second with any number of digits, cut off after the nanoseconds. -/
inductive CutFraction : Nat → List Char → Prop
  | none : CutFraction 0 []
  | digits {nano : Nat} {ds : List Char} (ne : ds ≠ []) (all : ∀ d ∈ ds, d.isDigit = true)
      (cut : nano = decimalValue ds * 10 ^ 9 / 10 ^ ds.length) : CutFraction nano ('.' :: ds)

/-- `t.Written cs`: as `Spells`, but for what the fraction says beyond the nanoseconds. -/
inductive Written : Timestamp → List Char → Prop
  | mk {year month day hour minute second nano : Nat} {offset : Int}
      {yyyy mm dd hh mi ss fraction zone : List Char} (years : Numeral 4 year yyyy)
      (months : Numeral 2 month mm) (days : Numeral 2 day dd) (hours : Numeral 2 hour hh)
      (minutes : Numeral 2 minute mi) (seconds : Numeral 2 second ss)
      (nanos : CutFraction nano fraction) (offsets : SpellsOffset offset zone) :
      Written ⟨⟨⟨year, month, day⟩, hour, minute, second, nano⟩, offset⟩
        (yyyy ++ '-' :: (mm ++ '-' :: (dd ++ 'T' :: (hh ++ ':' :: (mi ++ ':' :: (ss ++
          (fraction ++ zone)))))))

lemma SpellsFraction.cut {nano : Nat} {cs : List Char} (h : SpellsFraction nano cs) :
    CutFraction nano cs := by
  cases h with
  | none => exact .none
  | digits ne all exact =>
    refine .digits ne all ?_
    rw [exact, Nat.mul_div_cancel _ (Nat.pow_pos (by decide))]

lemma Spells.written {t : Timestamp} {cs : List Char} (h : t.Spells cs) : t.Written cs := by
  cases h with
  | mk years months days hours minutes seconds nanos offsets =>
    exact .mk years months days hours minutes seconds nanos.cut offsets

/-! ### Spellings are dates -/

lemma follows_append {p q cs ds : List Char} (h : Follows p cs) (h' : Follows q ds) :
    Follows (p ++ q) (cs ++ ds) :=
  List.rel_append h h'

lemma follows_cons {c : Char} {p cs : List Char} (hc : c ≠ '0') (h : Follows p cs) :
    Follows (c :: p) (c :: cs) :=
  .cons (by rw [if_neg hc]) h

lemma follows_of_numeral {width n : Nat} {ds : List Char} (h : Numeral width n ds) :
    Follows (List.replicate width '0') ds := by
  rw [← h.length, ← List.map_const', Follows, List.forall₂_map_left_iff, List.forall₂_same]
  exact h.digits

lemma CutFraction.isFraction {nano : Nat} {cs : List Char} (h : CutFraction nano cs) :
    IsFraction cs := by
  cases h with
  | none => exact .inl rfl
  | digits ne all => exact .inr ⟨_, rfl, ne, all⟩

lemma isZone_of_numerals {sign : Char} {h m : Nat} {hh mm : List Char}
    (side : sign = '+' ∨ sign = '-') (hours : Numeral 2 h hh) (minutes : Numeral 2 m mm) :
    IsZone (sign :: (hh ++ ':' :: mm)) := by
  have hminutes : Follows (['0', '0'] ++ ':' :: ['0', '0']) (hh ++ ':' :: mm) :=
    follows_append (follows_of_numeral hours)
      (follows_cons (by decide) (follows_of_numeral minutes))
  rcases side with rfl | rfl
  · exact .inr (.inl (follows_cons (by decide) hminutes))
  · exact .inr (.inr (follows_cons (by decide) hminutes))

lemma SpellsOffset.isZone {offset : Int} {cs : List Char} (h : SpellsOffset offset cs) :
    IsZone cs := by
  cases h with
  | utc => exact .inl rfl
  | east hours minutes => exact isZone_of_numerals (.inl rfl) hours minutes
  | west hours minutes => exact isZone_of_numerals (.inr rfl) hours minutes

lemma isDate_of_numerals {year month day hour minute second : Nat}
    {yyyy mm dd hh mi ss fraction zone : List Char} (years : Numeral 4 year yyyy)
    (months : Numeral 2 month mm) (days : Numeral 2 day dd) (hours : Numeral 2 hour hh)
    (minutes : Numeral 2 minute mi) (seconds : Numeral 2 second ss)
    (hfraction : IsFraction fraction) (hzone : IsZone zone) :
    IsDate (yyyy ++ '-' :: (mm ++ '-' :: (dd ++ 'T' :: (hh ++ ':' :: (mi ++ ':' :: (ss ++
      (fraction ++ zone))))))) := by
  have hstamp : Follows "0000-00-00T00:00:00".toList
      (yyyy ++ '-' :: (mm ++ '-' :: (dd ++ 'T' :: (hh ++ ':' :: (mi ++ ':' :: ss))))) :=
    follows_append (follows_of_numeral years) <| follows_cons (by decide) <|
    follows_append (follows_of_numeral months) <| follows_cons (by decide) <|
    follows_append (follows_of_numeral days) <| follows_cons (by decide) <|
    follows_append (follows_of_numeral hours) <| follows_cons (by decide) <|
    follows_append (follows_of_numeral minutes) <| follows_cons (by decide) <|
    follows_of_numeral seconds
  exact ⟨_, fraction, zone, by simp, hstamp, hfraction, hzone⟩

lemma Written.isDate {t : Timestamp} {cs : List Char} (h : t.Written cs) : IsDate cs := by
  cases h with
  | mk years months days hours minutes seconds nanos offsets =>
    exact isDate_of_numerals years months days hours minutes seconds nanos.isFraction
      offsets.isZone

lemma Spells.isDate {t : Timestamp} {cs : List Char} (h : t.Spells cs) : IsDate cs :=
  h.written.isDate

/-! ### Spellings are read back -/

/-- The digits after the ninth are dropped, which cuts off what is less than a nanosecond. -/
lemma nanoseconds_eq {ds : List Char} (all : ∀ d ∈ ds, d.isDigit = true) :
    nanoseconds ds = decimalValue ds * 10 ^ 9 / 10 ^ ds.length := by
  by_cases hlength : ds.length ≤ 9
  · -- the digits are filled up with zeros
    have htake : ds.take 9 = ds := List.take_of_length_le hlength
    have hnine : 10 ^ 9 = 10 ^ (9 - ds.length) * 10 ^ ds.length := by
      rw [← Nat.pow_add, Nat.sub_add_cancel hlength]
    simp only [nanoseconds, htake, Nat.pow_eq]
    rw [hnine, ← Nat.mul_assoc, Nat.mul_div_cancel _ (Nat.pow_pos (by decide))]
  · -- the digits behind the ninth are the remainder
    have htake : (ds.take 9).length = 9 := by
      rw [List.length_take]
      omega
    have hdrop : 10 ^ ds.length = 10 ^ (ds.drop 9).length * 10 ^ 9 := by
      rw [← Nat.pow_add, List.length_drop]
      congr 1
      omega
    have hvalue : decimalValue ds =
        10 ^ (ds.drop 9).length * decimalValue (ds.take 9) + decimalValue (ds.drop 9) := by
      rw [← decimalValue_append, List.take_append_drop]
    have hrest : decimalValue (ds.drop 9) < 10 ^ (ds.drop 9).length :=
      decimalValue_lt fun d hd => all d (List.mem_of_mem_drop hd)
    simp only [nanoseconds, htake, Nat.sub_self, Nat.pow_eq, Nat.pow_zero, Nat.mul_one]
    calc decimalValue (ds.take 9)
        = decimalValue ds / 10 ^ (ds.drop 9).length := by
          rw [hvalue, Nat.mul_add_div (Nat.pow_pos (by decide)), Nat.div_eq_of_lt hrest,
            Nat.add_zero]
      _ = decimalValue ds * 10 ^ 9 / 10 ^ ds.length := by
        rw [hdrop, Nat.mul_div_mul_right _ _ (Nat.pow_pos (by decide))]

lemma readFraction_append {nano : Nat} {fraction zone : List Char}
    (h : CutFraction nano fraction) (hzone : IsZone zone) :
    readFraction (fraction ++ zone) = some (nano, zone) := by
  obtain ⟨c, rest, rfl, hc⟩ := hzone.head
  have hdigit : c.isDigit = false := by rcases hc with rfl | rfl | rfl <;> rfl
  have hpoint : c ≠ '.' := by rcases hc with rfl | rfl | rfl <;> decide
  cases h with
  | none =>
    exact Reader.orElse_of_eq_none (Reader.bind_of_eq_none (Reader.char_of_ne hpoint rest))
  | @digits _ ds ne all cut =>
    have hrun : Reader.run1 Char.isDigit (ds ++ c :: rest) = some (ds, c :: rest) :=
      Reader.run1_append ne all (stops_cons.mpr hdigit)
    refine Reader.orElse_of_eq_some ?_
    rw [List.cons_append, Reader.bind_of_eq_some (Reader.char_cons '.' _),
      Reader.map_of_eq_some hrun, nanoseconds_eq all, ← cut]

lemma readOffset_signed {sign : Char} {h m : Nat} {hh mm : List Char}
    (side : sign = '+' ∨ sign = '-') (hours : Numeral 2 h hh) (minutes : Numeral 2 m mm) :
    readOffset (sign :: (hh ++ ':' :: mm)) =
      let size : Int := if m ≤ 59 then 60 * h + m else 1440
      some (if sign = '+' then size else -size, []) := by
  have hsign : ['Z', 'z', '+', '-', '\u2212'].contains sign = true := by
    rcases side with rfl | rfl <;> decide
  have hletter : sign.toUpper ≠ 'Z' := by rcases side with rfl | rfl <;> decide
  have hread : Reader.digits 2 mm = some (m, []) := by
    simpa using Reader.digits_append minutes []
  unfold readOffset
  rw [Reader.bind_of_eq_some (Reader.one_cons hsign _), if_neg hletter,
    Reader.bind_of_eq_some (Reader.digits_append hours _),
    Reader.bind_of_eq_some (Reader.char_cons ':' _), Reader.bind_of_eq_some hread]
  rfl

lemma readOffset_of_spells {offset : Int} {zone : List Char} (h : SpellsOffset offset zone) :
    readOffset zone = some (offset, []) := by
  cases h with
  | utc => rfl
  | east hours minutes within =>
    rw [readOffset_signed (.inl rfl) hours minutes, if_pos within]
    rfl
  | west hours minutes within =>
    rw [readOffset_signed (.inr rfl) hours minutes, if_pos within]
    rfl

lemma reader_append {year month day hour minute second nano : Nat} {offset : Int}
    {yyyy mm dd hh mi ss fraction zone : List Char} (years : Numeral 4 year yyyy)
    (months : Numeral 2 month mm) (days : Numeral 2 day dd) (hours : Numeral 2 hour hh)
    (minutes : Numeral 2 minute mi) (seconds : Numeral 2 second ss)
    (nanos : CutFraction nano fraction) (hzone : IsZone zone)
    (offsets : readOffset zone = some (offset, [])) :
    reader (yyyy ++ '-' :: (mm ++ '-' :: (dd ++ 'T' :: (hh ++ ':' :: (mi ++ ':' :: (ss ++
      (fraction ++ zone))))))) =
        some (⟨⟨⟨year, month, day⟩, hour, minute, second, nano⟩, offset⟩, []) := by
  unfold reader
  rw [Reader.bind_of_eq_some (Reader.digits_append years _),
    Reader.bind_of_eq_some (Reader.char_cons '-' _),
    Reader.bind_of_eq_some (Reader.digits_append months _),
    Reader.bind_of_eq_some (Reader.char_cons '-' _),
    Reader.bind_of_eq_some (Reader.digits_append days _),
    Reader.bind_of_eq_some (Reader.one_cons (by decide) _),
    Reader.bind_of_eq_some (Reader.digits_append hours _),
    Reader.bind_of_eq_some (Reader.char_cons ':' _),
    Reader.bind_of_eq_some (Reader.digits_append minutes _),
    Reader.bind_of_eq_some (Reader.char_cons ':' _),
    Reader.bind_of_eq_some (Reader.digits_append seconds _),
    Reader.bind_of_eq_some (readFraction_append nanos hzone),
    Reader.bind_of_eq_some offsets]
  rfl

lemma reader_of_written {t : Timestamp} {cs : List Char} (h : t.Written cs) :
    reader cs = some (t, []) := by
  cases h with
  | mk years months days hours minutes seconds nanos offsets =>
    exact reader_append years months days hours minutes seconds nanos offsets.isZone
      (readOffset_of_spells offsets)

lemma Written.unique {s t : Timestamp} {cs : List Char} (hs : s.Written cs) (ht : t.Written cs) :
    s = t :=
  (Prod.mk.inj (Option.some.inj ((reader_of_written hs).symm.trans (reader_of_written ht)))).1

lemma ofText_of_written {t : Timestamp} {cs : List Char} (h : t.Written cs) (valid : t.Valid) :
    ofText (String.ofList cs) = .ok t := by
  have hwhole : reader.whole? (String.ofList cs).toList = some t := by
    rw [String.toList_ofList, Reader.whole?, reader_of_written h]
  simp only [ofText, hwhole, if_pos valid]

lemma reader_of_spells {t : Timestamp} {cs : List Char} (h : t.Spells cs) :
    reader cs = some (t, []) :=
  reader_of_written h.written

/-- **A spelling is read back.** -/
theorem ofText_of_spells {t : Timestamp} {cs : List Char} (h : t.Spells cs) (valid : t.Valid) :
    ofText (String.ofList cs) = .ok t :=
  ofText_of_written h.written valid

lemma reader_yields :
    reader.Yields fun t => 0 ≤ t.civil.date.year ∧ t.civil.date.year ≤ 9999 := by
  unfold reader
  refine .bind (Reader.digits_yields 4) fun year hyear => ?_
  iterate 12 refine Reader.Yields.after fun _ => ?_
  refine .pure ⟨Int.natCast_nonneg year, ?_⟩
  simp only
  omega

lemma valid_of_ofText {s : String} {t : Timestamp} (h : ofText s = .ok t) :
    t.Valid ∧ 0 ≤ t.civil.date.year ∧ t.civil.date.year ≤ 9999 := by
  unfold ofText Reader.whole? at h
  split at h
  · cases h
  · next t' hwhole =>
    split_ifs at h with hvalid
    obtain rfl := Except.ok.inj h
    split at hwhole
    · next hread =>
      obtain rfl := Option.some.inj hwhole
      exact ⟨hvalid, reader_yields _ _ _ hread⟩
    · cases hwhole

/-! ### Timestamps are written as spellings -/

lemma spellsFraction_fractionText {nano : Nat} (h : nano < 10 ^ 9) :
    SpellsFraction nano (Civil.fractionText nano) := by
  have hdigits : ∀ {width n : Nat}, 0 < width → n < 10 ^ width →
      n * 10 ^ 9 = nano * 10 ^ width → SpellsFraction nano ('.' :: padded width n) := by
    intro width n pos hlt exact
    have hnumeral := numeral_padded pos hlt
    refine .digits ?_ hnumeral.digits ?_
    · exact List.length_pos_iff.mp (by rwa [hnumeral.length])
    · rw [hnumeral.value, hnumeral.length, exact]
  unfold Civil.fractionText
  split_ifs with hzero hmilli hmicro
  · exact hzero ▸ .none
  · exact hdigits (by decide) (by omega) (by omega)
  · exact hdigits (by decide) (by omega) (by omega)
  · exact hdigits (by decide) h rfl

lemma spellsOffset_offsetText {offset : Int} (h : offset.natAbs < 1440) :
    SpellsOffset offset (offsetText offset) := by
  have hhours : Numeral 2 (offset.natAbs / 60) (padded 2 (offset.natAbs / 60)) :=
    numeral_padded (by decide) (by omega)
  have hminutes : Numeral 2 (offset.natAbs % 60) (padded 2 (offset.natAbs % 60)) :=
    numeral_padded (by decide) (by omega)
  have hwithin : offset.natAbs % 60 ≤ 59 := by omega
  unfold offsetText
  split_ifs with hzero hneg
  · exact hzero ▸ .utc
  · have hwest := SpellsOffset.west hhours hminutes hwithin
    rwa [show -(60 * ↑(offset.natAbs / 60) + ↑(offset.natAbs % 60)) = offset by omega] at hwest
  · have heast := SpellsOffset.east hhours hminutes hwithin
    rwa [show 60 * ↑(offset.natAbs / 60) + ↑(offset.natAbs % 60) = offset by omega] at heast

/-- **A timestamp is written as a spelling**, if its year has four digits. -/
theorem spells_toText {t : Timestamp} (valid : t.Valid) (h0 : 0 ≤ t.civil.date.year)
    (h9 : t.civil.date.year ≤ 9999) : t.Spells t.toText.toList := by
  obtain ⟨⟨⟨year, month, day⟩, hour, minute, second, nano⟩, offset⟩ := t
  obtain ⟨⟨⟨-, hmonth, -, hday⟩, hhour, hminute, hsecond, hnano⟩, hoffset⟩ := valid
  obtain ⟨year, rfl⟩ := Int.eq_ofNat_of_zero_le h0
  simp only at hmonth hday hhour hminute hsecond hnano hoffset h9
  have hyear : Civil.yearText (year : Int) = padded 4 year := by
    unfold Civil.yearText
    rw [if_neg (by omega), if_neg (by omega), Int.natAbs_natCast]
  have hlast : day ≤ 31 := hday.trans (Date.daysInMonth_le year month)
  have hspells : Spells ⟨⟨⟨year, month, day⟩, hour, minute, second, nano⟩, offset⟩ _ :=
    .mk (numeral_padded (by decide) (by omega)) (numeral_padded (by decide) (by omega))
      (numeral_padded (by decide) (by omega)) (numeral_padded (by decide) (by omega))
      (numeral_padded (by decide) (by omega)) (numeral_padded (by decide) (by omega))
      (spellsFraction_fractionText hnano) (spellsOffset_offsetText hoffset)
  simpa [toText, Civil.toText, hyear] using hspells

lemma ofText_toText {t : Timestamp} (valid : t.Valid) (h0 : 0 ≤ t.civil.date.year)
    (h9 : t.civil.date.year ≤ 9999) : ofText t.toText = .ok t := by
  have hread := ofText_of_spells (spells_toText valid h0 h9) valid
  rwa [String.ofList_toList] at hread

end Timestamp

end DocFilter
