import DocFilter.Proofs.Time.Spelling
import DocFilter.Proofs.Token.Apart

/-!
What a date is read as. It is read as a timestamp when the fields that it shows are those of a
date-time that exists, and then it denotes what is written: its fields are the numbers that its
digits stand for, its fraction is cut off after the nanoseconds, and its offset is the one that is
written.
-/

namespace DocFilter.Timestamp

open Text Token

/-- The numbers that a date shows, its fraction and the sign of its offset apart. -/
structure Fields where
  year : Nat
  month : Nat
  day : Nat
  hour : Nat
  minute : Nat
  second : Nat
  offsetHours : Nat
  offsetMinutes : Nat
  deriving DecidableEq, Repr

/-- A day of the calendar, a time of the day or a leap second, and an offset of less than a day. -/
def Fields.Real (f : Fields) : Prop :=
  Date.Valid ⟨f.year, f.month, f.day⟩ ∧ f.hour ≤ 23 ∧ f.minute ≤ 59 ∧ f.second ≤ 60 ∧
    f.offsetHours ≤ 23 ∧ f.offsetMinutes ≤ 59

instance (f : Fields) : Decidable f.Real := inferInstanceAs (Decidable (_ ∧ _))

/-- The hours and minutes of an offset, to either side. -/
inductive ShowsOffset : Nat → Nat → List Char → Prop
  | utc : ShowsOffset 0 0 ['Z']
  | signed {h m : Nat} {sign : Char} {hh mm : List Char} (side : sign = '+' ∨ sign = '-')
      (hours : Numeral 2 h hh) (minutes : Numeral 2 m mm) :
      ShowsOffset h m (sign :: (hh ++ ':' :: mm))

/-- `f.Shows cs`: the text has the form of a date and these fields. -/
inductive Fields.Shows : Fields → List Char → Prop
  | mk {f : Fields} {yyyy mm dd hh mi ss fraction zone : List Char} (years : Numeral 4 f.year yyyy)
      (months : Numeral 2 f.month mm) (days : Numeral 2 f.day dd) (hours : Numeral 2 f.hour hh)
      (minutes : Numeral 2 f.minute mi) (seconds : Numeral 2 f.second ss)
      (fractions : IsFraction fraction) (offsets : ShowsOffset f.offsetHours f.offsetMinutes zone) :
      f.Shows (yyyy ++ '-' :: (mm ++ '-' :: (dd ++ 'T' :: (hh ++ ':' :: (mi ++ ':' :: (ss ++
        (fraction ++ zone)))))))

/-! ### Every date shows fields -/

lemma exists_mark_of_follows {mark : Char} {pattern cs : List Char} (hmark : mark ≠ '0')
    (h : Follows (mark :: pattern) cs) : ∃ rest, cs = mark :: rest ∧ Follows pattern rest := by
  cases h with
  | @cons _ c _ rest hc hrest =>
    rw [if_neg hmark] at hc
    exact ⟨rest, by rw [hc], hrest⟩

lemma exists_numeral_of_follows {width : Nat} {cs : List Char}
    (h : Follows (List.replicate width '0') cs) : ∃ n, Numeral width n cs :=
  ⟨_, by rw [h.length, List.length_replicate], h.isDigit, rfl⟩

lemma exists_field_of_follows (width : Nat) {mark : Char} {pattern cs : List Char}
    (hmark : mark ≠ '0') (h : Follows (List.replicate width '0' ++ mark :: pattern) cs) :
    ∃ n ds rest, cs = ds ++ mark :: rest ∧ Numeral width n ds ∧ Follows pattern rest := by
  obtain ⟨ds, tail, rfl, hds, htail⟩ := h.split
  obtain ⟨n, hn⟩ := exists_numeral_of_follows hds
  obtain ⟨rest, rfl, hrest⟩ := exists_mark_of_follows hmark htail
  exact ⟨n, ds, rest, rfl, hn, hrest⟩

/-- Two digits and a mark. -/
abbrev twoDigits (mark : Char) (pattern : List Char) : List Char :=
  List.replicate 2 '0' ++ mark :: pattern

lemma exists_showsOffset {cs : List Char} (hzone : IsZone cs) : ∃ h m, ShowsOffset h m cs := by
  have hsigned : ∀ sign : Char, sign = '+' ∨ sign = '-' →
      Follows (sign :: twoDigits ':' (List.replicate 2 '0')) cs → ∃ h m, ShowsOffset h m cs := by
    intro sign side hfollows
    have hmark : sign ≠ '0' := by rcases side with rfl | rfl <;> decide
    obtain ⟨tail, rfl, htail⟩ := exists_mark_of_follows hmark hfollows
    obtain ⟨h, hh, mm, rfl, hours, hmm⟩ := exists_field_of_follows 2 (by decide) htail
    obtain ⟨m, minutes⟩ := exists_numeral_of_follows hmm
    exact ⟨h, m, .signed side hours minutes⟩
  rcases hzone with rfl | heast | hwest
  · exact ⟨0, 0, .utc⟩
  · exact hsigned '+' (.inl rfl) heast
  · exact hsigned '-' (.inr rfl) hwest

lemma exists_fields {cs : List Char} (h : IsDate cs) : ∃ f : Fields, f.Shows cs := by
  obtain ⟨stamp, fraction, zone, rfl, hstamp, hfraction, hzone⟩ := h
  have hfields : Follows (List.replicate 4 '0' ++ '-' :: twoDigits '-' (twoDigits 'T'
      (twoDigits ':' (twoDigits ':' (List.replicate 2 '0'))))) stamp := hstamp
  -- the fields are cut off one after the other, each with the mark behind it
  obtain ⟨year, yyyy, rest, rfl, years, hrest⟩ := exists_field_of_follows 4 (by decide) hfields
  obtain ⟨month, mm, rest, rfl, months, hrest⟩ := exists_field_of_follows 2 (by decide) hrest
  obtain ⟨day, dd, rest, rfl, days, hrest⟩ := exists_field_of_follows 2 (by decide) hrest
  obtain ⟨hour, hh, rest, rfl, hours, hrest⟩ := exists_field_of_follows 2 (by decide) hrest
  obtain ⟨minute, mi, ss, rfl, minutes, hss⟩ := exists_field_of_follows 2 (by decide) hrest
  obtain ⟨second, seconds⟩ := exists_numeral_of_follows hss
  obtain ⟨offsetHours, offsetMinutes, offsets⟩ := exists_showsOffset hzone
  simp only [List.append_assoc, List.cons_append]
  exact ⟨⟨year, month, day, hour, minute, second, offsetHours, offsetMinutes⟩,
    .mk years months days hours minutes seconds hfraction offsets⟩

lemma ShowsOffset.isZone {h m : Nat} {cs : List Char} (hshows : ShowsOffset h m cs) :
    IsZone cs := by
  cases hshows with
  | utc => exact .inl rfl
  | signed side hours minutes => exact isZone_of_numerals side hours minutes

lemma Fields.Shows.isDate {f : Fields} {cs : List Char} (h : f.Shows cs) : IsDate cs := by
  cases h with
  | mk years months days hours minutes seconds fractions offsets =>
    exact isDate_of_numerals years months days hours minutes seconds fractions offsets.isZone

/-! ### What a date is read as -/

lemma exists_cut_of_isFraction {cs : List Char} (h : IsFraction cs) :
    ∃ nano, CutFraction nano cs := by
  rcases h with rfl | ⟨ds, rfl, ne, all⟩
  · exact ⟨0, .none⟩
  · exact ⟨_, .digits ne all rfl⟩

lemma CutFraction.lt {nano : Nat} {cs : List Char} (h : CutFraction nano cs) :
    nano < 1000000000 := by
  cases h with
  | none => decide
  | @digits _ ds ne all cut =>
    rw [cut, Nat.div_lt_iff_lt_mul (Nat.pow_pos (by decide)), Nat.mul_comm]
    exact Nat.mul_lt_mul_of_pos_left (decimalValue_lt all) (by decide)

/-- An offset with too many minutes is read as a whole day. -/
lemma readOffset_of_minutes {sign : Char} {h m : Nat} {hh mm : List Char}
    (side : sign = '+' ∨ sign = '-') (hours : Numeral 2 h hh) (minutes : Numeral 2 m mm)
    (excess : ¬ m ≤ 59) :
    ∃ offset : Int, readOffset (sign :: (hh ++ ':' :: mm)) = some (offset, []) ∧
      ¬ offset.natAbs < 1440 := by
  refine ⟨if sign = '+' then 1440 else -1440, ?_, by split_ifs <;> decide⟩
  rw [readOffset_signed side hours minutes, if_neg excess]

lemma exists_offset_of_shows {h m : Nat} {cs : List Char} (hshows : ShowsOffset h m cs) :
    ∃ offset, readOffset cs = some (offset, []) ∧
      (offset.natAbs < 1440 ↔ h ≤ 23 ∧ m ≤ 59) ∧
      (offset.natAbs < 1440 → SpellsOffset offset cs) := by
  cases hshows with
  | utc => exact ⟨0, rfl, by decide, fun _ => .utc⟩
  | @signed _ _ sign hh mm side hours minutes =>
    by_cases within : m ≤ 59
    · obtain ⟨offset, hoffset, hsize⟩ : ∃ offset : Int,
          SpellsOffset offset (sign :: (hh ++ ':' :: mm)) ∧ offset.natAbs = 60 * h + m := by
        rcases side with rfl | rfl
        · exact ⟨_, .east hours minutes within, by omega⟩
        · exact ⟨_, .west hours minutes within, by omega⟩
      exact ⟨offset, readOffset_of_spells hoffset, by omega, fun _ => hoffset⟩
    · -- neither the text nor what is read is in range
      obtain ⟨offset, hread, hover⟩ := readOffset_of_minutes side hours minutes within
      exact ⟨offset, hread, by omega, fun hlt => absurd hlt hover⟩

/-- A date is read, as one that exists if its fields do. It denotes what is read if the offset is in
range. -/
lemma exists_reader_of_shows {f : Fields} {cs : List Char} (h : f.Shows cs) :
    ∃ t, reader cs = some (t, []) ∧ (t.Valid ↔ f.Real) ∧
      (t.offset.natAbs < 1440 → t.Written cs) := by
  cases h with
  | mk years months days hours minutes seconds fractions offsets =>
    obtain ⟨nano, nanos⟩ := exists_cut_of_isFraction fractions
    obtain ⟨offset, hread, hrange, hoffset⟩ := exists_offset_of_shows offsets
    refine ⟨⟨⟨⟨f.year, f.month, f.day⟩, f.hour, f.minute, f.second, nano⟩, offset⟩,
      reader_append years months days hours minutes seconds nanos offsets.isZone hread,
      ?_, fun hlt => ?_⟩
    · simp only [Valid, Civil.Valid, Fields.Real, hrange, nanos.lt, and_true, and_assoc]
    · exact .mk years months days hours minutes seconds nanos (hoffset hlt)

/-- **A date is read as a timestamp exactly when its fields exist**, and else it is out of range. -/
theorem ofText_of_shows {f : Fields} {s : String} (h : f.Shows s.toList) :
    (f.Real → ∃ t, ofText s = .ok t ∧ t.Written s.toList) ∧
      (¬ f.Real → ofText s = .error .outOfRange) := by
  obtain ⟨t, hread, hvalid, hwritten⟩ := exists_reader_of_shows h
  have hwhole : reader.whole? s.toList = some t := by rw [Reader.whole?, hread]
  have hresult : ofText s = if t.Valid then .ok t else .error .outOfRange := by
    simp only [ofText, hwhole]
  rw [hresult]
  constructor
  · intro hreal
    have valid := hvalid.mpr hreal
    exact ⟨t, if_pos valid, hwritten valid.2⟩
  · intro hreal
    exact if_neg fun valid => hreal (hvalid.mp valid)

/-- **An accepted date denotes what is written.** -/
theorem written_of_ofText {s : String} {t : Timestamp} (date : IsDate s.toList)
    (h : ofText s = .ok t) : t.Written s.toList := by
  obtain ⟨f, hshows⟩ := exists_fields date
  by_cases hreal : f.Real
  · obtain ⟨t', hread, hwritten⟩ := (ofText_of_shows hshows).1 hreal
    rw [hread] at h
    cases h
    exact hwritten
  · rw [(ofText_of_shows hshows).2 hreal] at h
    cases h

end DocFilter.Timestamp
