import DocFilter.Proofs.Time.Utc
import Mathlib.Algebra.Order.BigOperators.Group.Finset

/-!
A day of the calendar has a number of its own, and a time in UTC is the only one of its instant.
-/

namespace DocFilter

namespace Date

variable {d e : Date}

/-! ### Days and their numbers -/

lemma daysBeforeYear_mono {y z : Int} (h : y ≤ z) : daysBeforeYear y ≤ daysBeforeYear z := by
  unfold daysBeforeYear
  omega

lemma daysBeforeMonth_mono (year : Int) {m n : Nat} (h : m ≤ n) :
    daysBeforeMonth year m ≤ daysBeforeMonth year n :=
  Finset.sum_le_sum_of_subset (Finset.Ico_subset_Ico_right h)

lemma day_bounds (h : d.Valid) :
    daysBeforeMonth d.year d.month < daysBeforeMonth d.year d.month + d.day ∧
      daysBeforeMonth d.year d.month + d.day ≤ daysBeforeMonth d.year (d.month + 1) := by
  obtain ⟨h1, -, hday, hlast⟩ := h
  rw [daysBeforeMonth_succ d.year h1]
  omega

lemma dayNumber_bounds (h : d.Valid) :
    daysBeforeYear d.year < d.dayNumber ∧ d.dayNumber ≤ daysBeforeYear (d.year + 1) := by
  have hday := day_bounds h
  have hyear := daysBeforeYear_succ d.year
  have hdec : daysBeforeMonth d.year 13 = daysBeforeMonth d.year 12 + 31 :=
    daysBeforeMonth_succ d.year (by decide)
  have hmonth : daysBeforeMonth d.year (d.month + 1) ≤ daysBeforeMonth d.year 13 :=
    daysBeforeMonth_mono d.year (Nat.succ_le_succ h.2.1)
  unfold dayNumber
  omega

lemma year_le (hd : d.Valid) (he : e.Valid) (h : d.dayNumber ≤ e.dayNumber) : d.year ≤ e.year := by
  -- an earlier year ends before the later one starts
  by_contra hlt
  have hyears : daysBeforeYear (e.year + 1) ≤ daysBeforeYear d.year :=
    daysBeforeYear_mono (by omega)
  have := dayNumber_bounds hd
  have := dayNumber_bounds he
  omega

lemma month_le (hd : d.Valid) (he : e.Valid) (hyear : d.year = e.year)
    (h : d.dayNumber ≤ e.dayNumber) : d.month ≤ e.month := by
  by_contra hlt
  have hmonths : daysBeforeMonth e.year (e.month + 1) ≤ daysBeforeMonth e.year d.month :=
    daysBeforeMonth_mono e.year (by omega)
  have hlower := day_bounds hd
  have hupper := day_bounds he
  unfold dayNumber at h
  rw [hyear] at h hlower
  omega

/-- **No two days have the same number.** -/
theorem dayNumber_inj (hd : d.Valid) (he : e.Valid) (h : d.dayNumber = e.dayNumber) : d = e := by
  have hyear : d.year = e.year := le_antisymm (year_le hd he h.le) (year_le he hd h.ge)
  have hmonth : d.month = e.month :=
    le_antisymm (month_le hd he hyear h.le) (month_le he hd hyear.symm h.ge)
  have hday : d.day = e.day := by
    unfold dayNumber at h
    rw [hyear, hmonth] at h
    omega
  calc d = ⟨d.year, d.month, d.day⟩ := rfl
    _ = e := by rw [hyear, hmonth, hday]

end Date

/-! ### Times and their instants -/

/-- **No two times in UTC are the same instant.** -/
theorem Civil.instant_inj {c d : Civil} (hc : c.Valid) (hd : d.Valid)
    (h : c.instant = d.instant) : c = d := by
  obtain ⟨date, hour, minute, second, nano⟩ := c
  obtain ⟨date', hour', minute', second', nano'⟩ := d
  obtain ⟨hdate, hhour, hminute, -, -⟩ := hc
  obtain ⟨hdate', hhour', hminute', -, -⟩ := hd
  simp only at hdate hhour hminute hdate' hhour' hminute'
  simp only [Civil.instant, Instant.mk.injEq] at h
  obtain ⟨htime, rfl, rfl⟩ := h
  obtain rfl : date = date' := Date.dayNumber_inj hdate hdate' (by omega)
  simp only [Civil.mk.injEq, true_and, and_true]
  omega

namespace Timestamp

variable {s t : Timestamp}

/-- A timestamp is the same instant as one time in UTC. -/
lemma valid_instant_iff (h : t.Valid) {c : Civil} :
    c.Valid ∧ c.instant = t.instant ↔ c = t.utc := by
  constructor
  · rintro ⟨valid, hinstant⟩
    exact Civil.instant_inj valid (utc_valid h) (hinstant.trans (instant_utc h).symm)
  · rintro rfl
    exact ⟨utc_valid h, instant_utc h⟩

lemma utc_eq_iff (hs : s.Valid) (ht : t.Valid) : s.utc = t.utc ↔ s.instant = t.instant := by
  rw [← valid_instant_iff ht, instant_utc hs]
  exact and_iff_right (utc_valid hs)

lemma eq_of_instant_offset (hs : s.Valid) (ht : t.Valid) (hinstant : s.instant = t.instant)
    (hoffset : s.offset = t.offset) : s = t := by
  obtain ⟨c, offset⟩ := s
  obtain ⟨d, offset'⟩ := t
  obtain rfl : offset = offset' := hoffset
  have hcivil : c.instant = d.instant := by
    simp only [instant, Instant.mk.injEq, Civil.instant] at hinstant ⊢
    obtain ⟨hminute, hrest⟩ := hinstant
    exact ⟨by omega, hrest⟩
  obtain rfl := Civil.instant_inj hs.1 ht.1 hcivil
  rfl

end Timestamp

end DocFilter
