import DocFilter.Time.Timestamp
import Mathlib.Algebra.BigOperators.Intervals

/-!
Instants, by counting the days of the proleptic Gregorian calendar. The time in UTC that a
timestamp is turned into is the same instant.
-/

namespace DocFilter

namespace Date

/-- The days before a year, from the first day of the year 1. -/
def daysBeforeYear (year : Int) : Int :=
  365 * (year - 1) + (year - 1) / 4 - (year - 1) / 100 + (year - 1) / 400

/-- The days of a year before a month. -/
def daysBeforeMonth (year : Int) (month : Nat) : Nat :=
  ∑ m ∈ Finset.Ico 1 month, daysInMonth year m

/-- The number of a day, where the first day of the year 1 has the number 1. -/
def dayNumber (d : Date) : Int :=
  daysBeforeYear d.year + daysBeforeMonth d.year d.month + d.day

example : dayNumber ⟨1970, 1, 1⟩ = 719163 := by decide

lemma daysBeforeMonth_succ (year : Int) {month : Nat} (h : 1 ≤ month) :
    daysBeforeMonth year (month + 1) = daysBeforeMonth year month + daysInMonth year month :=
  Finset.sum_Ico_succ_top h _

lemma isLeap_iff {year : Int} :
    isLeap year = true ↔ year % 4 = 0 ∧ (year % 100 ≠ 0 ∨ year % 400 = 0) := by
  simp only [isLeap, Bool.and_eq_true, Bool.or_eq_true, decide_eq_true_eq]

lemma daysBeforeYear_succ (year : Int) :
    daysBeforeYear (year + 1) = daysBeforeYear year + daysBeforeMonth year 12 + 31 := by
  have hmonths : daysBeforeMonth year 12 = if isLeap year then 335 else 334 := by
    unfold daysBeforeMonth
    rw [Finset.sum_Ico_eq_sum_range]
    simp only [Finset.sum_range_succ, daysInMonth]
    split_ifs <;> rfl
  rw [hmonths]
  simp only [daysBeforeYear]
  split_ifs with h
  · rw [isLeap_iff] at h
    omega
  · rw [isLeap_iff] at h
    omega

lemma dayNumber_next {d : Date} (h : d.Valid) : d.next.dayNumber = d.dayNumber + 1 := by
  obtain ⟨h1, h12, hday, hlast⟩ := h
  unfold next
  split_ifs with hd hm
  · simp only [dayNumber]
    omega
  · have := daysBeforeMonth_succ d.year h1
    simp only [dayNumber]
    omega
  · have hdec : d.month = 12 := by omega
    have := daysBeforeYear_succ d.year
    have : daysBeforeMonth (d.year + 1) 1 = 0 := rfl
    rw [hdec] at hlast hd
    simp only [dayNumber, hdec]
    simp only [daysInMonth] at hlast hd
    omega

lemma one_le_daysInMonth (year : Int) (month : Nat) : 1 ≤ daysInMonth year month := by
  unfold daysInMonth
  split
  · split_ifs <;> omega
  all_goals omega

lemma prev_valid {d : Date} (h : d.Valid) : d.prev.Valid := by
  obtain ⟨h1, h12, hday, hlast⟩ := h
  unfold prev
  split_ifs with hd hm
  · exact ⟨h1, h12, by simp only; omega, by simp only; omega⟩
  · exact ⟨by simp only; omega, by simp only; omega, one_le_daysInMonth _ _, le_rfl⟩
  · exact ⟨by simp, by simp, by simp, by simp [daysInMonth]⟩

lemma next_prev {d : Date} (h : d.Valid) : d.prev.next = d := by
  obtain ⟨year, month, day⟩ := d
  obtain ⟨h1, h12, hday, hlast⟩ := h
  simp only at h1 h12 hday hlast
  simp only [prev]
  split_ifs with hd hm
  · have hlt : day - 1 < daysInMonth year month := by omega
    simp only [next, if_pos hlt, Nat.sub_add_cancel hday]
  · have hm12 : month - 1 < 12 := by omega
    have hone : day = 1 := by omega
    simp only [next, lt_irrefl, if_false, if_pos hm12, Nat.sub_add_cancel h1, hone]
  · have hone : month = 1 ∧ day = 1 := by omega
    simp [next, daysInMonth, hone]

lemma dayNumber_prev {d : Date} (h : d.Valid) : d.prev.dayNumber = d.dayNumber - 1 := by
  have := dayNumber_next (prev_valid h)
  rw [next_prev h] at this
  omega

end Date

/-- An instant: a minute, counted from the first day of the year 1, a second of that minute, and
nanoseconds. A leap second is the second 60 of its minute. -/
structure Instant where
  minute : Int
  second : Nat
  nano : Nat
  deriving DecidableEq, Repr

/-- The instant of a time in UTC. -/
def Civil.instant (c : Civil) : Instant :=
  ⟨1440 * c.date.dayNumber + 60 * c.hour + c.minute, c.second, c.nano⟩

namespace Timestamp

/-- The instant of a local time at an offset. -/
def instant (t : Timestamp) : Instant :=
  { t.civil.instant with minute := t.civil.instant.minute - t.offset }

lemma dayNumber_utc {t : Timestamp} (h : t.Valid) :
    t.utc.date.dayNumber = t.civil.date.dayNumber + t.utcMinute / 1440 := by
  obtain ⟨⟨hdate, hhour, hminute, -, -⟩, hoffset⟩ := h
  have hrange : -1440 < t.utcMinute ∧ t.utcMinute < 2880 := by
    simp only [utcMinute]
    omega
  simp only [utc]
  split_ifs with hneg hlt
  · rw [Date.dayNumber_prev hdate]
    omega
  · omega
  · rw [Date.dayNumber_next hdate]
    omega

/-- **Turning a timestamp to UTC keeps the instant.** -/
theorem instant_utc {t : Timestamp} (h : t.Valid) : t.utc.instant = t.instant := by
  have hday := dayNumber_utc h
  have hminute : (60 * t.utc.hour + t.utc.minute : Int) = t.utcMinute % 1440 := by
    simp only [utc]
    omega
  have hlocal : t.utcMinute = 60 * t.civil.hour + t.civil.minute - t.offset := rfl
  simp only [Civil.instant, instant, Instant.mk.injEq]
  refine ⟨?_, rfl, rfl⟩
  omega

end Timestamp

end DocFilter
