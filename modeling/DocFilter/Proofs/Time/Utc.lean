import DocFilter.Proofs.Time.Instant
import DocFilter.Proofs.Time.Spelling

/-!
The time in UTC of a timestamp, and the text it is written as.
-/

namespace DocFilter

open Text

namespace Date

lemma next_valid {d : Date} (h : d.Valid) : d.next.Valid := by
  obtain ⟨h1, h12, hday, hlast⟩ := h
  unfold next
  split_ifs with hd hm
  · exact ⟨h1, h12, by simp only; omega, by simp only; omega⟩
  · exact ⟨by simp only; omega, by simp only; omega, le_rfl, one_le_daysInMonth _ _⟩
  · exact ⟨le_rfl, by simp, le_rfl, one_le_daysInMonth _ _⟩

end Date

namespace Timestamp

/-- A time in UTC as a timestamp. -/
def ofUtc (c : Civil) : Timestamp := ⟨c, 0⟩

lemma utc_valid {t : Timestamp} (h : t.Valid) : t.utc.Valid := by
  obtain ⟨⟨hdate, -, -, hsecond, hnano⟩, -⟩ := h
  have hminute : (t.utcMinute % 1440).toNat < 1440 := by omega
  refine ⟨?_, ?_, ?_, hsecond, hnano⟩
  · simp only [utc]
    split_ifs
    · exact Date.prev_valid hdate
    · exact hdate
    · exact Date.next_valid hdate
  · simp only [utc]
    omega
  · simp only [utc]
    omega

lemma ofUtc_valid {c : Civil} (h : c.Valid) : (ofUtc c).Valid := ⟨h, Nat.zero_lt_succ 1439⟩

lemma utc_ofUtc {c : Civil} (h : c.Valid) : (ofUtc c).utc = c := by
  obtain ⟨date, hour, minute, second, nano⟩ := c
  obtain ⟨-, hhour, hminute, -, -⟩ := h
  simp only at hhour hminute
  have hlocal : (ofUtc ⟨date, hour, minute, second, nano⟩).utcMinute = 60 * hour + minute := by
    simp only [utcMinute, ofUtc]
    omega
  have hday : ((60 * hour + minute : Int) % 1440).toNat = 60 * hour + minute := by omega
  unfold utc
  rw [hlocal, if_neg (by omega), if_pos (by omega), hday]
  simp only [ofUtc, Civil.mk.injEq, true_and, and_true]
  omega

lemma instant_ofUtc (c : Civil) : (ofUtc c).instant = c.instant := by
  simp [instant, ofUtc]

lemma same_ofUtc_utc {t : Timestamp} (h : t.Valid) : t.same (ofUtc t.utc) = true :=
  decide_eq_true (utc_ofUtc (utc_valid h)).symm

lemma spells_toUtcText {c : Civil} (h : c.Valid) (h0 : 0 ≤ c.date.year) (h9 : c.date.year ≤ 9999) :
    (ofUtc c).Spells c.toUtcText.toList :=
  spells_toText (ofUtc_valid h) h0 h9

lemma exists_sign {c : Civil} (h : ¬ (0 ≤ c.date.year ∧ c.date.year ≤ 9999)) :
    ∃ sign cs, c.toUtcText.toList = sign :: cs ∧ (sign = '-' ∨ sign = '+') := by
  unfold Civil.toUtcText Civil.toText Civil.yearText
  rw [String.toList_ofList]
  split_ifs with hneg hlarge
  · exact ⟨'-', _, rfl, .inl rfl⟩
  · exact ⟨'+', _, rfl, .inr rfl⟩
  · omega

end Timestamp

end DocFilter
