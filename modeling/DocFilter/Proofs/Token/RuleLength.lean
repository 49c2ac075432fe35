import DocFilter.Proofs.Token.Lexeme
import Mathlib.Data.List.TakeWhile

/-!
What the parts of the rules take of a text: runs of a class, patterns and dates.
-/

namespace DocFilter.Token

open Text

namespace Rule

lemma takeWhile_append {p : Char → Bool} {w rest : List Char} (hw : ∀ c ∈ w, p c = true)
    (hs : Stops p rest) : (w ++ rest).takeWhile p = w := by
  have hrest : rest.takeWhile p = [] := by
    rcases rest with _ | ⟨c, cs⟩
    · rfl
    · simp [stops_cons.mp hs]
  rw [List.takeWhile_append_of_pos hw, hrest, List.append_nil]

lemma run_append {p : Char → Bool} {w rest : List Char} (hw : ∀ c ∈ w, p c = true)
    (hs : Stops p rest) : run p (w ++ rest) = w.length := by
  unfold run
  rw [takeWhile_append hw hs]

lemma run_cons_of_neg {p : Char → Bool} {c : Char} {cs : List Char} (h : p c = false) :
    run p (c :: cs) = 0 := by
  simp [run, h]

lemma exists_run (p : Char → Bool) (cs : List Char) :
    ∃ w rest, cs = w ++ rest ∧ (∀ c ∈ w, p c = true) ∧ Stops p rest := by
  refine ⟨cs.takeWhile p, cs.dropWhile p, List.takeWhile_append_dropWhile.symm,
    fun c hc => List.mem_takeWhile_imp hc, fun c hc => ?_⟩
  have := List.head?_dropWhile_not p cs
  rw [Option.mem_def.mp hc] at this
  simpa using this

lemma fits_iff {pattern cs : List Char} :
    fits pattern cs = true ↔ ∃ w rest, cs = w ++ rest ∧ Follows pattern w := by
  induction pattern generalizing cs with
  | nil => exact ⟨fun _ => ⟨[], cs, rfl, .nil⟩, fun _ => by simp [fits]⟩
  | cons p pattern ih =>
    rcases cs with _ | ⟨c, cs⟩
    · simp [fits, Follows]
    · constructor
      · intro h
        simp only [fits, Bool.and_eq_true] at h
        obtain ⟨w, rest, rfl, hw⟩ := ih.mp h.2
        refine ⟨c :: w, rest, rfl, .cons ?_ hw⟩
        split_ifs at h ⊢ <;> simpa using h.1
      · rintro ⟨_, rest, h, hw⟩
        cases hw with
        | @cons _ c' _ w hc hw =>
          obtain ⟨rfl, rfl⟩ := List.cons_eq_cons.mp h
          simp only [fits, Bool.and_eq_true]
          refine ⟨?_, ih.mpr ⟨w, rest, rfl, hw⟩⟩
          split_ifs at hc ⊢ <;> simpa using hc

lemma fits_append {pattern w : List Char} (h : Follows pattern w) (rest : List Char) :
    fits pattern (w ++ rest) = true :=
  fits_iff.mpr ⟨w, rest, rfl, h⟩

/-! ### Dates -/

lemma fraction_append {fs zs : List Char} (hf : IsFraction fs) (hz : IsZone zs)
    (rest : List Char) : fraction (fs ++ (zs ++ rest)) = fs.length := by
  obtain ⟨c, zs, rfl, hc⟩ := hz.head
  have hdigit : Stops Char.isDigit (c :: zs ++ rest) :=
    stops_cons.mpr (by rcases hc with rfl | rfl | rfl <;> rfl)
  rcases hf with rfl | ⟨ds, rfl, hne, hds⟩
  · rcases hc with rfl | rfl | rfl <;> rfl
  · have hrun := run_append hds hdigit
    have : ds.length ≠ 0 := by simpa using hne
    simp only [List.cons_append] at hrun ⊢
    simp [fraction, hrun, this]

lemma zone_append {zs : List Char} (h : IsZone zs) (rest : List Char) :
    zone (zs ++ rest) = zs.length := by
  have hsigned : ∀ p pattern, p ≠ '0' → p ≠ 'Z' → Follows (p :: pattern) zs →
      fits ['Z'] (zs ++ rest) = false := by
    intro p pattern h0 hZ h
    obtain ⟨c, cs, rfl, hc⟩ := h.head
    rw [if_neg h0] at hc
    simp [fits, hc, hZ]
  rcases h with rfl | h
  · rfl
  · -- the rule tries the letter first, which does not fit a sign
    have hlen : zs.length = 6 := by
      rcases h with h | h
      · exact h.length
      · exact h.length
    have hutc : fits ['Z'] (zs ++ rest) = false := by
      rcases h with h | h
      · exact hsigned '+' _ (by decide) (by decide) h
      · exact hsigned '-' _ (by decide) (by decide) h
    have hfits : (fits "+00:00".toList (zs ++ rest) ||
        fits "-00:00".toList (zs ++ rest)) = true := by
      rcases h with h | h
      · rw [fits_append h, Bool.true_or]
      · rw [fits_append h, Bool.or_true]
    unfold zone
    rw [hutc, if_neg Bool.false_ne_true, if_pos hfits, hlen]

lemma timestamp_append {d : List Char} (h : IsDate d) (rest : List Char) :
    timestamp (d ++ rest) = d.length := by
  obtain ⟨stamp, fs, zs, rfl, hs, hf, hz⟩ := h
  have hlen : stamp.length = 19 := hs.length
  have hstamp : Rule.stamp (stamp ++ (fs ++ zs) ++ rest) = 19 + fs.length := by
    rw [List.append_assoc, Rule.stamp, if_pos (fits_append hs _), ← hlen, List.drop_left,
      List.append_assoc, fraction_append hf hz]
  have hzone : zone (List.drop (19 + fs.length) (stamp ++ (fs ++ zs) ++ rest)) = zs.length := by
    rw [← hlen, ← List.length_append, List.append_assoc, List.append_assoc, ← List.append_assoc,
      List.drop_left, zone_append hz]
  obtain ⟨c, zs, rfl, -⟩ := hz.head
  simp only [timestamp, hstamp, hzone]
  simp [hlen]
  omega

lemma exists_fraction (cs : List Char) :
    ∃ fs rest, cs = fs ++ rest ∧ IsFraction fs ∧ fs.length = fraction cs := by
  rcases cs with _ | ⟨c, cs⟩
  · exact ⟨[], [], rfl, .inl rfl, rfl⟩
  · by_cases hc : c = '.'
    · subst hc
      obtain ⟨ds, rest, rfl, hds, hstop⟩ := exists_run Char.isDigit cs
      have hrun := run_append hds hstop
      by_cases hne : ds = []
      · -- a point without digits behind it is no fraction
        subst hne
        exact ⟨[], _, rfl, .inl rfl, by simpa [fraction] using hrun⟩
      · refine ⟨'.' :: ds, rest, rfl, .inr ⟨ds, rfl, hne, hds⟩, ?_⟩
        simp [fraction, hrun, hne]
    · refine ⟨[], c :: cs, rfl, .inl rfl, ?_⟩
      rw [fraction]
      · rfl
      · simpa using hc

lemma exists_zone {cs : List Char} (h : zone cs ≠ 0) :
    ∃ zs rest, cs = zs ++ rest ∧ IsZone zs := by
  unfold zone at h
  split_ifs at h with hZ hsign
  · obtain ⟨zs, rest, rfl, hzs⟩ := fits_iff.mp hZ
    refine ⟨zs, rest, rfl, .inl ?_⟩
    cases hzs with
    | cons hc hnil => cases hnil; simpa using hc
  · rcases (Bool.or_eq_true _ _).mp hsign with hplus | hminus
    · obtain ⟨zs, rest, rfl, hzs⟩ := fits_iff.mp hplus
      exact ⟨zs, rest, rfl, .inr (.inl hzs)⟩
    · obtain ⟨zs, rest, rfl, hzs⟩ := fits_iff.mp hminus
      exact ⟨zs, rest, rfl, .inr (.inr hzs)⟩
  · exact absurd rfl h

lemma exists_date {cs : List Char} (h : timestamp cs ≠ 0) :
    ∃ d rest, cs = d ++ rest ∧ IsDate d := by
  have hparts : ¬ (stamp cs = 0 ∨ zone (cs.drop (stamp cs)) = 0) := by
    intro hnone
    exact h (by simp only [timestamp, hnone, if_true])
  obtain ⟨hstamp, hzone⟩ := not_or.mp hparts
  have hfits : fits "0000-00-00T00:00:00".toList cs = true := by
    by_contra hno
    exact hstamp (by rw [stamp, if_neg hno])
  unfold stamp at hzone
  rw [if_pos hfits] at hzone
  obtain ⟨st, rest, rfl, hst⟩ := fits_iff.mp hfits
  have hlen : st.length = 19 := hst.length
  obtain ⟨fs, rest, rfl, hfs, hflen⟩ := exists_fraction rest
  rw [← hlen, List.drop_left, ← hflen, ← List.length_append, ← List.append_assoc,
    List.drop_left] at hzone
  obtain ⟨zs, rest, rfl, hzs⟩ := exists_zone hzone
  exact ⟨st ++ (fs ++ zs), rest, by simp, st, fs, zs, rfl, hst, hfs, hzs⟩

lemma timestamp_eq_zero_iff {cs : List Char} :
    timestamp cs = 0 ↔ ∀ d, d <+: cs → ¬ IsDate d := by
  constructor
  · rintro h d ⟨rest, rfl⟩ hd
    obtain ⟨c, ds, rfl, -⟩ := hd.head
    rw [timestamp_append hd] at h
    exact absurd h (by simp)
  · intro h
    by_contra hne
    obtain ⟨d, rest, rfl, hd⟩ := exists_date hne
    exact h d ⟨rest, rfl⟩ hd

end Rule

end DocFilter.Token
