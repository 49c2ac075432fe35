import DocFilter.Proofs.Filter.Dates
import DocFilter.Proofs.Time.Calendar
import DocFilter.Proofs.Time.Reading
import DocFilter.Proofs.Time.UtcText
import Mathlib.Data.List.TFAE

/-!
Dates count as instants, from the text of a query to the text of its filter. Two dates are the same
in trees, in filters and in what is written just when they are the same instant.
-/

namespace DocFilter

open Query DocFilter.Filter
open Token (tokenize)

/-! ### Parts of filters -/

lemma Json.part_date_iff {x y : String} :
    (Json.single "$date" (.str x)).Part (.single "$date" (.str y)) ↔ x = y := by
  rw [part_single_iff, part_str_iff]
  simp [Json.single]

/-- In a filter there is a date that is written as `x`. -/
def Filter.Document.Writes (d : Document) (x : String) : Prop :=
  (Json.single "$date" (.str x)).Part d.toJson

/-- What becomes of a date of the query language: `s` is what it denotes, and `x` what is written in
its filters. -/
structure DateOf (text : String) (n : Node) (s : Timestamp) (x : String) : Prop where
  tree : n = .literal (.date s)
  valid : s.Valid
  written : ∀ t : Timestamp, t.Written text.toList ↔ t = s
  /-- A bare date is compared with each of the fields, if there are any. -/
  bare : ∀ fields strict, ∃ d, compileQuery fields strict text = .ok d ∧
    ∀ z, d.Writes z ↔ fields ≠ [] ∧ z = x
  compared : ∀ fields op f, ∃ d, ofNode fields (.relational op f (.date s)) = .ok d ∧
    ∀ z, d.Writes z ↔ z = x
  /-- There is one time in UTC that is the same instant, and its fields are written. -/
  shown : ∃ c : Civil, (∀ d : Civil, d.Valid ∧ d.instant = s.instant ↔ d = c) ∧ c.Prints x.toList

namespace Filter

variable {fields : List String} {t : Timestamp} {x : String}

lemma writes_single_iff {key : String} {v : Value} (h : v.toJson ≠ .str x) :
    (Document.single key v).Writes x ↔ (Json.single "$date" (.str x)).Part v.toJson := by
  have hne : Json.single "$date" (.str x) ≠ .single key v.toJson := by
    intro heq
    obtain ⟨-, hvalue⟩ := Prod.mk.inj (List.cons.inj (Json.obj.inj heq)).1
    exact h hvalue.symm
  exact Json.part_single_iff.trans (or_iff_right hne)

lemma writes_date_iff {key : String} :
    (Document.single key (.date t.utc)).Writes x ↔ x = t.utc.toUtcText := by
  rw [writes_single_iff (by simp [Value.toJson, Json.single])]
  exact Json.part_date_iff

lemma writes_comparison_iff {op : RelOp} {f : String} :
    (comparison op f (.date t)).Writes x ↔ x = t.utc.toUtcText := by
  obtain ⟨value, hvalue, ⟨-, rfl⟩ | ⟨symbol, -, rfl⟩⟩ := exists_comparison_eq op f (.date t)
  · rw [hvalue]
    exact writes_date_iff
  · rw [hvalue, writes_single_iff (by simp [Value.toJson, Document.toJson, Document.single])]
    exact writes_date_iff

lemma writes_fanOut_iff : (fanOut fields (.date t)).Writes x ↔
    fields ≠ [] ∧ x = t.utc.toUtcText := by
  have harr : ∀ ks, Json.single "$date" (.str x) ≠ .arr ks := by simp [Json.single]
  rw [fanOut, writes_single_iff (by simp [Value.toJson]), Value.toJson, Json.part_arr_iff,
    or_iff_right (harr _), listToJson_eq_map, List.map_map]
  have hitem : ∀ f, (Json.single "$date" (.str x)).Part
      (Document.single f (.ofLiteral (.date t))).toJson ↔ x = t.utc.toUtcText :=
    fun _ => writes_date_iff
  simp only [List.mem_map, Function.comp_apply, exists_exists_and_eq_and, hitem, exists_and_right]
  rw [← List.isEmpty_eq_false_iff, List.isEmpty_eq_false_iff_exists_mem]

lemma fanOut_eq_iff {v w : Literal} (ne : fields ≠ []) :
    fanOut fields v = fanOut fields w ↔ v.same w = true := by
  obtain ⟨f, fs, rfl⟩ := List.exists_cons_of_ne_nil ne
  constructor
  · intro h
    obtain ⟨-, hitems⟩ := single_eq_iff.mp h
    obtain ⟨hhead, -⟩ := List.cons_eq_cons.mp (Value.array.inj hitems)
    exact ofLiteral_eq_iff.mp (single_eq_iff.mp hhead).2
  · intro h
    have hvalue := ofLiteral_eq_iff.mpr h
    simp only [fanOut, hvalue]

lemma comparison_eq_iff {op : RelOp} {f : String} {v w : Literal} :
    comparison op f v = comparison op f w ↔ v.same w = true := by
  constructor
  · exact fun h => (comparison_inj h).2.2
  · intro h
    have hvalue := ofLiteral_eq_iff.mpr h
    simp only [comparison, hvalue]

end Filter

/-! ### Dates of the query language -/

section

variable {fields : List String} {strict : Bool} {a : String} {s : Timestamp}

/-- **The dates that are accepted** are those that denote a time that exists. -/
theorem accepted_date_iff : (tokenize a = .ok [⟨.date, a, 0⟩] ∧ ∃ n, parse strict a = .ok n) ↔
    ∃ s : Timestamp, s.Valid ∧ s.Written a.toList := by
  constructor
  · rintro ⟨ha, n, hn⟩
    have hdate := isDate_of_tokenize ha
    obtain ⟨s, hs, -⟩ := (parse_eq_ok_iff_of_isDate hdate).mp hn
    exact ⟨s, (Timestamp.valid_of_ofText hs).1, Timestamp.written_of_ofText hdate hs⟩
  · rintro ⟨s, valid, written⟩
    have hs := Timestamp.ofText_of_written written valid
    rw [String.ofList_toList] at hs
    exact ⟨tokenize_of_isDate written.isDate, _,
      (parse_eq_ok_iff_of_isDate written.isDate).mpr ⟨s, hs, rfl⟩⟩

lemma compileQuery_of_date (h : Token.IsDate a.toList) (hs : Timestamp.ofText a = .ok s) :
    compileQuery fields strict a = .ok (fanOut fields (.date s)) :=
  compileQuery_eq_ok_iff.mpr ⟨_, (parse_eq_ok_iff_of_isDate h).mpr ⟨s, hs, rfl⟩, rfl⟩

lemma dateOf_literal (h : Token.IsDate a.toList) (hs : Timestamp.ofText a = .ok s) :
    DateOf a (.literal (.date s)) s s.utc.toUtcText where
  tree := rfl
  valid := (Timestamp.valid_of_ofText hs).1
  written t := by
    have hwritten := Timestamp.written_of_ofText h hs
    exact ⟨fun ht => ht.unique hwritten, fun ht => ht ▸ hwritten⟩
  bare _ _ := ⟨_, compileQuery_of_date h hs, fun _ => writes_fanOut_iff⟩
  compared _ _ _ := ⟨_, rfl, fun _ => writes_comparison_iff⟩
  shown := by
    have valid := (Timestamp.valid_of_ofText hs).1
    exact ⟨s.utc, fun d => Timestamp.valid_instant_iff valid,
      Civil.prints_toUtcText (Timestamp.utc_valid valid)⟩

end

/-- **Dates count as instants.** Of two dates that are accepted the trees are the same, the filters
are equal, bare or in a comparison, and the same text is written for them just when they are the
same instant. What is written are the fields of the only time in UTC that is this instant. -/
theorem dates_count_as_instants {strict strict' : Bool} {a b : String} {n m : Node}
    (ha : tokenize a = .ok [⟨.date, a, 0⟩]) (hb : tokenize b = .ok [⟨.date, b, 0⟩])
    (hn : parse strict a = .ok n) (hm : parse strict' b = .ok m) :
    ∃ s t x y, DateOf a n s x ∧ DateOf b m t y ∧ ∀ fields fields' op f, fields ≠ [] →
      [n.same m = true,
        compileQuery fields strict a = compileQuery fields strict' b,
        ofNode fields' (.relational op f (.date s)) = ofNode fields' (.relational op f (.date t)),
        x = y,
        s.instant = t.instant].TFAE := by
  have hdate := isDate_of_tokenize ha
  have hdate' := isDate_of_tokenize hb
  obtain ⟨s, hs, rfl⟩ := (parse_eq_ok_iff_of_isDate hdate).mp hn
  obtain ⟨t, ht, rfl⟩ := (parse_eq_ok_iff_of_isDate hdate').mp hm
  refine ⟨s, t, _, _, dateOf_literal hdate hs, dateOf_literal hdate' ht,
    fun fields fields' op f ne => ?_⟩
  have valid := (Timestamp.valid_of_ofText hs).1
  have valid' := (Timestamp.valid_of_ofText ht).1
  have hsame : (Literal.date s).same (.date t) = true ↔ s.utc = t.utc := decide_eq_true_iff
  have hbare : compileQuery fields strict a = compileQuery fields strict' b ↔ s.utc = t.utc := by
    rw [compileQuery_of_date hdate hs, compileQuery_of_date hdate' ht, Except.ok.injEq,
      fanOut_eq_iff ne, hsame]
  have hcompared : ofNode fields' (.relational op f (.date s)) =
      ofNode fields' (.relational op f (.date t)) ↔ s.utc = t.utc := by
    rw [ofNode, ofNode, Except.ok.injEq, comparison_eq_iff, hsame]
  have htext : s.utc.toUtcText = t.utc.toUtcText ↔ s.utc = t.utc :=
    ⟨Civil.toUtcText_inj (Timestamp.utc_valid valid) (Timestamp.utc_valid valid'),
      congrArg Civil.toUtcText⟩
  -- each of them says that the times in UTC are equal
  refine List.tfae_of_forall (s.utc = t.utc) _ ?_
  simp only [List.forall_mem_cons, List.not_mem_nil, false_imp_iff, implies_true, and_true]
  exact ⟨hsame, hbare, hcompared, htext, (Timestamp.utc_eq_iff valid valid').symm⟩

/-- A leap second of a leap day, on the next day east of it, with more digits than count. -/
theorem dates_count_as_instants_leap :
    ∃ n m s t x, parse true "2024-03-01T00:30:60.1234567891+01:00" = .ok n ∧
      parse true "2024-02-29T22:30:60.1234567899-01:00" = .ok m ∧ n.same m = true ∧
      DateOf "2024-03-01T00:30:60.1234567891+01:00" n s x ∧
      DateOf "2024-02-29T22:30:60.1234567899-01:00" m t x ∧ s.instant = t.instant := by
  have hdate : Token.IsDate "2024-03-01T00:30:60.1234567891+01:00".toList :=
    ⟨"2024-03-01T00:30:60".toList, ".1234567891".toList, "+01:00".toList, rfl,
      by unfold Token.Follows; decide, .inr ⟨_, rfl, by decide, List.all_eq_true.mp rfl⟩,
      .inr (.inl (by unfold Token.Follows; decide))⟩
  have hdate' : Token.IsDate "2024-02-29T22:30:60.1234567899-01:00".toList :=
    ⟨"2024-02-29T22:30:60".toList, ".1234567899".toList, "-01:00".toList, rfl,
      by unfold Token.Follows; decide, .inr ⟨_, rfl, by decide, List.all_eq_true.mp rfl⟩,
      .inr (.inr (by unfold Token.Follows; decide))⟩
  have hvalue : Timestamp.ofText "2024-03-01T00:30:60.1234567891+01:00" =
    .ok ⟨⟨⟨2024, 3, 1⟩, 0, 30, 60, 123456789⟩, 60⟩ := rfl
  have hvalue' : Timestamp.ofText "2024-02-29T22:30:60.1234567899-01:00" =
    .ok ⟨⟨⟨2024, 2, 29⟩, 22, 30, 60, 123456789⟩, -60⟩ := rfl
  have hparse := parse_of_isDate hdate hvalue
  have hparse' := parse_of_isDate hdate' hvalue'
  obtain ⟨s, t, x, y, hs, ht, htfae⟩ := dates_count_as_instants (tokenize_of_isDate hdate)
    (tokenize_of_isDate hdate') hparse hparse'
  have hsame : Node.same (.literal (.date ⟨⟨⟨2024, 3, 1⟩, 0, 30, 60, 123456789⟩, 60⟩))
      (.literal (.date ⟨⟨⟨2024, 2, 29⟩, 22, 30, 60, 123456789⟩, -60⟩)) = true := by decide
  have hequal := htfae ["title"] [] .eq "day" (List.cons_ne_nil "title" [])
  have htext : x = y := (hequal.out 0 3).mp hsame
  have hinstant : s.instant = t.instant := (hequal.out 0 4).mp hsame
  exact ⟨_, _, s, t, x, hparse, hparse', hsame, hs, htext ▸ ht, hinstant⟩

/-- Just before the year 0 a time is one of the year -1. -/
example : (⟨⟨⟨0, 1, 1⟩, 0, 0, 0, 0⟩, 1⟩ : Timestamp).utc.toUtcText = "-0001-12-31T23:59:00Z" := by
  decide

end DocFilter
