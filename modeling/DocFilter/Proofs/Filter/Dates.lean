import DocFilter.Proofs.Filter.FanOut
import DocFilter.Proofs.Json.Parts
import DocFilter.Proofs.Query.Dates
import DocFilter.Proofs.Time.Utc

/-!
The dates in a filter. Each one comes from a date of the query and denotes the same instant. In a
year of four digits its text is a date of the query language, and the query with that text in the
place of its own has the same filter; in any other year its text is no token at all.
-/

namespace DocFilter

open Text
open Token (Stream tokenize)

/-! ### Dates in filters -/

namespace Filter

open Query

mutual

/-- There is such a date in a value. -/
inductive Value.HasDate (utc : Civil) : Value → Prop
  | date : Value.HasDate utc (.date utc)
  | document {d : Document} (inner : Document.HasDate utc d) : Value.HasDate utc (.document d)
  | array {items : List Document} {d : Document} (mem : d ∈ items)
      (inner : Document.HasDate utc d) : Value.HasDate utc (.array items)

/-- There is such a date in a filter. -/
inductive Document.HasDate (utc : Civil) : Document → Prop
  | field {fields : List (String × Value)} {key : String} {v : Value} (mem : (key, v) ∈ fields)
      (inner : Value.HasDate utc v) : Document.HasDate utc ⟨fields⟩

end

lemma listToJson_eq_map (ds : List Document) :
    Document.listToJson ds = ds.map Document.toJson := by
  induction ds with
  | nil => rfl
  | cons d ds ih => rw [Document.listToJson, ih, List.map_cons]

lemma fieldsToJson_eq_map (fields : List (String × Value)) :
    Document.fieldsToJson fields = fields.map fun field => (field.1, field.2.toJson) := by
  induction fields with
  | nil => rfl
  | cons field fields ih => rw [Document.fieldsToJson, ih, List.map_cons]

/-- The data of a date. -/
def dateJson (utc : Civil) : Json := .single "$date" (.str utc.toUtcText)

mutual

/-- A date is written in the filter's data. -/
theorem Value.HasDate.part {utc : Civil} : ∀ {v : Value}, v.HasDate utc →
    (dateJson utc).Part v.toJson
  | _, .date => .self
  | _, .document inner => Document.HasDate.part inner
  | _, .array mem inner => by
    rw [Value.toJson, listToJson_eq_map]
    exact .item (List.mem_map_of_mem mem) (Document.HasDate.part inner)

theorem Document.HasDate.part {utc : Civil} : ∀ {d : Document}, d.HasDate utc →
    (dateJson utc).Part d.toJson
  | _, .field mem inner => by
    rw [Document.toJson, fieldsToJson_eq_map]
    exact .field (List.mem_map_of_mem mem) (Value.HasDate.part inner)

end

lemma hasDate_single {utc : Civil} {key : String} {v : Value} :
    (Document.single key v).HasDate utc ↔ v.HasDate utc := by
  constructor
  · rintro ⟨mem, inner⟩
    obtain ⟨-, rfl⟩ := Prod.mk.inj (List.mem_singleton.mp mem)
    exact inner
  · exact fun inner => .field (List.mem_singleton.mpr rfl) inner

lemma hasDate_array {utc : Civil} {ds : List Document} :
    (Value.array ds).HasDate utc ↔ ∃ d ∈ ds, d.HasDate utc :=
  ⟨fun | .array mem inner => ⟨_, mem, inner⟩, fun ⟨_, mem, inner⟩ => .array mem inner⟩

lemma hasDate_ofLiteral {utc : Civil} {v : Literal} :
    (Value.ofLiteral v).HasDate utc ↔ ∃ t, v = .date t ∧ t.utc = utc := by
  constructor
  · intro h
    cases v with
    | date t =>
      cases h
      exact ⟨t, rfl, rfl⟩
    | _ => cases h
  · rintro ⟨t, rfl, rfl⟩
    exact .date

lemma hasDate_comparison {utc : Civil} {op : RelOp} {f : String} {v : Literal} :
    (comparison op f v).HasDate utc ↔ (Value.ofLiteral v).HasDate utc := by
  obtain ⟨value, hvalue, ⟨-, rfl⟩ | ⟨symbol, -, rfl⟩⟩ := exists_comparison_eq op f v
  · rw [hvalue, hasDate_single]
  · rw [hvalue, hasDate_single]
    exact ⟨fun | .document inner => hasDate_single.mp inner,
      fun inner => .document (hasDate_single.mpr inner)⟩

lemma hasDate_fanOut {utc : Civil} {fields : List String} {v : Literal} :
    (fanOut fields v).HasDate utc ↔ fields ≠ [] ∧ (Value.ofLiteral v).HasDate utc := by
  rw [fanOut, hasDate_single, hasDate_array]
  constructor
  · rintro ⟨d, hd, inner⟩
    obtain ⟨f, hf, rfl⟩ := List.mem_map.mp hd
    exact ⟨List.ne_nil_of_mem hf, hasDate_single.mp inner⟩
  · rintro ⟨ne, inner⟩
    obtain ⟨f, hf⟩ := List.exists_mem_of_ne_nil fields ne
    exact ⟨_, List.mem_map_of_mem hf, hasDate_single.mpr inner⟩

lemma hasDate_documents {utc : Civil} {fields : List String} {op : LogOp} {ns : List Node} :
    (document fields (.logical op ns)).HasDate utc ↔
      ∃ n ∈ ns, (document fields n).HasDate utc := by
  rw [document, hasDate_single, hasDate_array, documents_eq_map]
  simp only [List.mem_map, exists_exists_and_eq_and]

lemma exists_date_of_hasDate {utc : Civil} {fields : List String} {n : Node} (full : n.Full)
    (h : (document fields n).HasDate utc) : ∃ t, .date t ∈ n.literals ∧ t.utc = utc := by
  induction full with
  | literal =>
    obtain ⟨t, rfl, rfl⟩ := hasDate_ofLiteral.mp (hasDate_fanOut.mp h).2
    exact ⟨t, List.mem_singleton.mpr rfl, rfl⟩
  | relational =>
    obtain ⟨t, rfl, rfl⟩ := hasDate_ofLiteral.mp (hasDate_comparison.mp h)
    exact ⟨t, List.mem_singleton.mpr rfl, rfl⟩
  | logical _ _ ih =>
    obtain ⟨n, hn, hdate⟩ := hasDate_documents.mp h
    obtain ⟨t, ht, rfl⟩ := ih n hn hdate
    exact ⟨t, Node.mem_literalsIn.mpr ⟨n, hn, ht⟩, rfl⟩

lemma hasDate_of_mem_literals {t : Timestamp} {fields : List String} (ne : fields ≠ []) {n : Node}
    (full : n.Full) (h : .date t ∈ n.literals) : (document fields n).HasDate t.utc := by
  induction full with
  | literal =>
    exact hasDate_fanOut.mpr ⟨ne, hasDate_ofLiteral.mpr ⟨t, (List.mem_singleton.mp h).symm, rfl⟩⟩
  | relational =>
    exact hasDate_comparison.mpr (hasDate_ofLiteral.mpr ⟨t, (List.mem_singleton.mp h).symm, rfl⟩)
  | logical _ _ ih =>
    obtain ⟨n, hn, hdate⟩ := Node.mem_literalsIn.mp h
    exact hasDate_documents.mpr ⟨n, hn, ih n hn hdate⟩

end Filter

/-! ### Compiled queries -/

open Query DocFilter.Filter

section

variable {fields : List String} {strict : Bool} {text : String} {doc : Document}

lemma compileQuery_eq_ok_iff :
    compileQuery fields strict text = .ok doc ↔
      ∃ n, parse strict text = .ok n ∧ doc = document fields n := by
  have hresult : ∀ n, parse strict text = .ok n →
      compileQuery fields strict text = .ok (document fields n) := by
    intro n hn
    obtain ⟨ts, rest, -, hderives, -⟩ := parse_eq_ok_iff.mp hn
    have hdocument := ofNode_eq_ok hderives.full fields
    unfold parse at hn
    simp only [compileQuery, compileQueryTraced, hn, compileTraced, hdocument]
  constructor
  · intro h
    cases hparse : parse strict text with
    | ok n =>
      rw [hresult n hparse] at h
      exact ⟨n, rfl, (Except.ok.inj h).symm⟩
    | error e =>
      unfold parse at hparse
      simp [compileQuery, compileQueryTraced, hparse] at h
  · rintro ⟨n, hn, rfl⟩
    exact hresult n hn

lemma exists_dateIn_of_hasDate {utc : Civil} (h : compileQuery fields strict text = .ok doc)
    (hdate : doc.HasDate utc) : ∃ a d b v, DateIn text a d b v ∧ v.utc = utc := by
  obtain ⟨n, hn, rfl⟩ := compileQuery_eq_ok_iff.mp h
  obtain ⟨ts, rest, hstream, hderives, -⟩ := parse_eq_ok_iff.mp hn
  obtain ⟨v, hv, rfl⟩ := exists_date_of_hasDate hderives.full hdate
  obtain ⟨a, d, b, hin⟩ := exists_dateIn hstream hderives hv
  exact ⟨a, d, b, v, hin, rfl⟩

lemma hasDate_of_dateIn {a d b : List Char} {v : Timestamp}
    (h : compileQuery fields strict text = .ok doc) (hdate : DateIn text a d b v)
    (ne : fields ≠ []) : doc.HasDate v.utc := by
  obtain ⟨n, hn, rfl⟩ := compileQuery_eq_ok_iff.mp h
  obtain ⟨ts, rest, hstream, hderives, -⟩ := parse_eq_ok_iff.mp hn
  exact hasDate_of_mem_literals ne hderives.full (hdate.mem_literals hstream hderives)

lemma normal_of_dateIn {a d b : List Char} {v : Timestamp}
    (h : compileQuery fields strict text = .ok doc) (hdate : DateIn text a d b v)
    (h0 : 0 ≤ v.utc.date.year) (h9 : v.utc.date.year ≤ 9999) :
    tokenize v.utc.toUtcText = .ok [⟨.date, v.utc.toUtcText, 0⟩] ∧
    (∃ w, parse true v.utc.toUtcText = .ok (.literal (.date w)) ∧ w.instant = v.instant) ∧
    compileQuery fields strict (String.ofList (a ++ (v.utc.toUtcText.toList ++ b))) = .ok doc := by
  have hvalid := hdate.valid
  have hutc := Timestamp.utc_valid hvalid
  have hspells := Timestamp.spells_toUtcText hutc h0 h9
  have hvalue := Timestamp.ofText_of_spells hspells (Timestamp.ofUtc_valid hutc)
  refine ⟨tokenize_of_isDate hspells.isDate, ⟨.ofUtc v.utc, ?_, ?_⟩, ?_⟩
  · rw [String.ofList_toList] at hvalue
    exact parse_of_isDate hspells.isDate hvalue
  · rw [Timestamp.instant_ofUtc, Timestamp.instant_utc hvalid]
  · -- with the other date the query is read as the same one
    obtain ⟨n, hn, rfl⟩ := compileQuery_eq_ok_iff.mp h
    obtain ⟨m, hm, hsame⟩ := parse_replace_date hdate hspells.isDate hvalue
      (Timestamp.same_ofUtc_utc hvalid) hn
    exact compileQuery_eq_ok_iff.mpr ⟨m, hm, document_congr hsame⟩

end

/-- **The dates in a filter are those of the query, in UTC.** Each is written in the filter's data
and denotes the instant of the date it comes from. If its year has four digits, its text is a date
of the query language for the same instant, and the query with that text in the place of the date
has the same filter. In any other year the text starts with a sign, which is no token. -/
theorem compileQuery_dates (fields : List String) (strict : Bool) (text : String) (doc : Document)
    (h : compileQuery fields strict text = .ok doc) :
    (∀ utc, doc.HasDate utc → (dateJson utc).Part doc.toJson ∧
      ∃ a d b v, DateIn text a d b v ∧ v.utc = utc) ∧
    ∀ a d b v s, DateIn text a d b v → s = v.utc.toUtcText →
      (fields ≠ [] → doc.HasDate v.utc) ∧ v.utc.instant = v.instant ∧
      (0 ≤ v.utc.date.year ∧ v.utc.date.year ≤ 9999 →
        tokenize s = .ok [⟨.date, s, 0⟩] ∧
        (∃ w, parse true s = .ok (.literal (.date w)) ∧ w.instant = v.instant) ∧
        compileQuery fields strict (String.ofList (a ++ (s.toList ++ b))) = .ok doc) ∧
      (¬ (0 ≤ v.utc.date.year ∧ v.utc.date.year ≤ 9999) →
        ∃ sign, tokenize s = .error ⟨sign, 0⟩) := by
  refine ⟨fun utc hutc => ⟨hutc.part, exists_dateIn_of_hasDate h hutc⟩, ?_⟩
  rintro a d b v _ hdate rfl
  refine ⟨hasDate_of_dateIn h hdate, Timestamp.instant_utc hdate.valid, ?_, fun hyear => ?_⟩
  · rintro ⟨h0, h9⟩
    exact normal_of_dateIn h hdate h0 h9
  · obtain ⟨sign, cs, htext, hsign⟩ := Timestamp.exists_sign hyear
    exact ⟨sign, tokenize_of_sign htext hsign⟩

/-- The last hour of a leap day in UTC, written as the first hour of March. -/
theorem compileQuery_dates_leap :
    ∃ doc, doc = .single "day" (.document (.single "$gte" (.date ⟨⟨2024, 2, 29⟩, 23, 30, 0, 0⟩))) ∧
      compileQuery ["title"] true "ge(day,2024-03-01T00:30:00+01:00)" = .ok doc ∧
      DateIn "ge(day,2024-03-01T00:30:00+01:00)" "ge(day,".toList
        "2024-03-01T00:30:00+01:00".toList [')'] ⟨⟨⟨2024, 3, 1⟩, 0, 30, 0, 0⟩, 60⟩ ∧
      tokenize "2024-02-29T23:30:00Z" = .ok [⟨.date, "2024-02-29T23:30:00Z", 0⟩] ∧
      compileQuery ["title"] true "ge(day,2024-02-29T23:30:00Z)" = .ok doc := by
  have hspells := Timestamp.Spells.mk
    (⟨rfl, List.all_eq_true.mp rfl, rfl⟩ : Numeral 4 2024 ['2', '0', '2', '4'])
    (⟨rfl, List.all_eq_true.mp rfl, rfl⟩ : Numeral 2 3 ['0', '3'])
    (⟨rfl, List.all_eq_true.mp rfl, rfl⟩ : Numeral 2 1 ['0', '1'])
    (⟨rfl, List.all_eq_true.mp rfl, rfl⟩ : Numeral 2 0 ['0', '0'])
    (⟨rfl, List.all_eq_true.mp rfl, rfl⟩ : Numeral 2 30 ['3', '0'])
    (⟨rfl, List.all_eq_true.mp rfl, rfl⟩ : Numeral 2 0 ['0', '0']) .none
    (.east (⟨rfl, List.all_eq_true.mp rfl, rfl⟩ : Numeral 2 1 ['0', '1'])
      (⟨rfl, List.all_eq_true.mp rfl, rfl⟩ : Numeral 2 0 ['0', '0']) (by decide))
  have hoperator : Token.Lexeme (some .relationalOperator) ['g', 'e']
      "(day,2024-03-01T00:30:00+01:00)".toList :=
    .of_shape (by decide : String.ofList ['g', 'e'] ∈ _) (Token.stops_cons.mpr rfl)
  have hfield : Token.Lexeme (some .identifier) ['d', 'a', 'y']
      ",2024-03-01T00:30:00+01:00)".toList :=
    .of_shape ⟨'d', ['a', 'y'], rfl, .inl rfl, List.all_eq_true.mp rfl, by decide⟩
      (Token.stops_cons.mpr rfl)
  have htiles : Token.Tiling "ge(day,2024-03-01T00:30:00+01:00)".toList _ [] :=
    .cons hoperator (.cons .openParen (.cons hfield (.cons .comma
      (.cons (.date hspells.isDate) (.cons .closeParen .nil)))))
  have hvalue : Timestamp.ofText "2024-03-01T00:30:00+01:00" =
      .ok ⟨⟨⟨2024, 3, 1⟩, 0, 30, 0, 0⟩, 60⟩ := Timestamp.ofText_of_spells hspells (by decide)
  have hscan : Stream.ofText "ge(day,2024-03-01T00:30:00+01:00)" =
      .prepend [⟨.relationalOperator, "ge", 0⟩, ⟨.openParen, "(", 2⟩, ⟨.identifier, "day", 3⟩,
        ⟨.comma, ",", 6⟩, ⟨.date, "2024-03-01T00:30:00+01:00", 7⟩, ⟨.closeParen, ")", 32⟩]
        (.finished 33) := Token.ofText_eq htiles Token.noLexeme_nil
  have hread : ∃ ts rest, Stream.ofText "ge(day,2024-03-01T00:30:00+01:00)" = .prepend ts rest ∧
      Derives ts (.relational .ge "day" (.date ⟨⟨⟨2024, 3, 1⟩, 0, 30, 0, 0⟩, 60⟩)) ∧
      Parser.MayFollow true rest ∧ ⟨.date, "2024-03-01T00:30:00+01:00", 7⟩ ∈ ts :=
    ⟨_, _, hscan, .relational ⟨rfl, rfl⟩ rfl rfl rfl (.date rfl hvalue) rfl, trivial, by decide⟩
  obtain ⟨ts, rest, hstream, hderives, hrest, hmem⟩ := hread
  have hdate : DateIn "ge(day,2024-03-01T00:30:00+01:00)" "ge(day,".toList
      "2024-03-01T00:30:00+01:00".toList [')'] ⟨⟨⟨2024, 3, 1⟩, 0, 30, 0, 0⟩, 60⟩ :=
    ⟨rfl, ⟨ts, rest, _, hstream, hderives, hmem⟩, hvalue⟩
  have hcompile : compileQuery ["title"] true "ge(day,2024-03-01T00:30:00+01:00)" =
      .ok (document ["title"] _) :=
    compileQuery_eq_ok_iff.mpr ⟨_, parse_eq_ok_iff.mpr ⟨ts, rest, hstream, hderives, hrest⟩, rfl⟩
  have hnormal := ((compileQuery_dates ["title"] true _ _ hcompile).2 _ _ _ _ _ hdate rfl).2.2.1
    (by decide)
  exact ⟨_, rfl, hcompile, hdate, hnormal.1, hnormal.2.2⟩

/-- In the last hours of the year 9999 a time behind UTC is one of the year 10000. -/
example : (⟨⟨⟨9999, 12, 31⟩, 23, 59, 59, 0⟩, -60⟩ : Timestamp).utc.toUtcText =
    "+10000-01-01T00:59:59Z" := by decide

end DocFilter
