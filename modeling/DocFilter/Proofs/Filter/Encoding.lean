import DocFilter.Proofs.Filter.Dates
import DocFilter.Proofs.Json.Values
import DocFilter.Proofs.Time.UtcText

/-!
The JSON text of a filter tells all of it: the order of the keys, keys that repeat, and the sort of
each value. Only a stored document that looks like a date is written as something else.
-/

namespace DocFilter.Filter

open Query

/-! ### Stored values -/

mutual

/-- The value is the other one or stores it, at some depth. -/
inductive Value.Stores : Value → Value → Prop
  | self {v : Value} : Value.Stores v v
  | document {d : Document} {w : Value} (inner : Document.Stores d w) :
      Value.Stores (.document d) w
  | array {items : List Document} {d : Document} {w : Value} (mem : d ∈ items)
      (inner : Document.Stores d w) : Value.Stores (.array items) w

/-- The document stores the value, at some depth. -/
inductive Document.Stores : Document → Value → Prop
  | field {fields : List (String × Value)} {key : String} {v w : Value}
      (mem : (key, v) ∈ fields) (inner : Value.Stores v w) : Document.Stores ⟨fields⟩ w

end

/-- No stored document looks like a date. -/
def Document.NoDatePair (d : Document) : Prop :=
  ∀ s, ¬ d.Stores (.document (.single "$date" (.string s)))

/-- Every stored date is one that a text denotes. -/
def Document.DatesFromText (d : Document) : Prop :=
  ∀ utc, d.Stores (.date utc) → ∃ text t, Timestamp.ofText text = .ok t ∧ t.utc = utc

/-- A value that is not written as one of another sort, and a date that exists. -/
def Value.Plain : Value → Prop
  | .document d => ∀ s, d ≠ .single "$date" (.string s)
  | .date utc => utc.Valid
  | _ => True

lemma plain_of_stores {d : Document} {v : Value} (hpair : d.NoDatePair) (hdates : d.DatesFromText)
    (h : d.Stores v) : v.Plain := by
  cases v with
  | document e =>
    rintro s rfl
    exact hpair s h
  | date utc =>
    obtain ⟨text, t, ht, rfl⟩ := hdates utc h
    exact Timestamp.utc_valid (Timestamp.valid_of_ofText ht).1
  | _ => trivial

/-! ### The data of a filter -/

lemma eq_string_of_toJson {v : Value} {s : String} (h : v.toJson = .str s) : v = .string s := by
  cases v with
  | string t => rw [Json.str.inj h]
  | document d =>
    obtain ⟨fields⟩ := d
    cases h
  | _ => cases h

lemma exists_of_toJson_eq_dateJson {d : Document} {utc : Civil} (h : d.toJson = dateJson utc) :
    ∃ s, d = .single "$date" (.string s) := by
  obtain ⟨fields⟩ := d
  rw [Document.toJson, dateJson, Json.single, Json.obj.injEq, fieldsToJson_eq_map] at h
  obtain ⟨⟨key, v⟩, rfl, hfield⟩ := List.map_eq_singleton_iff.mp h
  obtain ⟨rfl, hv⟩ := Prod.mk.inj hfield
  obtain rfl : v = .string utc.toUtcText := eq_string_of_toJson hv
  exact ⟨_, rfl⟩

lemma date_inj {s t : Civil} (hs : s.Valid) (ht : t.Valid) (h : dateJson s = dateJson t) :
    s = t := by
  obtain ⟨hpair, -⟩ := List.cons.inj (Json.obj.inj h)
  exact Civil.toUtcText_inj hs ht (Json.str.inj (Prod.mk.inj hpair).2)

mutual

/-- Plain values are told from each other by their data. -/
theorem Value.toJson_inj : ∀ {v w : Value}, (∀ u, v.Stores u → u.Plain) →
    (∀ u, w.Stores u → u.Plain) → v.toJson = w.toJson → v = w
  | .document d, w, hv, hw, h => by
    cases w with
    | document e =>
      have hd : ∀ u, d.Stores u → u.Plain := fun u hu => hv u (.document hu)
      have he : ∀ u, e.Stores u → u.Plain := fun u hu => hw u (.document hu)
      rw [Document.toJson_inj hd he h]
    | date utc =>
      -- only a document that is written as a date would do, and that is not plain
      obtain ⟨s, hs⟩ := exists_of_toJson_eq_dateJson h
      exact absurd hs (hv _ .self s)
    | _ =>
      obtain ⟨fields⟩ := d
      cases h
  | .array ds, w, hv, hw, h => by
    cases w with
    | array es =>
      have hds : ∀ d ∈ ds, ∀ u, d.Stores u → u.Plain := fun d hd u hu => hv u (.array hd hu)
      have hes : ∀ e ∈ es, ∀ u, e.Stores u → u.Plain := fun e he u hu => hw u (.array he hu)
      rw [Document.listToJson_inj hds hes (Json.arr.inj h)]
    | document e =>
      obtain ⟨fields⟩ := e
      cases h
    | _ => cases h
  | .string s, w, _, _, h => (eq_string_of_toJson h.symm).symm
  | .int n, w, _, _, h => by
    cases w with
    | int m => rw [Json.int.inj h]
    | document e =>
      obtain ⟨fields⟩ := e
      cases h
    | _ => cases h
  | .bool b, w, _, _, h => by
    cases w with
    | bool a => rw [Json.bool.inj h]
    | document e =>
      obtain ⟨fields⟩ := e
      cases h
    | _ => cases h
  | .date utc, w, hv, hw, h => by
    cases w with
    | document e =>
      obtain ⟨s, hs⟩ := exists_of_toJson_eq_dateJson h.symm
      exact absurd hs (hw _ .self s)
    | date utc' => rw [date_inj (hv _ .self) (hw _ .self) h]
    | _ => cases h

theorem Document.toJson_inj : ∀ {d e : Document}, (∀ u, d.Stores u → u.Plain) →
    (∀ u, e.Stores u → u.Plain) → d.toJson = e.toJson → d = e
  | ⟨fs⟩, ⟨gs⟩, hd, he, h => by
    have hfs : ∀ f ∈ fs, ∀ u, f.2.Stores u → u.Plain := fun f hf u hu => hd u (.field hf hu)
    have hgs : ∀ g ∈ gs, ∀ u, g.2.Stores u → u.Plain := fun g hg u hu => he u (.field hg hu)
    rw [Document.fieldsToJson_inj hfs hgs (Json.obj.inj h)]

theorem Document.listToJson_inj : ∀ {ds es : List Document},
    (∀ d ∈ ds, ∀ u, d.Stores u → u.Plain) → (∀ e ∈ es, ∀ u, e.Stores u → u.Plain) →
    Document.listToJson ds = Document.listToJson es → ds = es
  | [], es, _, _, h => by
    cases es with
    | nil => rfl
    | cons e es => cases h
  | d :: ds, es, hd, he, h => by
    cases es with
    | nil => cases h
    | cons e es =>
      rw [List.forall_mem_cons] at hd he
      obtain ⟨hhead, htail⟩ := List.cons.inj h
      rw [Document.toJson_inj hd.1 he.1 hhead, Document.listToJson_inj hd.2 he.2 htail]

theorem Document.fieldsToJson_inj : ∀ {fs gs : List (String × Value)},
    (∀ f ∈ fs, ∀ u, f.2.Stores u → u.Plain) → (∀ g ∈ gs, ∀ u, g.2.Stores u → u.Plain) →
    Document.fieldsToJson fs = Document.fieldsToJson gs → fs = gs
  | [], gs, _, _, h => by
    cases gs with
    | nil => rfl
    | cons g gs => cases h
  | (key, v) :: fs, gs, hf, hg, h => by
    cases gs with
    | nil => cases h
    | cons g gs =>
      rw [List.forall_mem_cons] at hf hg
      obtain ⟨hhead, htail⟩ := List.cons.inj h
      obtain ⟨hkey, hvalue⟩ := Prod.mk.inj hhead
      have hv : v = g.2 := Value.toJson_inj hf.1 hg.1 hvalue
      rw [hkey, hv, Document.fieldsToJson_inj hf.2 hg.2 htail]

end

/-! ### What compiled filters store -/

section

variable {w : Value}

lemma stores_single {key : String} {v : Value} : (Document.single key v).Stores w ↔ v.Stores w := by
  constructor
  · rintro ⟨mem, inner⟩
    obtain ⟨-, rfl⟩ := Prod.mk.inj (List.mem_singleton.mp mem)
    exact inner
  · exact fun inner => .field (List.mem_singleton.mpr rfl) inner

lemma eq_ofLiteral_of_stores {v : Literal} (h : (Value.ofLiteral v).Stores w) :
    w = .ofLiteral v := by
  cases v <;> cases h <;> rfl

/-- A filter stores values of the query, an operator with one of them, and arrays. -/
lemma eq_of_stores {fields : List String} {n : Node} (full : n.Full)
    (h : (document fields n).Stores w) :
    (∃ v ∈ n.literals, w = .ofLiteral v) ∨
      (∃ op symbol v, RelOp.symbol? op = some symbol ∧
        w = .document (.single symbol (.ofLiteral v))) ∨ ∃ ds, w = .array ds := by
  induction full with
  | @literal v =>
    rw [document, fanOut, stores_single] at h
    cases h with
    | self => exact .inr (.inr ⟨_, rfl⟩)
    | array mem inner =>
      obtain ⟨f, -, rfl⟩ := List.mem_map.mp mem
      exact .inl ⟨v, List.mem_singleton.mpr rfl, eq_ofLiteral_of_stores (stores_single.mp inner)⟩
  | @relational op f v =>
    obtain ⟨value, hvalue, hop⟩ := exists_comparison_eq op f v
    rw [document, hvalue, stores_single] at h
    obtain ⟨-, rfl⟩ | ⟨symbol, hsymbol, rfl⟩ := hop
    · exact .inl ⟨v, List.mem_singleton.mpr rfl, eq_ofLiteral_of_stores h⟩
    · cases h with
      | self => exact .inr (.inl ⟨op, symbol, v, hsymbol, rfl⟩)
      | document inner =>
        exact .inl ⟨v, List.mem_singleton.mpr rfl, eq_ofLiteral_of_stores (stores_single.mp inner)⟩
  | @logical op ns _ _ ih =>
    rw [document, stores_single] at h
    cases h with
    | self => exact .inr (.inr ⟨_, rfl⟩)
    | array mem inner =>
      rw [documents_eq_map] at mem
      obtain ⟨n, hn, rfl⟩ := List.mem_map.mp mem
      rcases ih n hn inner with ⟨v, hv, hw⟩ | hw
      · exact .inl ⟨v, Node.mem_literalsIn.mpr ⟨n, hn, hv⟩, hw⟩
      · exact .inr hw

end

lemma noDatePair_document {fields : List String} {n : Node} (full : n.Full) :
    (document fields n).NoDatePair := by
  intro s h
  rcases eq_of_stores full h with ⟨v, -, hv⟩ | ⟨op, symbol, v, hop, hpair⟩ | ⟨ds, hds⟩
  · exact ofLiteral_ne_document hv.symm
  · rw [Value.document.injEq, single_eq_iff] at hpair
    obtain ⟨rfl, -⟩ := hpair
    cases op <;> exact absurd hop (by decide)
  · cases hds

lemma datesFromText_document {fields : List String} {n : Node} (full : n.Full)
    (hdates : ∀ t, .date t ∈ n.literals → ∃ text, Timestamp.ofText text = .ok t) :
    (document fields n).DatesFromText := by
  intro utc h
  rcases eq_of_stores full h with ⟨v, hv, hdate⟩ | ⟨op, symbol, v, -, hpair⟩ | ⟨ds, hds⟩
  · cases v with
    | date t =>
      obtain ⟨text, ht⟩ := hdates t hv
      exact ⟨text, t, ht, (Value.date.inj hdate).symm⟩
    | _ => cases hdate
  · cases hpair
  · cases hds

/-- **The JSON text of a filter is a faithful encoding.** Where no stored document looks like a
date, two filters have the same text only if they are equal. In a filter that a query is compiled
to, with whatever fields, no stored document does. -/
theorem compact_toJson_faithful :
    (∀ d e : Document, d.NoDatePair → e.NoDatePair → d.DatesFromText → e.DatesFromText →
      (d.toJson.compact = e.toJson.compact ↔ d.beq e = true)) ∧
    (∀ (fields : List String) (n : Node), n.Full → ∃ d, ofNode fields n = .ok d ∧ d.NoDatePair ∧
      ((∀ t, .date t ∈ n.literals → ∃ text, Timestamp.ofText text = .ok t) →
        d.DatesFromText)) := by
  refine ⟨fun d e hd he hdates hdates' => ?_, fun fields n full => ?_⟩
  · rw [Document.beq_iff]
    constructor
    · intro h
      exact Document.toJson_inj (fun _ => plain_of_stores hd hdates)
        (fun _ => plain_of_stores he hdates') (Json.compact_inj h)
    · rintro rfl
      rfl
  · exact ⟨_, ofNode_eq_ok full fields, noDatePair_document full, datesFromText_document full⟩

/-- A date is told from the string with its text. -/
theorem compact_toJson_faithful_date :
    ∃ d e,
      ofNode ["title"] (.relational .eq "day" (.date ⟨⟨⟨2024, 2, 29⟩, 23, 30, 0, 0⟩, 60⟩)) = .ok d ∧
      ofNode ["title"] (.relational .eq "day" (.string "2024-02-29T22:30:00Z")) = .ok e ∧
      d.NoDatePair ∧ e.NoDatePair ∧ d.DatesFromText ∧ e.DatesFromText ∧
      d.toJson.compact ≠ e.toJson.compact := by
  obtain ⟨d, hd, hpair, hdates⟩ := compact_toJson_faithful.2 ["title"]
    (.relational .eq "day" (.date ⟨⟨⟨2024, 2, 29⟩, 23, 30, 0, 0⟩, 60⟩)) .relational
  obtain ⟨e, he, hpair', hdates'⟩ := compact_toJson_faithful.2 ["title"]
    (.relational .eq "day" (.string "2024-02-29T22:30:00Z")) .relational
  have hdate : d.DatesFromText := by
    refine hdates fun t ht => ⟨t.toText, ?_⟩
    obtain rfl := Literal.date.inj (List.mem_singleton.mp ht)
    have hspells := Timestamp.spells_toText
      (by decide : (⟨⟨⟨2024, 2, 29⟩, 23, 30, 0, 0⟩, 60⟩ : Timestamp).Valid) (by decide) (by decide)
    rw [← Timestamp.ofText_of_spells hspells (by decide), String.ofList_toList]
  have hnone : e.DatesFromText := hdates' fun t ht => by cases List.mem_singleton.mp ht
  refine ⟨d, e, hd, he, hpair, hpair', hdate, hnone, fun h => ?_⟩
  have hbeq := (compact_toJson_faithful.1 d e hpair hpair' hdate hnone).mp h
  obtain rfl := Except.ok.inj hd
  obtain rfl := Except.ok.inj he
  exact Bool.false_ne_true (comparison_inj ((Document.beq_iff _ _).mp hbeq)).2.2

end DocFilter.Filter
