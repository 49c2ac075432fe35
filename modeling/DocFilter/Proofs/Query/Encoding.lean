import DocFilter.Proofs.Json.Parts
import DocFilter.Proofs.Json.Values
import DocFilter.Proofs.Query.Alike
import DocFilter.Proofs.Query.Dates
import DocFilter.Proofs.Query.WellFormed
import DocFilter.Proofs.Time.Calendar
import DocFilter.Query.Json

/-!
The JSON text of a tree tells all of it, the offsets of its dates too. Trees that count as the same
query differ at most in those.
-/

namespace DocFilter.Query

open Token (tokenize)

/-- The same value, and a date at the same offset. -/
inductive Literal.Identical : Literal → Literal → Prop
  | number {n : Int} : Identical (.number n) (.number n)
  | string {s : String} : Identical (.string s) (.string s)
  | boolean {b : Bool} : Identical (.boolean b) (.boolean b)
  | date {s t : Timestamp} (instant : s.instant = t.instant) (offset : s.offset = t.offset) :
      Identical (.date s) (.date t)

/-- The same instant at different offsets. -/
inductive Literal.Shifted : Literal → Literal → Prop
  | date {s t : Timestamp} (instant : s.instant = t.instant) (offset : s.offset ≠ t.offset) :
      Shifted (.date s) (.date t)

/-- The same tree, with each date at the same instant and offset. -/
def Node.Identical (n m : Node) : Prop :=
  n.Alike m ∧ List.Forall₂ Literal.Identical n.literals m.literals

/-! ### Literals -/

namespace Literal

variable {v w : Literal}

lemma identical_iff (hv : v.WellFormed) (hw : w.WellFormed) : v.Identical w ↔ v = w := by
  constructor
  · intro h
    cases h with
    | date instant offset =>
      exact congrArg date (Timestamp.eq_of_instant_offset hv.1 hw.1 instant offset)
    | _ => rfl
  · rintro rfl
    cases v with
    | number n => exact .number
    | string s => exact .string
    | boolean b => exact .boolean
    | date t => exact .date rfl rfl

lemma eq_or_shifted (hv : v.WellFormed) (hw : w.WellFormed) (h : v.same w = true) :
    v = w ∨ v.Shifted w := by
  unfold same at h
  split at h
  · next s t =>
    have hinstant := (Timestamp.utc_eq_iff hv.1 hw.1).mp (of_decide_eq_true h)
    by_cases hoffset : s.offset = t.offset
    · exact .inl ((identical_iff hv hw).mp (.date hinstant hoffset))
    · exact .inr (.date hinstant hoffset)
  · exact .inl (of_decide_eq_true h)

lemma ofText_toText_of_wellFormed {t : Timestamp} (h : (date t).WellFormed) :
    Timestamp.ofText t.toText = .ok t :=
  Timestamp.ofText_toText h.1 h.2.1 h.2.2

lemma toJson_inj (hv : v.WellFormed) (hw : w.WellFormed) (h : v.toJson = w.toJson) : v = w := by
  cases v <;> cases w <;> simp [toJson, Json.single] at h
  case number.number => rw [h]
  case string.string => rw [h]
  case boolean.boolean => rw [h]
  case date.date s t =>
    have hread := ofText_toText_of_wellFormed hv
    rw [h, ofText_toText_of_wellFormed hw] at hread
    rw [Except.ok.inj hread]

end Literal

namespace Node

/-! ### Trees and their data -/

mutual

/-- Trees are told from each other by their data. -/
theorem toJson_inj : ∀ {n m : Node}, n.WellFormed → m.WellFormed → n.toJson = m.toJson → n = m
  | .literal v, m, .literal hv, hm, h => by
    cases hm with
    | literal hw =>
      simp only [toJson, Json.single, Json.obj.injEq, List.cons.injEq, Prod.mk.injEq, and_true,
        true_and] at h
      rw [Literal.toJson_inj hv hw h]
    | _ => simp [toJson, Json.single] at h
  | .relational op f v, m, .relational _ _ hv, hm, h => by
    cases hm with
    | relational _ _ hw =>
      simp only [toJson, Json.single, Json.obj.injEq, List.cons.injEq, Prod.mk.injEq, and_true,
        true_and, Json.str.injEq] at h
      obtain ⟨hop, rfl, hvalue⟩ := h
      rw [RelOp.keyword_injective hop, Literal.toJson_inj hv hw hvalue]
    | _ => simp [toJson, Json.single] at h
  | .logical op ns, m, .logical _ hns, hm, h => by
    cases hm with
    | logical _ hms =>
      simp only [toJson, Json.single, Json.obj.injEq, List.cons.injEq, Prod.mk.injEq, and_true,
        true_and, Json.str.injEq, Json.arr.injEq] at h
      rw [LogOp.keyword_injective h.1, listToJson_inj hns hms h.2]
    | _ => simp [toJson, Json.single] at h

theorem listToJson_inj : ∀ {ns ms : List Node}, (∀ n ∈ ns, n.WellFormed) →
    (∀ m ∈ ms, m.WellFormed) → listToJson ns = listToJson ms → ns = ms
  | [], ms, _, _, h => by
    cases ms with
    | nil => rfl
    | cons m ms => cases h
  | n :: ns, ms, hn, hm, h => by
    cases ms with
    | nil => cases h
    | cons m ms =>
      rw [List.forall_mem_cons] at hn hm
      obtain ⟨hhead, htail⟩ := List.cons.inj h
      rw [toJson_inj hn.1 hm.1 hhead, listToJson_inj hn.2 hm.2 htail]

end

lemma compact_eq_iff {n m : Node} (hn : n.WellFormed) (hm : m.WellFormed) :
    n.programToJson.compact = m.programToJson.compact ↔ n = m := by
  constructor
  · intro h
    have hbody := Json.compact_inj h
    exact toJson_inj hn hm (Json.single_eq_iff.mp hbody).2
  · rintro rfl
    rfl

/-! ### Trees that differ in their literals -/

mutual

theorem same_refl : ∀ n : Node, n.same n = true
  | .literal v => v.same_refl
  | .relational op f v => by simp [same, v.same_refl]
  | .logical op ns => by simp [same, sameAll_refl ns]

theorem sameAll_refl : ∀ ns : List Node, sameAll ns ns = true
  | [] => rfl
  | n :: ns => by simp [sameAll, same_refl n, sameAll_refl ns]

end

mutual

/-- Trees that count as the same query have the same literals, up to the offsets of dates. -/
theorem alike_of_same : ∀ {n m : Node}, n.same m = true →
    n.Alike m ∧ List.Forall₂ (fun v w => v.same w = true) n.literals m.literals
  | .literal v, m, h => by
    cases m with
    | literal w => exact ⟨.literal, .cons h .nil⟩
    | _ => simp [same] at h
  | .relational op f v, m, h => by
    cases m with
    | relational op' f' w =>
      simp only [same, Bool.and_eq_true, decide_eq_true_eq] at h
      obtain ⟨⟨rfl, rfl⟩, hvalue⟩ := h
      exact ⟨.relational, .cons hvalue .nil⟩
    | _ => simp [same] at h
  | .logical op ns, m, h => by
    cases m with
    | logical op' ms =>
      simp only [same, Bool.and_eq_true, decide_eq_true_eq] at h
      obtain ⟨rfl, harguments⟩ := h
      obtain ⟨halike, hliterals⟩ := alikeAll_of_sameAll harguments
      exact ⟨.logical halike, hliterals⟩
    | _ => simp [same] at h

theorem alikeAll_of_sameAll : ∀ {ns ms : List Node}, sameAll ns ms = true →
    List.Forall₂ Node.Alike ns ms ∧
      List.Forall₂ (fun v w => v.same w = true) (literalsIn ns) (literalsIn ms)
  | [], ms, h => by
    cases ms with
    | nil => exact ⟨.nil, .nil⟩
    | cons m ms => simp [sameAll] at h
  | n :: ns, ms, h => by
    cases ms with
    | nil => simp [sameAll] at h
    | cons m ms =>
      simp only [sameAll, Bool.and_eq_true] at h
      obtain ⟨halike, hliterals⟩ := alike_of_same h.1
      obtain ⟨halikes, hrest⟩ := alikeAll_of_sameAll h.2
      exact ⟨.cons halike halikes, List.rel_append hliterals hrest⟩

end

lemma WellFormed.of_mem_literals {n : Node} (h : n.WellFormed) :
    ∀ v ∈ n.literals, v.WellFormed := by
  induction h with
  | literal value => exact List.forall_mem_singleton.mpr value
  | relational _ _ value => exact List.forall_mem_singleton.mpr value
  | logical _ _ ih =>
    intro v hv
    obtain ⟨n, hn, hv⟩ := mem_literalsIn.mp hv
    exact ih n hn v hv

end Node

/-! ### The dates in the data of a tree -/

section

variable {s : String}

/-- The data of a date that is written as `s`. -/
abbrev dateLiteral (s : String) : Json := .single "DateLiteral" (.str s)

lemma Literal.part_date_iff {v : Literal} :
    (dateLiteral s).Part v.toJson ↔ ∃ t, .date t = v ∧ t.toText = s := by
  cases v with
  | number n =>
    rw [toJson, Json.part_single_of_ne (by decide), Json.part_int_iff]
    simp
  | string t =>
    rw [toJson, Json.part_single_of_ne (by decide), Json.part_str_iff]
    simp
  | boolean b =>
    rw [toJson, Json.part_single_of_ne (by decide), Json.part_bool_iff]
    simp
  | date t =>
    rw [toJson, Json.part_single_iff, Json.single_eq_iff, Json.part_str_iff]
    simp [eq_comm]

mutual

theorem Node.part_date_iff : ∀ {n : Node}, (dateLiteral s).Part n.toJson ↔
    ∃ t, .date t ∈ n.literals ∧ t.toText = s
  | .literal v => by
    rw [Node.toJson, Json.part_single_of_ne (by decide), Literal.part_date_iff]
    simp [Node.literals]
  | .relational op f v => by
    rw [Node.toJson, Json.part_single_of_ne (by decide), Json.part_obj_iff]
    simp [Node.literals, Literal.part_date_iff, Json.part_str_iff]
  | .logical op ns => by
    rw [Node.toJson, Json.part_single_of_ne (by decide), Json.part_obj_iff]
    simp [Node.literals, ← Node.exists_part_date_iff, Json.part_arr_iff, Json.part_str_iff]

theorem Node.exists_part_date_iff : ∀ {ns : List Node},
    (∃ j ∈ Node.listToJson ns, (dateLiteral s).Part j) ↔
      ∃ t, .date t ∈ Node.literalsIn ns ∧ t.toText = s
  | [] => by simp [Node.listToJson, Node.literalsIn]
  | n :: ns => by
    simp only [Node.listToJson, Node.literalsIn, List.exists_mem_cons_iff, List.mem_append,
      or_and_right, exists_or]
    rw [Node.part_date_iff, Node.exists_part_date_iff]

end

end

/-! ### Trees that are read -/

section

variable {n m : Node}

lemma forall₂_of_wellFormed {R S : Literal → Literal → Prop} {vs ws : List Literal}
    (hvs : ∀ v ∈ vs, v.WellFormed) (hws : ∀ w ∈ ws, w.WellFormed) (h : List.Forall₂ R vs ws)
    (himp : ∀ {v w : Literal}, v.WellFormed → w.WellFormed → R v w → S v w) :
    List.Forall₂ S vs ws := by
  induction h with
  | nil => exact .nil
  | cons head _ ih =>
    rw [List.forall_mem_cons] at hvs hws
    exact .cons (himp hvs.1 hws.1 head) (ih hvs.2 hws.2)

lemma Node.identical_iff (hn : n.WellFormed) (hm : m.WellFormed) : n.Identical m ↔ n = m := by
  constructor
  · rintro ⟨halike, hliterals⟩
    have heq : List.Forall₂ (· = ·) n.literals m.literals :=
      forall₂_of_wellFormed hn.of_mem_literals hm.of_mem_literals hliterals
        fun hv hw => (Literal.identical_iff hv hw).mp
    rw [List.forall₂_eq_eq_eq] at heq
    exact halike.eq_of_literals heq
  · rintro rfl
    refine ⟨Node.Alike.refl n, List.forall₂_same.mpr fun v hv => ?_⟩
    have hwell := hn.of_mem_literals v hv
    exact (Literal.identical_iff hwell hwell).mpr rfl

/-- Trees that count as the same query and are not equal have a date at another offset. -/
lemma exists_shifted_of_same (hn : n.WellFormed) (hm : m.WellFormed) (hsame : n.same m = true)
    (hne : n ≠ m) : n.Alike m ∧
      List.Forall₂ (fun v w => v = w ∨ v.Shifted w) n.literals m.literals ∧
      ∃ vw ∈ n.literals.zip m.literals, vw.1.Shifted vw.2 := by
  obtain ⟨halike, hliterals⟩ := Node.alike_of_same hsame
  have hshifted : List.Forall₂ (fun v w => v = w ∨ v.Shifted w) n.literals m.literals :=
    forall₂_of_wellFormed hn.of_mem_literals hm.of_mem_literals hliterals Literal.eq_or_shifted
  refine ⟨halike, hshifted, ?_⟩
  -- alike trees with the same literals are equal
  by_contra hnone
  have heq : List.Forall₂ (· = ·) n.literals m.literals :=
    List.forall₂_iff_zip.mpr ⟨hshifted.length_eq, fun hmem =>
      (List.forall₂_zip hshifted hmem).resolve_right fun h => hnone ⟨_, hmem, h⟩⟩
  rw [List.forall₂_eq_eq_eq] at heq
  exact hne (halike.eq_of_literals heq)

lemma parse_toText {t : Timestamp} (h : (Literal.date t).WellFormed) :
    tokenize t.toText = .ok [⟨.date, t.toText, 0⟩] ∧
      ∀ strict, parse strict t.toText = .ok (.literal (.date t)) := by
  have hdate : Token.IsDate t.toText.toList :=
    (Timestamp.spells_toText h.1 h.2.1 h.2.2).isDate
  refine ⟨tokenize_of_isDate hdate, fun strict => ?_⟩
  exact (parse_eq_ok_iff_of_isDate hdate).mpr ⟨t, Literal.ofText_toText_of_wellFormed h, rfl⟩

end

/-- **The JSON text of a tree is a faithful encoding.** Two queries are read as trees with the same
text just when the trees are the same, with each date at the same instant and offset. Then they
count as the same query, and trees that count as the same and have different texts differ in the
offset of a date and in nothing else. Each date is written as a text that is read as the date. -/
theorem compact_programToJson_faithful :
    (∀ strict strict' text text' n m, parse strict text = .ok n → parse strict' text' = .ok m →
      (n.programToJson.compact = m.programToJson.compact ↔ n.Identical m) ∧
      (n.programToJson.compact = m.programToJson.compact → n.same m = true) ∧
      (n.same m = true → n.programToJson.compact ≠ m.programToJson.compact →
        n.Alike m ∧ List.Forall₂ (fun v w => v = w ∨ v.Shifted w) n.literals m.literals ∧
          ∃ vw ∈ n.literals.zip m.literals, vw.1.Shifted vw.2)) ∧
    (∀ strict text n, parse strict text = .ok n →
      (∀ t, .date t ∈ n.literals → (dateLiteral t.toText).Part n.programToJson) ∧
      ∀ s, (dateLiteral s).Part n.programToJson → tokenize s = .ok [⟨.date, s, 0⟩] ∧
        ∃ t, .date t ∈ n.literals ∧ t.toText = s ∧
          ∀ strict', parse strict' s = .ok (.literal (.date t))) := by
  refine ⟨fun strict strict' text text' n m hn hm => ?_, fun strict text n hn => ?_⟩
  · have hn := wellFormed_of_parse hn
    have hm := wellFormed_of_parse hm
    rw [Node.identical_iff hn hm, Ne, Node.compact_eq_iff hn hm]
    refine ⟨Iff.rfl, ?_, exists_shifted_of_same hn hm⟩
    rintro rfl
    exact n.same_refl
  · have hpart : ∀ s, (dateLiteral s).Part n.programToJson ↔
        ∃ t, .date t ∈ n.literals ∧ t.toText = s := by
      intro s
      rw [Node.programToJson, Json.part_single_of_ne (by decide), Node.part_date_iff]
    refine ⟨fun t ht => (hpart _).mpr ⟨t, ht, rfl⟩, fun s hs => ?_⟩
    obtain ⟨t, ht, rfl⟩ := (hpart s).mp hs
    obtain ⟨htokens, hread⟩ := parse_toText ((wellFormed_of_parse hn).of_mem_literals _ ht)
    exact ⟨htokens, t, ht, rfl, hread⟩

/-- One instant at two offsets is one query with two texts. -/
theorem compact_programToJson_faithful_offset :
    ∃ n m, parse true "2024-03-01T00:30:00+01:00" = .ok n ∧
      parse false "2024-02-29T23:30:00Z" = .ok m ∧ n.same m = true ∧
      n.programToJson.compact ≠ m.programToJson.compact ∧
      (∃ vw ∈ n.literals.zip m.literals, vw.1.Shifted vw.2) ∧
      tokenize "2024-03-01T00:30:00+01:00" = .ok [⟨.date, "2024-03-01T00:30:00+01:00", 0⟩] := by
  have hs : Timestamp.toText ⟨⟨⟨2024, 3, 1⟩, 0, 30, 0, 0⟩, 60⟩ = "2024-03-01T00:30:00+01:00" := by
    decide
  have ht : Timestamp.toText ⟨⟨⟨2024, 2, 29⟩, 23, 30, 0, 0⟩, 0⟩ = "2024-02-29T23:30:00Z" := by
    decide
  have hn := (parse_toText (t := ⟨⟨⟨2024, 3, 1⟩, 0, 30, 0, 0⟩, 60⟩)
    ⟨by decide, by decide, by decide⟩).2 true
  have hm := (parse_toText (t := ⟨⟨⟨2024, 2, 29⟩, 23, 30, 0, 0⟩, 0⟩)
    ⟨by decide, by decide, by decide⟩).2 false
  obtain ⟨hiff, -, hshifted⟩ := compact_programToJson_faithful.1 true false _ _ _ _ hn hm
  have hne := mt hiff.mp fun h => by
    cases h.2 with
    | cons head _ =>
      cases head with
      | date _ offset => exact absurd offset (by decide)
  obtain ⟨hparts, hdates⟩ := compact_programToJson_faithful.2 true _ _ hn
  obtain ⟨htokens, -⟩ := hdates _ (hparts _ (List.mem_singleton.mpr rfl))
  have hsame : (Node.literal (.date ⟨⟨⟨2024, 3, 1⟩, 0, 30, 0, 0⟩, 60⟩)).same
      (.literal (.date ⟨⟨⟨2024, 2, 29⟩, 23, 30, 0, 0⟩, 0⟩)) = true := by decide
  rw [hs] at hn htokens
  rw [ht] at hm
  exact ⟨_, _, hn, hm, hsame, hne, (hshifted hsame hne).2.2, htokens⟩

end DocFilter.Query
