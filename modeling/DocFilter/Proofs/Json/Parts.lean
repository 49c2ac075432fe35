import DocFilter.Json.Basic
import Mathlib.Tactic.Lemma

/-!
Parts of JSON data: the data itself, and the parts of its items and of the values of its fields.
-/

namespace DocFilter.Json

/-- A part of some data. -/
inductive Part (j : Json) : Json → Prop
  | self : Part j j
  | item {items : List Json} {k : Json} (mem : k ∈ items) (part : Part j k) : Part j (.arr items)
  | field {fields : List (String × Json)} {key : String} {k : Json} (mem : (key, k) ∈ fields)
      (part : Part j k) : Part j (.obj fields)

variable {j k : Json} {key key' s : String}

/-! ### Objects with a single field -/

lemma single_eq_iff : single key j = single key' k ↔ key = key' ∧ j = k := by
  simp [single]

@[simp] lemma single_ne_bool {b : Bool} : single key j ≠ .bool b := nofun

@[simp] lemma single_ne_int {n : Int} : single key j ≠ .int n := nofun

@[simp] lemma single_ne_str : single key j ≠ .str s := nofun

@[simp] lemma single_ne_arr {items : List Json} : single key j ≠ .arr items := nofun

@[simp] lemma single_ne_obj {field field' : String × Json} {fields : List (String × Json)} :
    single key j ≠ .obj (field :: field' :: fields) := by
  simp [single]

/-! ### Parts by the sort of data -/

lemma part_obj_iff {fields : List (String × Json)} :
    j.Part (.obj fields) ↔ j = .obj fields ∨ ∃ field ∈ fields, j.Part field.2 := by
  constructor
  · intro h
    cases h with
    | self => exact .inl rfl
    | field mem part => exact .inr ⟨_, mem, part⟩
  · rintro (rfl | ⟨field, mem, part⟩)
    · exact .self
    · exact .field mem part

lemma part_single_iff : j.Part (.single key k) ↔ j = .single key k ∨ j.Part k := by
  rw [single, part_obj_iff]
  simp

lemma part_single_of_ne (h : key ≠ key') :
    (single key j).Part (single key' k) ↔ (single key j).Part k := by
  rw [part_single_iff, single_eq_iff, or_iff_right fun heq => h heq.1]

lemma part_arr_iff {items : List Json} :
    j.Part (.arr items) ↔ j = .arr items ∨ ∃ k ∈ items, j.Part k := by
  constructor
  · intro h
    cases h with
    | self => exact .inl rfl
    | item mem part => exact .inr ⟨_, mem, part⟩
  · rintro (rfl | ⟨k, mem, part⟩)
    · exact .self
    · exact .item mem part

lemma part_str_iff : j.Part (.str s) ↔ j = .str s := by
  constructor
  · intro h
    cases h
    rfl
  · rintro rfl
    exact .self

lemma part_int_iff {n : Int} : j.Part (.int n) ↔ j = .int n := by
  constructor
  · intro h
    cases h
    rfl
  · rintro rfl
    exact .self

lemma part_bool_iff {b : Bool} : j.Part (.bool b) ↔ j = .bool b := by
  constructor
  · intro h
    cases h
    rfl
  · rintro rfl
    exact .self

end DocFilter.Json
