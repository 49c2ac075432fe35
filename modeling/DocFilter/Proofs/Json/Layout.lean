import DocFilter.Json.Printer
import DocFilter.Json.Reader
import Mathlib.Tactic.Lemma

/-!
Texts of JSON data in whatever layout: blanks may stand around every value and every key. What the
printer writes is one of them.
-/

namespace DocFilter.Json

open Text

/-! ### Data by its shape -/

/-- Induction on data, over all items of an array and all fields of an object at once. -/
theorem induction_on {P : Json → Prop} (null : P null) (bool : ∀ b, P (bool b))
    (int : ∀ n, P (int n)) (str : ∀ s, P (str s))
    (arr : ∀ items, (∀ item ∈ items, P item) → P (arr items))
    (obj : ∀ fields, (∀ field ∈ fields, P field.2) → P (obj fields)) (j : Json) : P j :=
  match j with
  | .null => null
  | .bool b => bool b
  | .int n => int n
  | .str s => str s
  | .arr items => arr items fun item _ => induction_on null bool int str arr obj item
  | .obj fields => obj fields fun field _ => induction_on null bool int str arr obj field.2
termination_by sizeOf j
decreasing_by
  · have hmem := List.sizeOf_lt_of_mem ‹item ∈ items›
    rw [Json.arr.sizeOf_spec]
    omega
  · have hmem := List.sizeOf_lt_of_mem ‹field ∈ fields›
    obtain ⟨key, value⟩ := field
    rw [Prod.mk.sizeOf_spec] at hmem
    rw [Json.obj.sizeOf_spec]
    change sizeOf value < _
    omega

/-! ### Layouts -/

def Blank (cs : List Char) : Prop := ∀ c ∈ cs, Written.isSpace c = true

/-- Items with commas between them and blanks around each. -/
inductive Listed {β : Type} (P : β → List Char → Prop) : List β → List Char → Prop
  | one {b front cs back} (before : Blank front) (item : P b cs) (behind : Blank back) :
      Listed P [b] (front ++ (cs ++ back))
  | more {b front cs back bs ds} (before : Blank front) (item : P b cs) (behind : Blank back)
      (items : Listed P bs ds) : Listed P (b :: bs) (front ++ (cs ++ (back ++ ',' :: ds)))

/-- A key and a value with a colon between them and blanks around the colon. -/
inductive Keyed (P : Json → List Char → Prop) : String × Json → List Char → Prop
  | intro {key j front back cs} (before : Blank front) (behind : Blank back) (value : P j cs) :
      Keyed P (key, j) (quoted key ++ (front ++ ':' :: (back ++ cs)))

/-- `Laid j cs`: the characters are a text of the value, in some layout. -/
inductive Laid : Json → List Char → Prop
  | null : Laid .null "null".toList
  | bool {b} : Laid (.bool b) (boolText b)
  | int {n} : Laid (.int n) (signedDecimal n)
  | str {s} : Laid (.str s) (quoted s)
  | noItems {gap} (blank : Blank gap) : Laid (.arr []) ('[' :: (gap ++ [']']))
  | arr {items cs} (inner : Listed Laid items cs) : Laid (.arr items) ('[' :: (cs ++ [']']))
  | noFields {gap} (blank : Blank gap) : Laid (.obj []) ('\x7b' :: (gap ++ ['\x7d']))
  | obj {fields cs} (inner : Listed (Keyed Laid) fields cs) :
      Laid (.obj fields) ('\x7b' :: (cs ++ ['\x7d']))

/-! ### What the printer writes -/

lemma blank_nil : Blank [] := List.forall_mem_nil _

lemma blank_lineBreak (level : Nat) : Blank (lineBreak level) := by
  intro c hc
  rcases List.mem_cons.mp hc with rfl | hc
  · rfl
  · rw [List.eq_of_mem_replicate hc]
    rfl

lemma listed_flatMap {β : Type} {P : β → List Char → Prop} {write : β → List Char} {b : β}
    {bs : List β} {front back : List Char} (before : Blank front) (behind : Blank back)
    (h : ∀ c ∈ b :: bs, P c (write c)) :
    Listed P (b :: bs)
      (front ++ (write b ++ (bs.flatMap (fun c => ',' :: (front ++ write c)) ++ back))) := by
  induction bs generalizing b with
  | nil => exact .one before (h b List.mem_cons_self) behind
  | cons c bs ih =>
    rw [List.forall_mem_cons] at h
    have hlisted := Listed.more before h.1 blank_nil (ih h.2)
    simpa using hlisted

lemma compactItems_eq (items : List Json) :
    compactItems items = items.flatMap (fun item => ',' :: item.compactChars) ++ [']'] := by
  induction items with
  | nil => rfl
  | cons item items ih => rw [compactItems, ih, List.flatMap_cons]; simp

lemma compactFields_eq (fields : List (String × Json)) :
    compactFields fields =
      fields.flatMap (fun field => ',' :: (quoted field.1 ++ ':' :: field.2.compactChars)) ++
        ['\x7d'] := by
  induction fields with
  | nil => rfl
  | cons field fields ih => rw [compactFields, ih, List.flatMap_cons]; simp

lemma prettyItems_eq (level : Nat) (items : List Json) :
    prettyItems level items = items.flatMap (fun item =>
      ',' :: (lineBreak (level + 1) ++ item.prettyChars (level + 1))) ++
        (lineBreak level ++ [']']) := by
  induction items with
  | nil => rfl
  | cons item items ih => rw [prettyItems, ih, List.flatMap_cons]; simp

lemma prettyFields_eq (level : Nat) (fields : List (String × Json)) :
    prettyFields level fields = fields.flatMap (fun field =>
      ',' :: (lineBreak (level + 1) ++
        (quoted field.1 ++ ':' :: ' ' :: field.2.prettyChars (level + 1)))) ++
        (lineBreak level ++ ['\x7d']) := by
  induction fields with
  | nil => rfl
  | cons field fields ih => rw [prettyFields, ih, List.flatMap_cons]; simp

theorem laid_compactChars (j : Json) : Laid j j.compactChars := by
  induction j using induction_on with
  | null => exact .null
  | bool b => exact .bool
  | int n => exact .int
  | str s => exact .str
  | arr items ih =>
    cases items with
    | nil => exact .noItems blank_nil
    | cons item items =>
      have hlisted := listed_flatMap blank_nil blank_nil ih
      have harr := Laid.arr hlisted
      simpa [compactChars, compactItems_eq] using harr
  | obj fields ih =>
    cases fields with
    | nil => exact .noFields blank_nil
    | cons field fields =>
      have hfield : ∀ f ∈ field :: fields, Keyed Laid f (quoted f.1 ++ ':' :: f.2.compactChars) :=
        fun f hf => .intro blank_nil blank_nil (ih f hf)
      have hobj := Laid.obj (listed_flatMap blank_nil blank_nil hfield)
      simpa [compactChars, compactFields_eq] using hobj

theorem laid_prettyChars (j : Json) (level : Nat) : Laid j (j.prettyChars level) := by
  induction j using induction_on generalizing level with
  | null => exact .null
  | bool b => exact .bool
  | int n => exact .int
  | str s => exact .str
  | arr items ih =>
    cases items with
    | nil => exact .noItems blank_nil
    | cons item items =>
      have hitem : ∀ i ∈ item :: items, Laid i (i.prettyChars (level + 1)) :=
        fun i hi => ih i hi (level + 1)
      have harr := Laid.arr
        (listed_flatMap (blank_lineBreak (level + 1)) (blank_lineBreak level) hitem)
      simpa [prettyChars, prettyItems_eq] using harr
  | obj fields ih =>
    cases fields with
    | nil => exact .noFields blank_nil
    | cons field fields =>
      have hspace : Blank [' '] := List.forall_mem_singleton.mpr rfl
      have hfield : ∀ f ∈ field :: fields,
          Keyed Laid f (quoted f.1 ++ ':' :: ' ' :: f.2.prettyChars (level + 1)) :=
        fun f hf => .intro blank_nil hspace (ih f hf (level + 1))
      have hobj := Laid.obj
        (listed_flatMap (blank_lineBreak (level + 1)) (blank_lineBreak level) hfield)
      simpa [prettyChars, prettyFields_eq] using hobj

end DocFilter.Json
