import DocFilter.Text.Basic
import Mathlib.Tactic.Lemma

/-!
Places in a text, counted in bytes. Between any two parts of a text is a boundary of characters.
-/

namespace DocFilter.Text

lemma utf8ByteSize_ofList (cs : List Char) : (String.ofList cs).utf8ByteSize = byteLength cs := by
  induction cs with
  | nil => rfl
  | cons c cs ih =>
    rw [String.ofList_cons, String.utf8ByteSize_append, String.utf8ByteSize_singleton, ih,
      byteLength_cons]

lemma utf8ByteSize_eq (text : String) : text.utf8ByteSize = byteLength text.toList := by
  rw [← utf8ByteSize_ofList, String.ofList_toList]

section

variable {text : String} {front back : List Char} (h : text.toList = front ++ back)

include h

lemma byteLength_le : byteLength front ≤ text.utf8ByteSize := by
  rw [utf8ByteSize_eq, h, byteLength_append]
  exact Nat.le_add_right _ _

lemma isValid_byteLength : String.Pos.Raw.IsValid text ⟨byteLength front⟩ := by
  rw [String.Pos.Raw.isValid_iff_exists_append]
  refine ⟨String.ofList front, String.ofList back, ?_, ?_⟩
  · rw [← String.ofList_append, ← h, String.ofList_toList]
  · rw [String.rawEndPos, utf8ByteSize_ofList]

end

/-! ### Parts between two places -/

/-- `Slice text start stop part`: between the two bytes, which are boundaries of characters within
the text and stand in this order, are the characters of `part`. -/
structure Slice (text : String) (start stop : Nat) (part : List Char) : Prop where
  le : start ≤ stop
  validStart : String.Pos.Raw.IsValid text ⟨start⟩
  validStop : String.Pos.Raw.IsValid text ⟨stop⟩
  split : ∃ front back, text.toList = front ++ (part ++ back) ∧ byteLength front = start ∧
    byteLength (front ++ part) = stop

lemma slice_of_split {text : String} {front part back : List Char}
    (h : text.toList = front ++ (part ++ back)) :
    Slice text (byteLength front) (byteLength (front ++ part)) part where
  le := by rw [byteLength_append]; exact Nat.le_add_right _ _
  validStart := isValid_byteLength h
  validStop := isValid_byteLength (h.trans (List.append_assoc front part back).symm)
  split := ⟨front, back, h, rfl, rfl⟩

end DocFilter.Text
