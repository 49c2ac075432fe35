import DocFilter.Proofs.Text.Numeral

/-!
Readers of what is optional, of given words and of texts that are written piece by piece.
-/

namespace DocFilter.Reader

open Text

variable {α β : Type} {r : Reader α} {cs rest : List Char}

lemma one_of_stops {p : Char → Bool} (stop : Token.Stops p cs) : one p cs = none := by
  cases cs with
  | nil => rfl
  | cons c cs => exact if_neg (by simpa using stop)

lemma run1_of_stops {p : Char → Bool} (stop : Token.Stops p cs) : run1 p cs = none := by
  have hrun : run p cs = some ([], cs) := run_append (w := []) (List.forall_mem_nil _) stop
  rw [run1, bind_of_eq_some hrun]
  rfl

lemma optional_of_eq_some {a : α} (h : r cs = some (a, rest)) :
    optional r cs = some (some a, rest) := by
  rw [optional, h]

lemma optional_of_eq_none (h : r cs = none) : optional r cs = some (none, cs) := by
  rw [optional, h]

lemma literally_append (w rest : List Char) : literally w (w ++ rest) = some ((), rest) := by
  rw [literally, if_pos (List.isPrefixOf_iff_prefix.mpr (List.prefix_append w rest)),
    List.drop_left]

lemma literally_of_ne {w u : List Char} {c d : Char} (hw : w = c :: u) (h : d ≠ c)
    (cs : List Char) : literally w (d :: cs) = none := by
  subst hw
  have hne : ¬ (c :: u).isPrefixOf (d :: cs) := by
    rw [List.isPrefixOf_iff_prefix, List.cons_prefix_cons]
    exact fun hprefix => h hprefix.1.symm
  rw [literally, if_neg hne]

lemma repeated_of_eq_none (h : r cs = none) : repeated r cs = ([], cs) := by
  rw [repeated, h]

lemma repeated_of_eq_some {a : α} (h : r cs = some (a, rest)) (shorter : rest.length < cs.length) :
    repeated r cs = (a :: (repeated r rest).1, (repeated r rest).2) := by
  rw [repeated, h]
  exact if_pos shorter

section

variable {write : β → List Char} {value : β → α} {P : List Char → Prop} {bs : List β}

/-- Pieces are read one after the other, each in front of a text that may follow it, up to a text
that is no piece. -/
lemma many_flatMap (ne : ∀ b, write b ≠ [])
    (read : ∀ b ∈ bs, ∀ cs, P cs → r (write b ++ cs) = some (value b, cs))
    (next : ∀ b cs, P (write b ++ cs)) (last : P rest) (stop : r rest = none) :
    many r (bs.flatMap write ++ rest) = some (bs.map value, rest) := by
  unfold many
  congr 1
  induction bs with
  | nil => exact repeated_of_eq_none stop
  | cons b bs ih =>
    rw [List.forall_mem_cons] at read
    have hfollows : P (bs.flatMap write ++ rest) := by
      cases bs with
      | nil => exact last
      | cons c bs =>
        rw [List.flatMap_cons, List.append_assoc]
        exact next c _
    have hpiece := read.1 _ hfollows
    have hshorter : (bs.flatMap write ++ rest).length <
        (write b ++ (bs.flatMap write ++ rest)).length := by
      have hpos := List.length_pos_iff.mpr (ne b)
      simp only [List.length_append]
      omega
    rw [List.flatMap_cons, List.append_assoc, repeated_of_eq_some hpiece hshorter, ih read.2,
      List.map_cons]

end

end DocFilter.Reader
