import DocFilter.Proofs.Json.Numbers
import DocFilter.Proofs.Json.Strings

/-!
Blanks outside of strings, which are all that the two layouts of JSON text differ in.
-/

namespace DocFilter.Json

open Text

/-- Where a character of JSON text stands. -/
inductive Place
  | outside
  | string
  /-- Behind a backslash in a string. -/
  | escape
  deriving DecidableEq

/-- The place behind a character. -/
def Place.next : Place → Char → Place
  | outside, c => if c = '"' then string else outside
  | string, c => if c = '"' then outside else if c = '\\' then escape else string
  | escape, _ => string

/-- A text without its spaces and line feeds, but for those in strings. -/
def unspacedFrom : Place → List Char → List Char
  | _, [] => []
  | p, c :: cs =>
    if p = .outside ∧ (c = ' ' ∨ c = '\n') then unspacedFrom p cs
    else c :: unspacedFrom (p.next c) cs

def unspaced (text : String) : String := String.ofList (unspacedFrom .outside text.toList)

variable {c : Char} {w rest : List Char}

/-! ### Strings -/

lemma unspacedFrom_string (quote : c ≠ '"') (slash : c ≠ '\\') (cs : List Char) :
    unspacedFrom .string (c :: cs) = c :: unspacedFrom .string cs := by
  simp [unspacedFrom, Place.next, quote, slash]

lemma unspacedFrom_string_append (h : ∀ d ∈ w, d ≠ '"' ∧ d ≠ '\\') :
    unspacedFrom .string (w ++ rest) = w ++ unspacedFrom .string rest := by
  induction w with
  | nil => rfl
  | cons d w ih =>
    rw [List.forall_mem_cons] at h
    rw [List.cons_append, unspacedFrom_string h.1.1 h.1.2, ih h.2, List.cons_append]

lemma unspacedFrom_backslash (x : Char) (cs : List Char) :
    unspacedFrom .string ('\\' :: x :: cs) = '\\' :: x :: unspacedFrom .string cs := by
  simp [unspacedFrom, Place.next]

lemma digitChar_plain : ∀ n < 16, n.digitChar ≠ '"' ∧ n.digitChar ≠ '\\' := by decide

lemma unspacedFrom_escaped (c : Char) (rest : List Char) :
    unspacedFrom .string (escaped c ++ rest) = escaped c ++ unspacedFrom .string rest := by
  by_cases hn : c ∈ Written.named
  · obtain ⟨x, hx, -, -⟩ := Written.exists_escape hn
    rw [hx]
    exact unspacedFrom_backslash x rest
  · rw [Written.escaped_of_not_named hn]
    by_cases h : c.toNat < 0x20
    · have hlast := digitChar_plain (c.toNat % 16) (Nat.mod_lt _ (by decide))
      have hplain : ∀ d ∈ ['0', '0', if c.toNat < 0x10 then '0' else '1',
          (c.toNat % 16).digitChar], d ≠ '"' ∧ d ≠ '\\' := by
        intro d hd
        simp only [List.mem_cons, List.not_mem_nil, or_false] at hd
        rcases hd with rfl | rfl | rfl | rfl
        · decide
        · decide
        · split_ifs <;> decide
        · exact hlast
      rw [if_pos h, Written.hexadecimal_mod]
      exact (unspacedFrom_backslash 'u' _).trans
        (congrArg (fun cs => '\\' :: 'u' :: cs) (unspacedFrom_string_append hplain))
    · obtain ⟨hquote, hslash⟩ := Written.ne_of_not_named hn
      rw [if_neg h]
      exact unspacedFrom_string hquote hslash rest

lemma unspacedFrom_quoted (s : String) (rest : List Char) :
    unspacedFrom .outside (quoted s ++ rest) = quoted s ++ unspacedFrom .outside rest := by
  have hbody : ∀ cs : List Char, unspacedFrom .string (cs.flatMap escaped ++ '"' :: rest) =
      cs.flatMap escaped ++ '"' :: unspacedFrom .outside rest := by
    intro cs
    induction cs with
    | nil => simp [unspacedFrom, Place.next]
    | cons c cs ih => simp [unspacedFrom_escaped, ih]
  simp [quoted, unspacedFrom, Place.next, hbody]

/-! ### Values -/

lemma unspacedFrom_cons (h : c ∉ ['"', ' ', '\n']) (cs : List Char) :
    unspacedFrom .outside (c :: cs) = c :: unspacedFrom .outside cs := by
  simp only [List.mem_cons, List.not_mem_nil, or_false, not_or] at h
  simp [unspacedFrom, Place.next, h]

lemma unspacedFrom_append (h : ∀ d ∈ w, d ∉ ['"', ' ', '\n']) :
    unspacedFrom .outside (w ++ rest) = w ++ unspacedFrom .outside rest := by
  induction w with
  | nil => rfl
  | cons d w ih =>
    rw [List.forall_mem_cons] at h
    rw [List.cons_append, unspacedFrom_cons h.1, ih h.2, List.cons_append]

lemma unspacedFrom_signedDecimal (n : Int) (rest : List Char) :
    unspacedFrom .outside (signedDecimal n ++ rest) =
      signedDecimal n ++ unspacedFrom .outside rest := by
  refine unspacedFrom_append fun d hd => ?_
  have hdigit : d = '-' ∨ d.isDigit = true := by
    rw [signedDecimal] at hd
    split_ifs at hd
    · exact (List.mem_cons.mp hd).imp_right isDigit_of_mem_decimal
    · exact .inr (isDigit_of_mem_decimal hd)
  rintro hmem
  simp only [List.mem_cons, List.not_mem_nil, or_false] at hmem
  rcases hmem with rfl | rfl | rfl <;> simp at hdigit

lemma unspacedFrom_space (cs : List Char) :
    unspacedFrom .outside (' ' :: cs) = unspacedFrom .outside cs := by
  simp [unspacedFrom]

lemma unspacedFrom_lineBreak (level : Nat) (rest : List Char) :
    unspacedFrom .outside (lineBreak level ++ rest) = unspacedFrom .outside rest := by
  have hspaces : ∀ n, unspacedFrom .outside (List.replicate n ' ' ++ rest) =
      unspacedFrom .outside rest := by
    intro n
    induction n with
    | zero => rfl
    | succ n ih => rw [List.replicate_succ, List.cons_append, unspacedFrom_space, ih]
  rw [lineBreak, List.cons_append, ← hspaces (2 * level)]
  simp [unspacedFrom]

mutual

/-- Without its blanks the pretty text of a value is the compact one. -/
theorem unspacedFrom_prettyChars : ∀ (j : Json) (level : Nat) (rest : List Char),
    unspacedFrom .outside (j.prettyChars level ++ rest) =
      j.compactChars ++ unspacedFrom .outside rest
  | null, _, rest => unspacedFrom_append (w := "null".toList) (by simp)
  | bool b, _, rest => unspacedFrom_append (w := boolText b) (by cases b <;> simp [boolText])
  | int n, _, rest => unspacedFrom_signedDecimal n rest
  | str s, _, rest => unspacedFrom_quoted s rest
  | arr [], _, rest => unspacedFrom_append (w := ['[', ']']) (by simp)
  | arr (item :: items), level, rest => by
    have hitem := unspacedFrom_prettyChars item (level + 1)
    have hitems := unspacedFrom_prettyItems items level
    have hopen := unspacedFrom_cons (c := '[') (by decide)
    simp [prettyChars, compactChars, hopen, unspacedFrom_lineBreak, hitem, hitems]
  | obj [], _, rest => unspacedFrom_append (w := ['\x7b', '\x7d']) (by simp)
  | obj ((key, value) :: fields), level, rest => by
    have hvalue := unspacedFrom_prettyChars value (level + 1)
    have hfields := unspacedFrom_prettyFields fields level
    have hopen := unspacedFrom_cons (c := '\x7b') (by decide)
    have hcolon := unspacedFrom_cons (c := ':') (by decide)
    simp [prettyChars, compactChars, hopen, unspacedFrom_lineBreak, unspacedFrom_quoted, hcolon,
      unspacedFrom_space, hvalue, hfields]

theorem unspacedFrom_prettyItems : ∀ (items : List Json) (level : Nat) (rest : List Char),
    unspacedFrom .outside (prettyItems level items ++ rest) =
      compactItems items ++ unspacedFrom .outside rest
  | [], level, rest => by
    have hclose := unspacedFrom_cons (c := ']') (by decide)
    simp [prettyItems, compactItems, unspacedFrom_lineBreak, hclose]
  | item :: items, level, rest => by
    have hitem := unspacedFrom_prettyChars item (level + 1)
    have hitems := unspacedFrom_prettyItems items level
    have hcomma := unspacedFrom_cons (c := ',') (by decide)
    simp [prettyItems, compactItems, hcomma, unspacedFrom_lineBreak, hitem, hitems]

theorem unspacedFrom_prettyFields : ∀ (fields : List (String × Json)) (level : Nat)
    (rest : List Char), unspacedFrom .outside (prettyFields level fields ++ rest) =
      compactFields fields ++ unspacedFrom .outside rest
  | [], level, rest => by
    have hclose := unspacedFrom_cons (c := '\x7d') (by decide)
    simp [prettyFields, compactFields, unspacedFrom_lineBreak, hclose]
  | (key, value) :: fields, level, rest => by
    have hvalue := unspacedFrom_prettyChars value (level + 1)
    have hfields := unspacedFrom_prettyFields fields level
    have hcomma := unspacedFrom_cons (c := ',') (by decide)
    have hcolon := unspacedFrom_cons (c := ':') (by decide)
    simp [prettyFields, compactFields, hcomma, unspacedFrom_lineBreak, unspacedFrom_quoted, hcolon,
      unspacedFrom_space, hvalue, hfields]

end

/-- The layouts differ in blanks outside of strings alone. -/
lemma unspaced_pretty (j : Json) : unspaced j.pretty = j.compact := by
  have h := unspacedFrom_prettyChars j 0 []
  rw [List.append_nil, unspacedFrom, List.append_nil] at h
  rw [unspaced, pretty, String.toList_ofList, h, compact]

end DocFilter.Json
