import DocFilter.Proofs.Filter.Dates
import DocFilter.Proofs.Query.Position
import DocFilter.Proofs.Token.Rounds

/-!
No query brings about a defect. The scanner cuts its text only where characters meet, every token
that it yields has the form that reading asks of its kind, and every tree that is read has a filter.
-/

namespace DocFilter

open Text Query
open Token (Stream)

namespace Token

/-- The token has the form that reading asks of its kind: a string is between its first and its
last byte, an operator and a boolean are one of those there are. -/
def Convertible (t : Token) : Prop :=
  match t.kind with
  | .string => ∃ inner, Slice t.text 1 (t.text.utf8ByteSize - 1) inner ∧
      t.literal? = some (.ok (.string (String.ofList inner)))
  | .relationalOperator => ∃ op, RelOp.ofKeyword? t.text = some op
  | .logicalOperator => ∃ op, LogOp.ofKeyword? t.text = some op
  | .boolean => ∃ b, t.literal? = some (.ok (.boolean b))
  | _ => True

lemma slice_of_quoted {text : String} {q : Char} {inner : List Char} (hq : q.utf8Size = 1)
    (h : text.toList = q :: (inner ++ [q])) : Slice text 1 (text.utf8ByteSize - 1) inner := by
  have hsplit : text.toList = [q] ++ (inner ++ [q]) := h
  have hslice := slice_of_split hsplit
  have hsize : text.utf8ByteSize - 1 = byteLength ([q] ++ inner) := by
    simp only [utf8ByteSize_eq, h, byteLength_cons, byteLength_append, byteLength_nil, hq]
    omega
  rwa [← hsize, byteLength_cons, byteLength_nil, hq] at hslice

lemma Lexical.convertible {t : Token} (h : t.Lexical) : t.Convertible := by
  unfold Convertible
  cases hk : t.kind with
  | string =>
    rw [Lexical, hk] at h
    obtain ⟨q, inner, quote, -, text⟩ := h
    have hq : q.utf8Size = 1 := by rcases quote with rfl | rfl <;> rfl
    exact ⟨inner, slice_of_quoted hq text, literal?_of_stands (.string hk quote text)⟩
  | relationalOperator =>
    rw [Lexical, hk, Kind.Shape, String.ofList_toList] at h
    exact Option.ne_none_iff_exists'.mp (RelOp.ofKeyword?_ne_none h)
  | logicalOperator =>
    rw [Lexical, hk, Kind.Shape, String.ofList_toList] at h
    exact Option.ne_none_iff_exists'.mp (LogOp.ofKeyword?_ne_none h)
  | boolean =>
    rw [Lexical, hk, Kind.Shape, String.ofList_toList] at h
    rcases List.mem_pair.mp h with htrue | hfalse
    · exact ⟨true, literal?_of_stands (.boolean hk htrue)⟩
    · exact ⟨false, literal?_of_stands (.boolean hk hfalse)⟩
  | _ => trivial

end Token

namespace Filter

variable {fields : List String} {strict : Bool} {text : String}

lemma compileQuery_of_parse_error {f : Failure} (h : parse strict text = .error f) :
    compileQuery fields strict text = .error f := by
  unfold parse at h
  simp only [compileQuery, compileQueryTraced, h]

lemma compileQuery_ok_or_query (fields : List String) (strict : Bool) (text : String) :
    (∃ d, compileQuery fields strict text = .ok d) ∨
      ∃ e, compileQuery fields strict text = .error (.query e) := by
  cases h : parse strict text with
  | ok n => exact .inl ⟨_, compileQuery_eq_ok_iff.mpr ⟨n, h, rfl⟩⟩
  | error f =>
    cases f with
    | query e => exact .inr ⟨e, compileQuery_of_parse_error h⟩
    | defect d => exact absurd h (parse_ne_defect strict text d)

lemma full_of_parse {n : Node} (h : parse strict text = .ok n) : n.Full := by
  obtain ⟨ts, rest, -, hderives, -⟩ := parse_eq_ok_iff.mp h
  exact hderives.full

/-- **No query brings about a defect.** Every text is compiled or refused with an error of the
query. In every round of the scanner the rest of the text starts at the cursor, what a rule takes
is there, and there is a character to report; a pull only goes from round to round. Every token
that is yielded has the form that reading asks of it, and in a tree that is read every logical
function has its two arguments, so that it has a filter. -/
theorem compileQuery_meets_no_defect (fields : List String) (strict : Bool) (text : String) :
    ((∃ d, compileQuery fields strict text = .ok d) ∨
      ∃ e, compileQuery fields strict text = .error (.query e)) ∧
    (∀ s, Scanner.Reached text s → s.Sound text ∧ Scanner.Reached text s.pull.2) ∧
    (∀ t ∈ (Stream.ofText text).tokens, t.Convertible) ∧
    (∀ n, parse strict text = .ok n → n.Full ∧ ∃ d, ofNode fields n = .ok d) := by
  refine ⟨compileQuery_ok_or_query fields strict text, fun s hs => ⟨hs.within.sound, hs.pull⟩,
    fun t ht => (Token.lexical_of_mem_ofText ht).convertible, fun n hn => ?_⟩
  exact ⟨full_of_parse hn, _, ofNode_eq_ok (full_of_parse hn) fields⟩

end Filter

end DocFilter
