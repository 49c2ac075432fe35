import DocFilter.Proofs.Query.Accepts
import DocFilter.Proofs.Query.LiteralTokens
import DocFilter.Proofs.Query.Recoding
import DocFilter.Proofs.Token.Swap

/-!
What is written between quotes cannot change how a query is read.
-/

namespace DocFilter

open Text
open Token (Stream Swap quoting)

/-! ### The tokens -/

namespace Token

lemma recoded_of_quoting {a c c' s : List Char} {q : Char} {t : Token} (hq : q = '"' ∨ q = '\'')
    (hc : q ∉ c) (hc' : q ∉ c') (ht : t ∈ (Stream.ofText (quoting a q c s)).tokens)
    (offset : t.offset = byteLength a) {u : Token}
    (hu : u ∈ (Stream.ofText (quoting a q c s)).tokens) :
    u.Recoded (Swap.position ⟨byteLength a, q, c, c'⟩) (Swap.token ⟨byteLength a, q, c, c'⟩ u) where
  kind := rfl
  text hne := by
    refine Swap.text_token fun hoff => hne ?_
    rw [eq_of_offset hq hc hu hoff]
  offset := rfl
  lexical := lexical_of_mem_ofText hu
  lexical' := by
    have hmem : Swap.token ⟨byteLength a, q, c, c'⟩ u ∈
        (Stream.ofText (quoting a q c' s)).tokens := by
      rw [ofText_swap hq hc hc' ht offset, Stream.tokens_map]
      exact List.mem_map_of_mem hu
    exact lexical_of_mem_ofText hmem

end Token

/-! ### The trees -/

namespace Query

/-- The trees are the same but for what the swapped token stands for, if it is one of the tokens
that derive the first tree. -/
structure Changes (w : Swap) (ts : List Token) (n m : Node) : Prop where
  alike : n.Alike m
  taken : (∃ t ∈ ts, t.offset = w.start) →
    n.literals[literalIndex ts w.start]? = some (.string (String.ofList w.old)) ∧
    m.literals = n.literals.set (literalIndex ts w.start) (.string (String.ofList w.new))
  left : (∀ t ∈ ts, t.offset ≠ w.start) → m = n

lemma filter_eq_map {ts ts' us us' : List Token} {n m : Node} {w : Swap} (hn : Derives ts n)
    (hm : Derives ts' m) (alike : n.Alike m) (hmap : ts' ++ us' = (ts ++ us).map w.token) :
    ts'.filter (·.kind.isLiteral) = (ts.filter (·.kind.isLiteral)).map w.token := by
  -- the streams may go on behind the trees, but alike trees have as many literals
  have hlen : (ts'.filter (·.kind.isLiteral)).length = (ts.filter (·.kind.isLiteral)).length := by
    rw [hm.stands.length_eq, hn.stands.length_eq, alike.length_literals]
  have hfilter := congrArg (List.filter (·.kind.isLiteral)) hmap
  rw [List.map_append, List.filter_append, List.filter_append, List.filter_map] at hfilter
  exact List.append_inj_left hfilter (by simpa using hlen)

section

variable {w : Swap} {u : Token} {v v' : Literal}

lemma stands_of_string (hq : w.quote = '"' ∨ w.quote = '\'')
    (hu : u = ⟨.string, String.ofList (w.quote :: (w.old ++ [w.quote])), w.start⟩)
    (h : Stands u v) (h' : Stands (w.token u) v') :
    v = .string (String.ofList w.old) ∧ v' = .string (String.ofList w.new) := by
  subst hu
  exact ⟨h.eq_string hq rfl rfl, h'.eq_string hq rfl (if_pos rfl)⟩

lemma stands_of_offset_ne (offset : u.offset ≠ w.start) (h : Stands u v)
    (h' : Stands (w.token u) v') : v' = v :=
  h'.unique (h.congr rfl (Swap.text_token offset))

end

section

variable {w : Swap} {ts : List Token} {n m : Node} (alike : n.Alike m)
  (hn : List.Forall₂ Stands (ts.filter (·.kind.isLiteral)) n.literals)
  (hm : List.Forall₂ (fun u => Stands (w.token u)) (ts.filter (·.kind.isLiteral)) m.literals)

include hn hm

lemma getElem_literals_eq {j : Nat} (hj : j < n.literals.length) (hj' : j < m.literals.length)
    (hju : j < (ts.filter (·.kind.isLiteral)).length)
    (offset : (ts.filter (·.kind.isLiteral))[j].offset ≠ w.start) :
    m.literals[j] = n.literals[j] :=
  stands_of_offset_ne offset (hn.get hju hj) (hm.get hju hj')

include alike

lemma eq_of_left (left : ∀ t ∈ ts, t.offset ≠ w.start) : m = n := by
  symm
  apply alike.eq_of_literals
  apply List.ext_getElem alike.length_literals
  intro j hj hj'
  have hju := hj.trans_eq hn.length_eq.symm
  have hmem := List.mem_of_mem_filter (List.getElem_mem hju)
  exact (getElem_literals_eq hn hm hj hj' hju (left _ hmem)).symm

lemma literals_of_taken (hq : w.quote = '"' ∨ w.quote = '\'')
    (hpair : ts.Pairwise (·.offset < ·.offset))
    (ht : ⟨.string, String.ofList (w.quote :: (w.old ++ [w.quote])), w.start⟩ ∈ ts) :
    n.literals[literalIndex ts w.start]? = some (.string (String.ofList w.old)) ∧
    m.literals = n.literals.set (literalIndex ts w.start) (.string (String.ofList w.new)) := by
  have hmem : ⟨.string, String.ofList (w.quote :: (w.old ++ [w.quote])), w.start⟩ ∈
      ts.filter (·.kind.isLiteral) := List.mem_filter.mpr ⟨ht, rfl⟩
  obtain ⟨i, hi, hget⟩ := List.getElem_of_mem hmem
  have hindex : literalIndex ts w.start = i :=
    (literalIndex_eq_iff hpair hi).mpr (by rw [hget])
  have hin := hi.trans_eq hn.length_eq
  have him := hi.trans_eq hm.length_eq
  obtain ⟨hold, hnew⟩ := stands_of_string hq hget (hn.get hi hin) (hm.get hi him)
  rw [hindex]
  refine ⟨List.getElem?_eq_some_iff.mpr ⟨hin, hold⟩, ?_⟩
  apply List.ext_getElem
  · rw [List.length_set, alike.length_literals]
  · intro j hj hj'
    rw [List.getElem_set]
    split
    · next heq =>
      subst heq
      exact hnew
    · next hne =>
      -- two tokens do not start at the same byte
      have hju := hj.trans_eq hm.length_eq.symm
      apply getElem_literals_eq hn hm _ hj hju
      intro hoff
      exact hne (hindex.symm.trans ((literalIndex_eq_iff hpair hju).mpr hoff))

end

lemma changes_of_alike {a c c' s : List Char} {q : Char} {t : Token} {strict : Bool} {n m : Node}
    (hq : q = '"' ∨ q = '\'') (hc : q ∉ c) (hc' : q ∉ c')
    (ht : t ∈ (Stream.ofText (quoting a q c s)).tokens) (offset : t.offset = byteLength a)
    (h : parse strict (quoting a q c s) = .ok n) (h' : parse strict (quoting a q c' s) = .ok m)
    (alike : n.Alike m) :
    ∃ ts rest, Stream.ofText (quoting a q c s) = .prepend ts rest ∧ Derives ts n ∧
      Changes ⟨byteLength a, q, c, c'⟩ ts n m := by
  obtain ⟨ts, rest, hstream, hn, -⟩ := parse_eq_ok_iff.mp h
  obtain ⟨ts', rest', hstream', hm, -⟩ := parse_eq_ok_iff.mp h'
  have htokens : (Stream.ofText (quoting a q c s)).tokens = ts ++ rest.tokens := by
    rw [hstream, Stream.tokens_prepend]
  have hmap := congrArg Stream.tokens (Token.ofText_swap hq hc hc' ht offset)
  rw [hstream', Stream.tokens_map, Stream.tokens_prepend, htokens] at hmap
  have hpair := Token.pairwise_offset_ofText (quoting a q c s)
  rw [htokens] at hpair
  have hfront := (List.pairwise_append.mp hpair).1
  have hstands := hm.stands
  rw [filter_eq_map hn hm alike hmap, List.forall₂_map_left_iff] at hstands
  refine ⟨ts, rest, hstream, hn, alike, ?_, eq_of_left alike hn.stands hstands⟩
  rintro ⟨u, hu, hoff⟩
  have hu' := Token.eq_of_offset hq hc (htokens ▸ List.mem_append_left _ hu) hoff
  exact literals_of_taken alike hn.stands hstands hq hfront (hu' ▸ hu)

/-- Two texts are read alike: either both as trees, which are the same but for what the swapped
token stands for, or both with the same error, but for that token and the positions behind it. -/
def ReadAlike (strict : Bool) (w : Swap) (text text' : String) : Prop :=
  (∃ n m ts rest, parse strict text = .ok n ∧ parse strict text' = .ok m ∧
    Stream.ofText text = .prepend ts rest ∧ Derives ts n ∧ Changes w ts n m) ∨
  (∃ e, parse strict text = .error (.query e) ∧
    parse strict text' = .error (.query (e.map w.token w.position)))

/-- **Contents of a string cannot inject structure.** Where a string token starts at a quote, the
text with other contents up to the next quote is read alike. -/
theorem readAlike_quoting {a s c c' : List Char} {q : Char} (quote : q = '"' ∨ q = '\'')
    (old : q ∉ c) (new : q ∉ c') (strict : Bool)
    (scanned : ∃ t ∈ (Stream.ofText (quoting a q c s)).tokens,
      t.kind = .string ∧ t.offset = byteLength a) :
    ReadAlike strict ⟨byteLength a, q, c, c'⟩ (quoting a q c s) (quoting a q c' s) := by
  obtain ⟨t, ht, -, offset⟩ := scanned
  have hends := Parser.ofStream_ends strict fun u hu =>
    Token.recoded_of_quoting quote old new ht offset hu
  rw [← Token.ofText_swap quote old new ht offset, ← parse_eq_result, ← parse_eq_result] at hends
  generalize hr : parse strict (quoting a q c s) = r at hends
  generalize hr' : parse strict (quoting a q c' s) = r' at hends
  cases hends with
  | tree alike =>
    obtain ⟨ts, rest, hstream, hderives, hchanges⟩ :=
      changes_of_alike quote old new ht offset hr hr' alike
    exact .inl ⟨_, _, ts, rest, hr, hr', hstream, hderives, hchanges⟩
  | error => exact .inr ⟨_, hr, hr'⟩

/-- `eq(f,'x')` with contents that look like the end of the function and the start of another. -/
theorem readAlike_injection :
    (∃ t ∈ (Stream.ofText (quoting ['e', 'q', '(', 'f', ','] '\'' ['x'] [')'])).tokens,
      t.kind = .string ∧ t.offset = 5) ∧
    ReadAlike true ⟨5, '\'', ['x'], ['"', ')', ',', 'o', 'r', '(']⟩
      (quoting ['e', 'q', '(', 'f', ','] '\'' ['x'] [')'])
      (quoting ['e', 'q', '(', 'f', ','] '\'' ['"', ')', ',', 'o', 'r', '('] [')']) := by
  have hoperator : Token.Lexeme (some (Token.wordKind ['e', 'q'])) ['e', 'q']
      ['(', 'f', ',', '\'', 'x', '\'', ')'] :=
    .word (by decide) (List.forall_mem_singleton.mpr rfl) (Token.stops_cons.mpr (by decide))
  have hfield : Token.Lexeme (some (Token.wordKind ['f'])) ['f'] [',', '\'', 'x', '\'', ')'] :=
    .word (by decide) (List.forall_mem_nil _) (Token.stops_cons.mpr (by decide))
  have hstring : Token.Lexeme (some .string) ('\'' :: (['x'] ++ ['\''])) [')'] :=
    .string (by decide) (by decide)
  have htiles := Token.Tiling.cons hoperator (.cons .openParen (.cons hfield
    (.cons .comma (.cons hstring (.cons .closeParen .nil)))))
  have hcut : (quoting ['e', 'q', '(', 'f', ','] '\'' ['x'] [')']).toList =
      ['e', 'q'] ++ ['(', 'f', ',', '\'', 'x', '\'', ')'] := Token.toList_quoting
  have hscan : ∃ t ∈ (Stream.ofText (quoting ['e', 'q', '(', 'f', ','] '\'' ['x'] [')'])).tokens,
      t.kind = .string ∧ t.offset = 5 := by
    rw [Token.ofText_eq (hcut ▸ htiles) Token.noLexeme_nil, Stream.tokens_prepend]
    decide
  exact ⟨hscan, readAlike_quoting (by decide) (by decide) (by decide) true hscan⟩

end Query

end DocFilter
