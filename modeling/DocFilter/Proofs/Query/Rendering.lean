import DocFilter.Proofs.Query.WellFormed
import DocFilter.Proofs.Token.Spacing

/-!
Trees written down as queries. Whatever blanks stand between the words of a well-formed tree, it is
read as the same tree again.
-/

namespace DocFilter.Query

open Text
open Token (Kind Word Legible Spaced word IsName keywords)

/-! ### Words -/

/-- `v.Written w`: the value is written as the word `w`. -/
inductive Literal.Written : Literal → Word → Prop
  | number {n : Nat} {ds : List Char} (ne : ds ≠ []) (all : ∀ d ∈ ds, d.isDigit = true)
      (value : decimalValue ds = n) : Written (.number n) ⟨.number, ds⟩
  | string {s : String} {q : Char} (quote : q = '"' ∨ q = '\'') (inner : q ∉ s.toList) :
      Written (.string s) ⟨.string, q :: (s.toList ++ [q])⟩
  | boolean {b : Bool} : Written (.boolean b) ⟨.boolean, (if b then "true" else "false").toList⟩
  | date {t : Timestamp} {d : List Char} (spells : t.Spells d) : Written (.date t) ⟨.date, d⟩

def openParen : Word := ⟨.openParen, ['(']⟩
def closeParen : Word := ⟨.closeParen, [')']⟩
def comma : Word := ⟨.comma, [',']⟩

mutual

/-- `n.Written ws`: the tree is written as the words `ws`. -/
inductive Node.Written : Node → List Word → Prop
  | literal {v : Literal} {w : Word} (value : v.Written w) : Written (.literal v) [w]
  | relational {op : RelOp} {f : String} {v : Literal} {w : Word} (value : v.Written w) :
      Written (.relational op f v)
        [⟨.relationalOperator, op.keyword.toList⟩, openParen, ⟨.identifier, f.toList⟩, comma, w,
          closeParen]
  | logical {op : LogOp} {ns : List Node} {ws : List Word} (arguments : WrittenAll ns ws) :
      Written (.logical op ns)
        (⟨.logicalOperator, op.keyword.toList⟩ :: openParen :: (ws ++ [closeParen]))

/-- Trees one after the other, with commas between them. -/
inductive Node.WrittenAll : List Node → List Word → Prop
  | one {n : Node} {ws : List Word} (tree : Node.Written n ws) : WrittenAll [n] ws
  | more {n : Node} {ns : List Node} {ws us : List Word} (before : WrittenAll ns ws)
      (last : Node.Written n us) : WrittenAll (ns ++ [n]) (ws ++ comma :: us)

end

/-- `n.Renders text`: the text is the tree written down, with any blanks between the words. -/
def Node.Renders (n : Node) (text : String) : Prop := ∃ ws, n.Written ws ∧ Spaced ws text.toList

/-! ### What is written is legible -/

lemma Literal.Written.proper {v : Literal} {w : Word} (h : v.Written w) : w.Proper := by
  cases h with
  | number ne all => exact ⟨ne, all⟩
  | @string s q quote inner => exact ⟨q, s.toList, quote, inner, rfl⟩
  | @boolean b =>
    cases b with
    | true => exact List.mem_cons_self
    | false => exact List.mem_cons_of_mem _ List.mem_cons_self
  | date spells => exact spells.isDate

lemma relationalOperator_proper (op : RelOp) :
    Word.Proper ⟨.relationalOperator, op.keyword.toList⟩ := by
  change String.ofList op.keyword.toList ∈ _
  rw [String.ofList_toList]
  cases op <;> decide

lemma logicalOperator_proper (op : LogOp) :
    Word.Proper ⟨.logicalOperator, op.keyword.toList⟩ := by
  change String.ofList op.keyword.toList ∈ _
  rw [String.ofList_toList]
  cases op <;> decide

lemma identifier_proper {f : String} (name : IsName f.toList) (noKeyword : f ∉ keywords) :
    Word.Proper ⟨.identifier, f.toList⟩ := by
  obtain ⟨c, cs, heq, hfirst, hall⟩ := name
  refine ⟨c, cs, heq, hfirst, hall, ?_⟩
  rwa [Token.wordKind_eq_identifier_iff, String.ofList_toList]

mutual

theorem Node.Written.legible : ∀ {n ws}, Node.Written n ws → n.WellFormed → Legible ws
  | _, _, .literal value, _ => Token.legible_singleton value.proper
  | _, _, .relational value, .relational name noKeyword _ =>
    have hfield := Token.legible_singleton (identifier_proper name noKeyword)
    have hvalue := Token.legible_singleton value.proper
    (Token.legible_singleton (relationalOperator_proper _)).delimit
      (hfield.delimit (hvalue.delimit Token.legible_nil rfl rfl) rfl rfl) rfl rfl
  | _, _, .logical arguments, .logical _ all =>
    (Token.legible_singleton (logicalOperator_proper _)).delimit
      ((arguments.legible all).delimit Token.legible_nil rfl rfl) rfl rfl

theorem Node.WrittenAll.legible : ∀ {ns ws}, Node.WrittenAll ns ws → (∀ n ∈ ns, n.WellFormed) →
    Legible ws
  | _, _, .one tree, all => tree.legible (all _ List.mem_cons_self)
  | _, _, .more before last, all =>
    (before.legible fun n hn => all n (List.mem_append_left _ hn)).delimit
      (last.legible (all _ List.mem_concat_self)) rfl rfl

end

/-! ### What is written is read -/

lemma stands_of_written {t : Token} {v : Literal} (h : v.Written (word t)) (wf : v.WellFormed) :
    Stands t v := by
  generalize hw : word t = w at h
  cases h with
  | @number n ds ne all value =>
    obtain ⟨kind, text⟩ := Token.word_eq_iff.mp hw
    have hvalue : decimalValue t.text.toList = n := by rw [text, String.toList_ofList, value]
    have hrange : decimalValue t.text.toList < 0x8000000000000000 := by
      have hmax := wf.2
      simp only [Literal.maxNumber] at hmax
      omega
    exact hvalue ▸ .number kind hrange
  | @string s q quote inner =>
    obtain ⟨kind, text⟩ := Token.word_eq_iff.mp hw
    have hstands := Stands.string kind quote (by rw [text, String.toList_ofList])
    rwa [String.ofList_toList] at hstands
  | boolean =>
    obtain ⟨kind, text⟩ := Token.word_eq_iff.mp hw
    exact .boolean kind (by rw [text, String.ofList_toList])
  | date spells =>
    obtain ⟨kind, text⟩ := Token.word_eq_iff.mp hw
    exact .date kind (text ▸ Timestamp.ofText_of_spells spells wf.1)

mutual

/-- Tokens that are the words of a tree derive it. -/
theorem Node.Written.derives : ∀ {n ws}, Node.Written n ws → n.WellFormed →
    ∀ {ts : List Token}, ts.map word = ws → Derives ts n
  | _, _, .literal value, .literal wf, ts, hts => by
    obtain ⟨t, rfl, rfl⟩ := List.map_eq_singleton_iff.mp hts
    exact .literal (stands_of_written value wf)
  | _, _, .relational value, .relational _ _ wf, ts, hts => by
    simp only [List.map_eq_cons_iff, List.map_eq_nil_iff] at hts
    obtain ⟨o, _, rfl, ho, l, _, rfl, hl, f, _, rfl, hf, c, _, rfl, hc, t, _, rfl, rfl, r, _, rfl,
      hr, rfl⟩ := hts
    obtain ⟨hokind, hotext⟩ := Token.word_eq_iff.mp ho
    obtain ⟨hfkind, hftext⟩ := Token.word_eq_iff.mp hf
    rw [String.ofList_toList] at hotext hftext
    subst hftext
    exact .relational ⟨hokind, hotext⟩ (Token.word_eq_iff.mp hl).1 hfkind
      (Token.word_eq_iff.mp hc).1 (stands_of_written value wf) (Token.word_eq_iff.mp hr).1
  | _, _, .logical arguments, .logical two all, ts, hts => by
    obtain ⟨o, _, rfl, ho, hts⟩ := List.map_eq_cons_iff.mp hts
    obtain ⟨l, _, rfl, hl, hts⟩ := List.map_eq_cons_iff.mp hts
    obtain ⟨us, _, rfl, hus, hts⟩ := List.map_eq_append_iff.mp hts
    obtain ⟨r, rfl, hr⟩ := List.map_eq_singleton_iff.mp hts
    obtain ⟨hokind, hotext⟩ := Token.word_eq_iff.mp ho
    rw [String.ofList_toList] at hotext
    exact .logical ⟨hokind, hotext⟩ (Token.word_eq_iff.mp hl).1
      ((arguments.listed all hus).arguments two) (Token.word_eq_iff.mp hr).1

theorem Node.WrittenAll.listed : ∀ {ns ws}, Node.WrittenAll ns ws → (∀ n ∈ ns, n.WellFormed) →
    ∀ {ts : List Token}, ts.map word = ws → Parser.Listed ts ns
  | _, _, .one tree, all, ts, hts => .inl ⟨_, rfl, tree.derives (all _ List.mem_cons_self) hts⟩
  | _, _, .more before last, all, ts, hts => by
    obtain ⟨ts, us, rfl, hbefore, hrest⟩ := List.map_eq_append_iff.mp hts
    obtain ⟨c, us, rfl, hcomma, hlast⟩ := List.map_eq_cons_iff.mp hrest
    have hlisted := before.listed (fun n hn => all n (List.mem_append_left _ hn)) hbefore
    exact hlisted.snoc (Token.word_eq_iff.mp hcomma).1
      (last.derives (all _ List.mem_concat_self) hlast)

end

lemma parse_of_renders {n : Node} {text : String} (h : n.Renders text) (wf : n.WellFormed) :
    parse true text = .ok n := by
  obtain ⟨ws, hwritten, hspaced⟩ := h
  obtain ⟨ts, htokens, hwords⟩ := Token.tokenize_of_spaced hspaced (hwritten.legible wf)
  obtain ⟨p, hstream⟩ := Token.Stream.toList_eq_ok_iff.mp htokens
  exact parse_eq_ok_iff.mpr ⟨ts, _, hstream, hwritten.derives wf hwords, trivial⟩

/-! ### Every well-formed tree can be written -/

lemma Literal.WellFormed.exists_written {v : Literal} (h : v.WellFormed) : ∃ w, v.Written w := by
  cases v with
  | number n =>
    obtain ⟨n, rfl⟩ := Int.eq_ofNat_of_zero_le h.1
    exact ⟨_, .number (decimal_ne_nil n) (fun _ => isDigit_of_mem_decimal)
      (decimalValue_decimal n)⟩
  | string s =>
    rcases h with hdouble | hsingle
    · exact ⟨_, .string (.inl rfl) hdouble⟩
    · exact ⟨_, .string (.inr rfl) hsingle⟩
  | boolean b => exact ⟨_, .boolean⟩
  | date t => exact ⟨_, .date (Timestamp.spells_toText h.1 h.2.1 h.2.2)⟩

lemma exists_writtenAll {ns : List Node} (ne : ns ≠ [])
    (h : ∀ n ∈ ns, ∃ ws, Node.Written n ws) : ∃ ws, Node.WrittenAll ns ws := by
  -- from the end, as arguments are written
  induction ns using List.reverseRecOn with
  | nil => exact absurd rfl ne
  | append_singleton ns n ih =>
    obtain ⟨us, hlast⟩ := h n List.mem_concat_self
    by_cases hns : ns = []
    · subst hns
      exact ⟨us, .one hlast⟩
    · obtain ⟨ws, hbefore⟩ := ih hns fun m hm => h m (List.mem_append_left _ hm)
      exact ⟨_, .more hbefore hlast⟩

lemma Node.WellFormed.exists_written {n : Node} (h : n.WellFormed) : ∃ ws, n.Written ws := by
  induction h with
  | literal value =>
    obtain ⟨w, hw⟩ := value.exists_written
    exact ⟨_, .literal hw⟩
  | relational _ _ value =>
    obtain ⟨w, hw⟩ := value.exists_written
    exact ⟨_, .relational hw⟩
  | logical two _ ih =>
    have ne := List.length_pos_iff.mp (Nat.lt_of_lt_of_le Nat.two_pos two)
    obtain ⟨ws, hws⟩ := exists_writtenAll ne ih
    exact ⟨_, .logical hws⟩

lemma Node.WellFormed.exists_renders {n : Node} (h : n.WellFormed) : ∃ text, n.Renders text := by
  obtain ⟨ws, hws⟩ := h.exists_written
  refine ⟨String.ofList (ws.flatMap Word.text), ws, hws, ?_⟩
  rw [String.toList_ofList]
  exact Token.spaced_flatMap ws

/-- **Reading inverts writing.** Every rendering of a well-formed tree is read as that tree, every
well-formed tree has a rendering, and whatever is read is well formed. -/
theorem parse_inverts_rendering :
    (∀ n text, Node.WellFormed n → n.Renders text → parse true text = .ok n) ∧
    (∀ n, Node.WellFormed n → ∃ text, n.Renders text) ∧
    (∀ strict text n, parse strict text = .ok n → n.WellFormed) :=
  ⟨fun _ _ wf h => parse_of_renders h wf, fun _ => Node.WellFormed.exists_renders,
    fun _ _ _ => wellFormed_of_parse⟩

/-- A leap second on a leap day, with half a second more and an offset. -/
theorem parse_inverts_rendering_date :
    ∃ n, n = Node.relational .ge "f" (.date ⟨⟨⟨2024, 2, 29⟩, 23, 59, 60, 500000000⟩, 90⟩) ∧
      n.WellFormed ∧ n.Renders " ge(f ,2024-02-29T23:59:60.50+01:30\n)" ∧
      parse true " ge(f ,2024-02-29T23:59:60.50+01:30\n)" = .ok n := by
  have wf : Node.WellFormed
      (.relational .ge "f" (.date ⟨⟨⟨2024, 2, 29⟩, 23, 59, 60, 500000000⟩, 90⟩)) :=
    .relational ⟨'f', [], rfl, .inl rfl, List.forall_mem_nil _⟩ (by decide)
      ⟨by decide, by decide, by decide⟩
  have hspells := Timestamp.Spells.mk
    (⟨rfl, List.all_eq_true.mp rfl, rfl⟩ : Numeral 4 2024 ['2', '0', '2', '4'])
    (⟨rfl, List.all_eq_true.mp rfl, rfl⟩ : Numeral 2 2 ['0', '2'])
    (⟨rfl, List.all_eq_true.mp rfl, rfl⟩ : Numeral 2 29 ['2', '9'])
    (⟨rfl, List.all_eq_true.mp rfl, rfl⟩ : Numeral 2 23 ['2', '3'])
    (⟨rfl, List.all_eq_true.mp rfl, rfl⟩ : Numeral 2 59 ['5', '9'])
    (⟨rfl, List.all_eq_true.mp rfl, rfl⟩ : Numeral 2 60 ['6', '0'])
    (.digits (List.cons_ne_nil _ _) (List.all_eq_true.mp rfl) rfl :
      Timestamp.SpellsFraction 500000000 ['.', '5', '0'])
    (.east (⟨rfl, List.all_eq_true.mp rfl, rfl⟩ : Numeral 2 1 ['0', '1'])
      (⟨rfl, List.all_eq_true.mp rfl, rfl⟩ : Numeral 2 30 ['3', '0']) (by decide))
  have hspace : ∀ c ∈ [' '], c ∈ Token.blanks := List.forall_mem_singleton.mpr (by decide)
  have hspaced : Spaced _ " ge(f ,2024-02-29T23:59:60.50+01:30\n)".toList :=
    @Spaced.cons [' '] _ ⟨.relationalOperator, ['g', 'e']⟩ _ hspace <|
    @Spaced.cons [] _ openParen _ (List.forall_mem_nil _) <|
    @Spaced.cons [] _ ⟨.identifier, ['f']⟩ _ (List.forall_mem_nil _) <|
    @Spaced.cons [' '] _ comma _ hspace <|
    @Spaced.cons [] _ ⟨.date, "2024-02-29T23:59:60.50+01:30".toList⟩ _ (List.forall_mem_nil _) <|
    @Spaced.cons ['\n'] _ closeParen _ (List.forall_mem_singleton.mpr (by decide)) <|
    .nil (List.forall_mem_nil _)
  have hrenders : Node.Renders
      (.relational .ge "f" (.date ⟨⟨⟨2024, 2, 29⟩, 23, 59, 60, 500000000⟩, 90⟩))
      " ge(f ,2024-02-29T23:59:60.50+01:30\n)" := ⟨_, .relational (.date hspells), hspaced⟩
  exact ⟨_, rfl, wf, hrenders, parse_inverts_rendering.1 _ _ wf hrenders⟩

end DocFilter.Query
