import DocFilter.Query.Parser
import Mathlib.Tactic.Lemma

/-!
One step of the machine that reads queries: which tokens it takes in which state.
-/

namespace DocFilter.Query

lemma RelOp.ofKeyword?_eq_some_iff {w : String} {op : RelOp} :
    RelOp.ofKeyword? w = some op ↔ w = op.keyword := by
  constructor
  · intro h
    simpa [eq_comm] using List.find?_some h
  · rintro rfl
    exact RelOp.ofKeyword?_keyword op

lemma RelOp.keyword_injective : Function.Injective RelOp.keyword := fun op op' h =>
  Option.some.inj ((RelOp.ofKeyword?_keyword op).symm.trans (h ▸ RelOp.ofKeyword?_keyword op'))

lemma RelOp.ofKeyword?_ne_none {w : String} (h : w ∈ RelOp.all.map RelOp.keyword) :
    RelOp.ofKeyword? w ≠ none := by
  obtain ⟨op, -, rfl⟩ := List.mem_map.mp h
  simp [RelOp.ofKeyword?_keyword]

lemma LogOp.ofKeyword?_eq_some_iff {w : String} {op : LogOp} :
    LogOp.ofKeyword? w = some op ↔ w = op.keyword := by
  constructor
  · intro h
    simpa [eq_comm] using List.find?_some h
  · rintro rfl
    exact LogOp.ofKeyword?_keyword op

lemma LogOp.keyword_injective : Function.Injective LogOp.keyword := fun op op' h =>
  Option.some.inj ((LogOp.ofKeyword?_keyword op).symm.trans (h ▸ LogOp.ofKeyword?_keyword op'))

lemma LogOp.ofKeyword?_ne_none {w : String} (h : w ∈ LogOp.all.map LogOp.keyword) :
    LogOp.ofKeyword? w ≠ none := by
  obtain ⟨op, -, rfl⟩ := List.mem_map.mp h
  simp [LogOp.ofKeyword?_keyword]

namespace Parser

/-- The state after a token that is taken. -/
def take? : State → Token → Option State
  | .complete _, _ => none
  | .reading mode outer, t =>
    match accept? mode outer t with
    | some (.ok s) => some s
    | _ => none

/-- The state after some tokens that are all taken. -/
def takeAll? (s : State) (ts : List Token) : Option State := ts.foldlM take? s

@[simp] lemma takeAll?_nil (s : State) : takeAll? s [] = some s := rfl

@[simp] lemma takeAll?_cons (s : State) (t : Token) (ts : List Token) :
    takeAll? s (t :: ts) = (take? s t).bind (takeAll? · ts) := rfl

lemma takeAll?_of_take? {s s' : State} {t : Token} (h : take? s t = some s') (ts : List Token) :
    takeAll? s (t :: ts) = takeAll? s' ts := by
  rw [takeAll?_cons, h, Option.bind_some]

@[simp] lemma takeAll?_append (s : State) (ts us : List Token) :
    takeAll? s (ts ++ us) = (takeAll? s ts).bind (takeAll? · us) := by
  induction ts generalizing s with
  | nil => rfl
  | cons t ts ih => simp [ih, Option.bind_assoc]

@[simp] lemma take?_complete (n : Node) (t : Token) : take? (.complete n) t = none := rfl

lemma eq_nil_of_takeAll?_complete {n : Node} {ts : List Token} {s : State}
    (h : takeAll? (.complete n) ts = some s) : ts = [] ∧ s = .complete n := by
  cases ts with
  | nil => simpa using h.symm
  | cons => simp at h

/-! ### What is taken where -/

variable {outer : List Frame} {t : Token} {s : State}

lemma take?_reading {mode : Mode} :
    take? (.reading mode outer) t = some s ↔ accept? mode outer t = some (.ok s) := by
  simp only [take?]
  rcases accept? mode outer t with _ | _ | s' <;> simp

lemma take?_expression :
    take? (.reading .expression outer) t = some s ↔
      (∃ op, (t.kind = .relationalOperator ∧ t.text = RelOp.keyword op) ∧
        s = .reading (.openRelational op) outer) ∨
      (∃ op, (t.kind = .logicalOperator ∧ t.text = LogOp.keyword op) ∧
        s = .reading (.openLogical op) outer) ∨
      ∃ v, t.literal? = some (.ok v) ∧ s = attach (.literal v) outer := by
  simp only [take?_reading, ← RelOp.ofKeyword?_eq_some_iff, ← LogOp.ofKeyword?_eq_some_iff]
  unfold accept?
  cases hk : t.kind
  case relationalOperator =>
    have hl : t.literal? = none := by simp [Token.literal?, hk]
    cases RelOp.ofKeyword? t.text <;> simp [hl, eq_comm]
  case logicalOperator =>
    have hl : t.literal? = none := by simp [Token.literal?, hk]
    cases LogOp.ofKeyword? t.text <;> simp [hl, eq_comm]
  all_goals rcases t.literal? with _ | _ | v <;> simp [Except.map, eq_comm]

lemma take?_openRelational {op : RelOp} :
    take? (.reading (.openRelational op) outer) t = some s ↔
      t.kind = .openParen ∧ s = .reading (.field op) outer := by
  rw [take?_reading]
  unfold accept?
  cases t.kind <;> simp [eq_comm]

lemma take?_openLogical {op : LogOp} :
    take? (.reading (.openLogical op) outer) t = some s ↔
      t.kind = .openParen ∧ s = .reading .expression (⟨op, []⟩ :: outer) := by
  rw [take?_reading]
  unfold accept?
  cases t.kind <;> simp [eq_comm]

lemma take?_field {op : RelOp} :
    take? (.reading (.field op) outer) t = some s ↔
      t.kind = .identifier ∧ s = .reading (.comma op t.text) outer := by
  rw [take?_reading]
  unfold accept?
  cases t.kind <;> simp [eq_comm]

lemma take?_comma {op : RelOp} {f : String} :
    take? (.reading (.comma op f) outer) t = some s ↔
      t.kind = .comma ∧ s = .reading (.value op f) outer := by
  rw [take?_reading]
  unfold accept?
  cases t.kind <;> simp [eq_comm]

lemma take?_value {op : RelOp} {f : String} :
    take? (.reading (.value op f) outer) t = some s ↔
      ∃ v, t.literal? = some (.ok v) ∧ s = .reading (.close op f v) outer := by
  rw [take?_reading]
  unfold accept?
  rcases t.literal? with _ | _ | v <;> simp [Except.map, eq_comm]

lemma take?_close {op : RelOp} {f : String} {v : Literal} :
    take? (.reading (.close op f v) outer) t = some s ↔
      t.kind = .closeParen ∧ s = attach (.relational op f v) outer := by
  rw [take?_reading]
  unfold accept?
  cases t.kind <;> simp [eq_comm]

lemma take?_argument {op : LogOp} {ns : List Node} :
    take? (.reading (.argument op ns) outer) t = some s ↔
      (t.kind = .comma ∧ s = .reading .expression (⟨op, ns⟩ :: outer)) ∨
      (t.kind = .closeParen ∧ 2 ≤ ns.length ∧ s = attach (.logical op ns.reverse) outer) := by
  rw [take?_reading]
  unfold accept?
  by_cases hn : ns.length < 2
  · have two : ¬ 2 ≤ ns.length := Nat.not_le.mpr hn
    cases t.kind <;> simp [eq_comm, hn, two]
  · have two : 2 ≤ ns.length := Nat.not_lt.mp hn
    cases t.kind <;> simp [eq_comm, hn, two]

end Parser

end DocFilter.Query
