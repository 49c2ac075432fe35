import DocFilter.Proofs.Query.Literal
import DocFilter.Proofs.Query.Step

/-!
What the machine's state says of the tokens it has taken: an invariant of every run, by which a
complete tree has a derivation.
-/

namespace DocFilter.Query.Parser

/-- One expression, or more with commas between them. -/
def Listed (ts : List Token) (ns : List Node) : Prop :=
  (∃ n, ns = [n] ∧ Derives ts n) ∨ DerivesArguments ts ns

lemma Listed.snoc {ts us : List Token} {ns : List Node} {n : Node} {c : Token}
    (h : Listed ts ns) (hc : c.kind = .comma) (hn : Derives us n) :
    Listed (ts ++ c :: us) (ns ++ [n]) := by
  rcases h with ⟨m, rfl, hm⟩ | h
  · exact .inr (.two hm hc hn)
  · exact .inr (.more h hc hn)

lemma Listed.arguments {ts : List Token} {ns : List Node} (h : Listed ts ns)
    (two : 2 ≤ ns.length) : DerivesArguments ts ns := by
  rcases h with ⟨n, rfl, -⟩ | h
  · simp at two
  · exact h

def IsRelational (o : Token) (op : RelOp) : Prop :=
  o.kind = .relationalOperator ∧ o.text = op.keyword

def IsLogical (o : Token) (op : LogOp) : Prop :=
  o.kind = .logicalOperator ∧ o.text = op.keyword

/-- The tokens before an expression, by the functions that are open around it. -/
inductive Around : List Frame → List Token → Prop
  | nil : Around [] []
  | first {outer ts o l op} (around : Around outer ts) (operator : IsLogical o op)
      (paren : l.kind = .openParen) : Around (⟨op, []⟩ :: outer) (ts ++ [o, l])
  | next {outer ts o l c op us ns} (around : Around outer ts) (operator : IsLogical o op)
      (paren : l.kind = .openParen) (before : Listed us ns) (comma : c.kind = .comma) :
      Around (⟨op, ns.reverse⟩ :: outer) (ts ++ (o :: l :: (us ++ [c])))

/-- The tokens that have been taken in a state. -/
inductive Taken : State → List Token → Prop
  | expression {outer ts} (around : Around outer ts) : Taken (.reading .expression outer) ts
  | openRelational {outer ts o op} (around : Around outer ts) (operator : IsRelational o op) :
      Taken (.reading (.openRelational op) outer) (ts ++ [o])
  | openLogical {outer ts o op} (around : Around outer ts) (operator : IsLogical o op) :
      Taken (.reading (.openLogical op) outer) (ts ++ [o])
  | field {outer ts o l op} (around : Around outer ts) (operator : IsRelational o op)
      (paren : l.kind = .openParen) : Taken (.reading (.field op) outer) (ts ++ [o, l])
  | comma {outer ts o l f op} (around : Around outer ts) (operator : IsRelational o op)
      (paren : l.kind = .openParen) (field : f.kind = .identifier) :
      Taken (.reading (.comma op f.text) outer) (ts ++ [o, l, f])
  | value {outer ts o l f c op} (around : Around outer ts) (operator : IsRelational o op)
      (paren : l.kind = .openParen) (field : f.kind = .identifier) (comma : c.kind = .comma) :
      Taken (.reading (.value op f.text) outer) (ts ++ [o, l, f, c])
  | close {outer ts o l f c t op v} (around : Around outer ts) (operator : IsRelational o op)
      (paren : l.kind = .openParen) (field : f.kind = .identifier) (comma : c.kind = .comma)
      (value : Stands t v) :
      Taken (.reading (.close op f.text v) outer) (ts ++ [o, l, f, c, t])
  | argument {outer ts o l op us ns} (around : Around outer ts) (operator : IsLogical o op)
      (paren : l.kind = .openParen) (arguments : Listed us ns) :
      Taken (.reading (.argument op ns.reverse) outer) (ts ++ (o :: l :: us))
  | complete {n ts} (derives : Derives ts n) : Taken (.complete n) ts

lemma Taken.attach {outer : List Frame} {ts us : List Token} {n : Node} (h : Around outer ts)
    (hn : Derives us n) : Taken (Parser.attach n outer) (ts ++ us) := by
  cases h with
  | nil => exact .complete hn
  | first around operator paren =>
    simpa [Parser.attach] using Taken.argument around operator paren (.inl ⟨n, rfl, hn⟩)
  | next around operator paren before comma =>
    simpa [Parser.attach] using Taken.argument around operator paren (before.snoc comma hn)

/-- The invariant is kept by every token that is taken. -/
lemma Taken.step {s s' : State} {ts : List Token} {t : Token} (h : Taken s ts) (ht : t.Lexical)
    (hs : take? s t = some s') : Taken s' (ts ++ [t]) := by
  cases h with
  | expression around =>
    rcases take?_expression.mp hs with ⟨op, hop, rfl⟩ | ⟨op, hop, rfl⟩ | ⟨v, hv, rfl⟩
    · exact .openRelational around hop
    · exact .openLogical around hop
    · exact Taken.attach around (.literal (Token.stands_of_literal? ht hv))
  | openRelational around operator =>
    obtain ⟨hk, rfl⟩ := take?_openRelational.mp hs
    simpa using Taken.field around operator hk
  | openLogical around operator =>
    obtain ⟨hk, rfl⟩ := take?_openLogical.mp hs
    simpa using Taken.expression (.first around operator hk)
  | field around operator paren =>
    obtain ⟨hk, rfl⟩ := take?_field.mp hs
    simpa using Taken.comma around operator paren hk
  | comma around operator paren field =>
    obtain ⟨hk, rfl⟩ := take?_comma.mp hs
    simpa using Taken.value around operator paren field hk
  | value around operator paren field comma =>
    obtain ⟨v, hv, rfl⟩ := take?_value.mp hs
    simpa using Taken.close around operator paren field comma (Token.stands_of_literal? ht hv)
  | close around operator paren field comma value =>
    obtain ⟨hk, rfl⟩ := take?_close.mp hs
    simpa using Taken.attach around (.relational operator paren field comma value hk)
  | argument around operator paren arguments =>
    rcases take?_argument.mp hs with ⟨hk, rfl⟩ | ⟨hk, two, rfl⟩
    · simpa using Taken.expression (.next around operator paren arguments hk)
    · rw [List.length_reverse] at two
      simpa using Taken.attach around (.logical operator paren (arguments.arguments two) hk)
  | complete => simp at hs

lemma Taken.steps {s s' : State} {ts us : List Token} (h : Taken s ts)
    (hus : ∀ t ∈ us, t.Lexical) (hs : takeAll? s us = some s') : Taken s' (ts ++ us) := by
  induction us generalizing s ts with
  | nil => simpa using Option.some.inj hs ▸ h
  | cons t us ih =>
    obtain ⟨s₁, h₁, h₂⟩ := Option.bind_eq_some_iff.mp hs
    rw [List.forall_mem_cons] at hus
    simpa using ih (h.step hus.1 h₁) hus.2 h₂

mutual

/-- The machine takes the tokens of an expression, wherever it stands. -/
theorem takeAll?_of_derives : ∀ {ts n}, Derives ts n → ∀ outer,
    takeAll? (.reading .expression outer) ts = some (attach n outer)
  | _, _, .literal value, outer => by
    rw [takeAll?_of_take? (take?_expression.mpr
      (.inr (.inr ⟨_, Token.literal?_of_stands value, rfl⟩))), takeAll?_nil]
  | _, _, .relational operator paren field comma value close, outer => by
    rw [takeAll?_of_take? (take?_expression.mpr (.inl ⟨_, operator, rfl⟩)),
      takeAll?_of_take? (take?_openRelational.mpr ⟨paren, rfl⟩),
      takeAll?_of_take? (take?_field.mpr ⟨field, rfl⟩),
      takeAll?_of_take? (take?_comma.mpr ⟨comma, rfl⟩),
      takeAll?_of_take? (take?_value.mpr ⟨_, Token.literal?_of_stands value, rfl⟩),
      takeAll?_of_take? (take?_close.mpr ⟨close, rfl⟩), takeAll?_nil]
  | _, _, .logical operator paren arguments close, outer => by
    have two := arguments.two_le
    rw [← List.length_reverse] at two
    rw [takeAll?_of_take? (take?_expression.mpr (.inr (.inl ⟨_, operator, rfl⟩))),
      takeAll?_of_take? (take?_openLogical.mpr ⟨paren, rfl⟩), takeAll?_append,
      takeAll?_of_derivesArguments arguments, Option.bind_some,
      takeAll?_of_take? (take?_argument.mpr (.inr ⟨close, two, rfl⟩)), takeAll?_nil,
      List.reverse_reverse]

theorem takeAll?_of_derivesArguments : ∀ {ts ns}, DerivesArguments ts ns → ∀ op outer,
    takeAll? (.reading .expression (⟨op, []⟩ :: outer)) ts =
      some (.reading (.argument op ns.reverse) outer)
  | _, _, .two first comma second, op, outer => by
    rw [takeAll?_append, takeAll?_of_derives first, Option.bind_some, attach,
      takeAll?_of_take? (take?_argument.mpr (.inl ⟨comma, rfl⟩)), takeAll?_of_derives second]
    rfl
  | _, _, .more before comma last, op, outer => by
    rw [takeAll?_append, takeAll?_of_derivesArguments before, Option.bind_some,
      takeAll?_of_take? (take?_argument.mpr (.inl ⟨comma, rfl⟩)), takeAll?_of_derives last,
      attach, List.reverse_append]
    rfl

end

/-- **The machine completes exactly the derivable trees.** -/
theorem takeAll?_start_iff {ts : List Token} {n : Node} (hts : ∀ t ∈ ts, t.Lexical) :
    takeAll? start ts = some (.complete n) ↔ Derives ts n := by
  constructor
  · intro h
    have htaken : Taken (.complete n) ([] ++ ts) := (Taken.expression .nil).steps hts h
    cases htaken with
    | complete derives => exact derives
  · intro h
    exact takeAll?_of_derives h []

end DocFilter.Query.Parser
