import DocFilter.Token.Rule

/-!
A scanner yields the tokens of a query one at a time. `Scanner.pull` stays at a character that
starts no token; `Scanner.next` reports it once and gives up the rest of the query.
-/

namespace DocFilter

open Text Token

/-- A query and how far it has been scanned: `rest` is what follows the first `cursor` bytes. -/
structure Scanner where
  text : String
  cursor : Nat
  rest : List Char
  deriving DecidableEq, Repr

namespace Scanner

/-- What a request for a token gives. -/
inductive Pull
  | token (t : Token)
  | finished
  | stray (s : Stray)
  deriving DecidableEq, Repr

def ofText (text : String) : Scanner := ⟨text, 0, text.toList⟩

def hasMore (s : Scanner) : Bool := s.cursor < s.text.utf8ByteSize

/-- Moves past `n` characters. -/
def advance (s : Scanner) (n : Nat) : Scanner :=
  { s with cursor := s.cursor + byteLength (s.rest.take n), rest := s.rest.drop n }

theorem advance_shorter {s : Scanner} {n : Nat} (hn : 0 < n) (hs : s.rest ≠ []) :
    (s.advance n).rest.length < s.rest.length := by
  have := List.length_pos_iff.2 hs
  simp only [advance, List.length_drop]
  omega

/-- The next token by a table of rules, what is skipped before it left out. -/
def pullBy (rules : List Rule) (s : Scanner) : Pull × Scanner :=
  match _hs : s.rest with
  | [] => (.finished, s)
  | c :: _ =>
    match _hr : Rule.first? rules s.rest with
    | none => (.stray ⟨c, s.cursor⟩, s)
    | some (some kind, n) =>
      (.token ⟨kind, String.ofList (s.rest.take n), s.cursor⟩, s.advance n)
    | some (none, n) => pullBy rules (s.advance n)
termination_by s.rest.length
decreasing_by exact advance_shorter (Rule.first?_pos _hr) (by simp [_hs])

theorem pullBy_shorter {rules : List Rule} {s s' : Scanner} {t : Token}
    (h : s.pullBy rules = (.token t, s')) : s'.rest.length < s.rest.length := by
  fun_induction pullBy rules s with
  | case1 => cases h
  | case2 => cases h
  | case3 s c cs hs kind n hr =>
    cases h
    exact advance_shorter (Rule.first?_pos hr) (by simp [hs])
  | case4 s c cs hs n hr ih =>
    exact Nat.lt_trans (ih h) (advance_shorter (Rule.first?_pos hr) (by simp [hs]))

/-- The next token of the query language. -/
def pull (s : Scanner) : Pull × Scanner := s.pullBy Rule.table

/-- The next token; after a stray character nothing more is scanned. -/
def next (s : Scanner) : Pull × Scanner :=
  match s.pull with
  | (.stray e, s') => (.stray e, { s' with cursor := s'.text.utf8ByteSize, rest := [] })
  | other => other

end Scanner

end DocFilter
