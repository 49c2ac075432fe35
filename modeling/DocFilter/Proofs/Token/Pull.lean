import DocFilter.Proofs.Token.FirstMatch
import DocFilter.Token.Stream

/-!
What a scanner yields, pull by pull, and all pulls as one stream.
-/

namespace DocFilter

open Text Token

namespace Token

lemma Lexeme.ne_nil {k : Option Kind} {w rest : List Char} (h : Lexeme k w rest) : w ≠ [] := by
  have := Rule.first?_pos (Rule.first?_of_lexeme h)
  exact List.length_pos_iff.mp this

end Token

namespace Scanner

lemma pull_of_nil {s : Scanner} (h : s.rest = []) : s.pull = (.finished, s) := by
  unfold pull
  rw [pullBy]
  split
  · rfl
  · simp_all

lemma pull_of_stray {s : Scanner} {c : Char} {cs : List Char} (h : s.rest = c :: cs)
    (hr : Rule.first? Rule.table s.rest = none) : s.pull = (.stray ⟨c, s.cursor⟩, s) := by
  unfold pull
  rw [pullBy]
  split
  · simp_all
  · split <;> simp_all

lemma pull_of_token {s : Scanner} {k : Kind} {w rest : List Char} (h : Lexeme (some k) w rest)
    (hs : s.rest = w ++ rest) :
    s.pull = (.token ⟨k, String.ofList w, s.cursor⟩,
      { s with cursor := s.cursor + byteLength w, rest := rest }) := by
  have hfirst := Rule.first?_of_lexeme h
  unfold pull
  rw [pullBy]
  split
  · simp_all [h.ne_nil]
  · split <;> simp_all [advance]

lemma pull_of_blanks {s : Scanner} {w rest : List Char} (h : Lexeme none w rest)
    (hs : s.rest = w ++ rest) :
    s.pull = pull { s with cursor := s.cursor + byteLength w, rest := rest } := by
  have hfirst := Rule.first?_of_lexeme h
  conv_lhs => rw [pull, pullBy]
  split
  · simp_all [h.ne_nil]
  · split <;> simp_all [advance, pull]

lemma pull_skip {s : Scanner} {gap rest : List Char} (blank : ∀ c ∈ gap, c ∈ blanks)
    (stop : Stops (· ∈ blanks) rest) (split : s.rest = gap ++ rest) :
    s.pull = pull { s with cursor := s.cursor + byteLength gap, rest := rest } := by
  by_cases ne : gap = []
  · subst ne
    rw [← List.nil_append rest, ← split]
    rfl
  · exact pull_of_blanks (.blanks ne blank stop) split

/-- The first `n` tokens and the scanner behind them, if there are as many. -/
def pulls : Nat → Scanner → Option (List Token × Scanner)
  | 0, s => some ([], s)
  | n + 1, s =>
    match s.pull with
    | (.token t, s') => (pulls n s').map fun (ts, s'') => (t :: ts, s'')
    | _ => none

lemma exists_pull_of_pulls_succ {n : Nat} {s s' : Scanner} {ts : List Token}
    (h : s.pulls (n + 1) = some (ts, s')) :
    ∃ t us s₁, ts = t :: us ∧ s.pull = (.token t, s₁) ∧ s₁.pulls n = some (us, s') := by
  unfold pulls at h
  split at h
  · next t s₁ hpull =>
    obtain ⟨⟨us, s₂⟩, hus, heq⟩ := Option.map_eq_some_iff.mp h
    cases heq
    exact ⟨t, us, s₁, rfl, hpull, hus⟩
  · cases h

end Scanner

namespace Token.Stream

/-- All that a scanner will yield. -/
abbrev scan (s : Scanner) : Stream := scanBy Rule.table s

lemma scan_of_token {s s' : Scanner} {t : Token} (h : s.pull = (.token t, s')) :
    scan s = .token t (scan s') := by
  unfold scan
  rw [scanBy]
  split <;> simp_all [Scanner.pull]

lemma scan_of_finished {s s' : Scanner} (h : s.pull = (.finished, s')) :
    scan s = .finished s'.cursor := by
  unfold scan
  rw [scanBy]
  split <;> simp_all [Scanner.pull]

lemma scan_of_stray {s s' : Scanner} {e : Stray} (h : s.pull = (.stray e, s')) :
    scan s = .stray e := by
  unfold scan
  rw [scanBy]
  split <;> simp_all [Scanner.pull]

lemma scan_congr {s s' : Scanner} (h : s.pull = s'.pull) : scan s = scan s' := by
  rcases hp : s.pull with ⟨t | _ | e, s''⟩
  · rw [scan_of_token hp, scan_of_token (h.symm.trans hp)]
  · rw [scan_of_finished hp, scan_of_finished (h.symm.trans hp)]
  · rw [scan_of_stray hp, scan_of_stray (h.symm.trans hp)]

/-- A stream with some tokens in front of it. -/
def prepend (ts : List Token) (rest : Stream) : Stream := ts.foldr token rest

@[simp] lemma prepend_nil (rest : Stream) : prepend [] rest = rest := rfl

@[simp] lemma prepend_cons (t : Token) (ts : List Token) (rest : Stream) :
    prepend (t :: ts) rest = token t (prepend ts rest) := rfl

@[simp] lemma tokens_prepend (ts : List Token) (rest : Stream) :
    (prepend ts rest).tokens = ts ++ rest.tokens := by
  induction ts with
  | nil => rfl
  | cons t ts ih => simp [tokens, ih]

lemma mem_tokens_of_prepend {stream rest : Stream} {ts : List Token} {t : Token}
    (h : stream = prepend ts rest) (ht : t ∈ ts) : t ∈ stream.tokens := by
  rw [h, tokens_prepend]
  exact List.mem_append_left _ ht

lemma toList_prepend (ts : List Token) (rest : Stream) :
    (prepend ts rest).toList = rest.toList.map (ts ++ ·) := by
  induction ts with
  | nil => cases h : rest.toList <;> simp [Except.map, h]
  | cons t ts ih =>
    rw [prepend_cons, toList, ih]
    cases rest.toList <;> rfl

/-- A stream with its tokens and its positions changed. -/
def map (f : Token → Token) (g : Nat → Nat) : Stream → Stream
  | finished p => finished (g p)
  | stray e => stray { e with position := g e.position }
  | token t rest => token (f t) (map f g rest)

@[simp] lemma tokens_map (f : Token → Token) (g : Nat → Nat) (stream : Stream) :
    (stream.map f g).tokens = stream.tokens.map f := by
  induction stream with
  | finished p => rfl
  | stray e => rfl
  | token t rest ih => simp [map, tokens, ih]

lemma map_prepend (f : Token → Token) (g : Nat → Nat) (ts : List Token) (rest : Stream) :
    (prepend ts rest).map f g = prepend (ts.map f) (rest.map f g) := by
  induction ts with
  | nil => rfl
  | cons t ts ih => simp [map, ih]

lemma toList_map (f : Token → Token) (g : Nat → Nat) (stream : Stream) :
    (stream.map f g).toList =
      (stream.toList.map (List.map f)).mapError fun e => { e with position := g e.position } := by
  induction stream with
  | finished p => rfl
  | stray e => rfl
  | token t rest ih =>
    rw [map, toList, ih, toList]
    cases rest.toList <;> rfl

lemma toList_eq_ok_iff {stream : Stream} {ts : List Token} :
    stream.toList = .ok ts ↔ ∃ position, stream = prepend ts (finished position) := by
  constructor
  · intro h
    induction stream generalizing ts with
    | finished position => exact ⟨position, by rw [← Except.ok.inj h]; rfl⟩
    | stray e => cases h
    | token t rest ih =>
      unfold toList at h
      cases hrest : rest.toList with
      | error e => simp [hrest, Except.map] at h
      | ok us =>
        obtain ⟨position, rfl⟩ := ih hrest
        rw [hrest] at h
        obtain rfl := Except.ok.inj h
        exact ⟨position, rfl⟩
  · rintro ⟨position, rfl⟩
    simp [toList_prepend, toList, Except.map]

lemma scan_of_pulls {n : Nat} {s s' : Scanner} {ts : List Token}
    (h : s.pulls n = some (ts, s')) : ts.length = n ∧ scan s = prepend ts (scan s') := by
  induction n generalizing s ts with
  | zero =>
    cases h
    exact ⟨rfl, rfl⟩
  | succ n ih =>
    obtain ⟨t, us, s₁, rfl, hpull, hus⟩ := Scanner.exists_pull_of_pulls_succ h
    obtain ⟨rfl, hscan⟩ := ih hus
    exact ⟨rfl, by rw [scan_of_token hpull, hscan, prepend_cons]⟩

lemma exists_pull_of_scan_eq_token {s : Scanner} {t : Token} {rest : Stream}
    (h : scan s = .token t rest) : ∃ s', s.pull = (.token t, s') ∧ scan s' = rest := by
  rcases hp : s.pull with ⟨t' | _ | e, s'⟩
  · rw [scan_of_token hp] at h
    cases h
    exact ⟨s', rfl, rfl⟩
  · rw [scan_of_finished hp] at h
    cases h
  · rw [scan_of_stray hp] at h
    cases h

lemma pull_of_scan_eq_stray {s : Scanner} {e : Stray} (h : scan s = .stray e) :
    s.pull.1 = .stray e := by
  rcases hp : s.pull with ⟨t | _ | e', s'⟩
  · rw [scan_of_token hp] at h
    cases h
  · rw [scan_of_finished hp] at h
    cases h
  · rw [scan_of_stray hp] at h
    cases h
    rfl

lemma scan_eq_stray_iff {s : Scanner} {e : Stray} : scan s = .stray e ↔ s.pull.1 = .stray e := by
  refine ⟨pull_of_scan_eq_stray, fun h => ?_⟩
  have hpull : s.pull = (.stray e, s.pull.2) := Prod.ext h rfl
  exact scan_of_stray hpull

lemma exists_pulls {s : Scanner} {ts : List Token} {rest : Stream}
    (h : scan s = prepend ts rest) :
    ∃ s', s.pulls ts.length = some (ts, s') ∧ scan s' = rest := by
  induction ts generalizing s with
  | nil => exact ⟨s, rfl, h⟩
  | cons t ts ih =>
    obtain ⟨s₁, hpull, hscan⟩ := exists_pull_of_scan_eq_token h
    obtain ⟨s', hpulls, hrest⟩ := ih hscan
    exact ⟨s', by simp [Scanner.pulls, hpull, hpulls], hrest⟩

end Token.Stream

end DocFilter
