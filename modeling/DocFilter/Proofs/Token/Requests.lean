import DocFilter.Proofs.Token.Cursor

/-!
A scanner under any requests. Tokens may be asked for by `Scanner.pull` and `Scanner.next` in any
mixture: the scanner gives the tokens of the tiling one after the other, and then stays at the end
of the text or at a stray character, until `Scanner.next` gives the rest of the text up.
-/

namespace DocFilter

open Text Token
open Token (Stream)

namespace Scanner

/-- The two ways to ask for a token. -/
inductive Request
  | pull
  | next
  deriving DecidableEq, Repr

def ask (s : Scanner) : Request → Pull × Scanner
  | .pull => s.pull
  | .next => s.next

/-- The scanner behind some requests. -/
def after (s : Scanner) (rs : List Request) : Scanner := rs.foldl (fun s r => (s.ask r).2) s

/-- The scanner with the rest of the text given up. -/
def giveUp (s : Scanner) : Scanner := { s with cursor := s.text.utf8ByteSize, rest := [] }

/-- What is given for some requests, one after the other. -/
def answers (s : Scanner) : List Request → List Pull
  | [] => []
  | r :: rs => (s.ask r).1 :: answers (s.ask r).2 rs

def Pull.token? : Pull → Option Token
  | .token t => some t
  | _ => none

@[simp] lemma after_cons (s : Scanner) (r : Request) (rs : List Request) :
    s.after (r :: rs) = (s.ask r).2.after rs := rfl

lemma after_append (s : Scanner) (rs us : List Request) :
    s.after (rs ++ us) = (s.after rs).after us := List.foldl_append

/-! ### The cursor -/

section

variable {s : Scanner} {text : String}

lemma Within.giveUp (h : s.Within text) : s.giveUp.Within text := by
  refine ⟨h.text_eq, text.toList, (List.append_nil _).symm, ?_⟩
  rw [Scanner.giveUp, h.text_eq, utf8ByteSize_eq]

/-- A request is a pull, unless a stray character makes `Scanner.next` give up. -/
lemma ask_eq (s : Scanner) (r : Request) :
    s.ask r = s.pull ∨ ∃ e s', s.pull = (.stray e, s') ∧ s.ask r = (.stray e, s'.giveUp) := by
  cases r with
  | pull => exact .inl rfl
  | next =>
    rcases hpull : s.pull with ⟨t | _ | e, s'⟩
    · exact .inl (by rw [ask, next, hpull])
    · exact .inl (by rw [ask, next, hpull])
    · exact .inr ⟨e, s', rfl, by rw [ask, next, hpull, giveUp]⟩

lemma ask_within (h : s.Within text) (r : Request) : (s.ask r).2.Within text := by
  have hpull := (pulled s).within h
  rcases ask_eq s r with heq | ⟨e, s', hs', heq⟩
  · rwa [heq]
  · rw [hs'] at hpull
    rw [heq]
    exact hpull.giveUp

lemma cursor_le_ask (h : s.Within text) (r : Request) : s.cursor ≤ (s.ask r).2.cursor := by
  rcases ask_eq s r with heq | ⟨e, s', hs', heq⟩
  · rw [heq]
    exact (pulled s).cursor_le
  · have hwithin := (pulled s).within h
    rw [hs'] at hwithin
    rw [heq, giveUp, hwithin.text_eq]
    exact h.cursor_le

lemma after_within (h : s.Within text) (rs : List Request) : (s.after rs).Within text := by
  induction rs generalizing s with
  | nil => exact h
  | cons r rs ih => exact ih (ask_within h r)

end

/-! ### One request -/

section

variable {s : Scanner}

lemma pull_of_scan_finished {p : Nat} (h : Stream.scan s = .finished p) :
    ∃ s', s.pull = (.finished, s') ∧ s'.rest = [] := by
  have hpulled := pulled s
  rcases hp : s.pull with ⟨t | _ | e, s'⟩
  · rw [Stream.scan_of_token hp] at h
    cases h
  · rw [hp] at hpulled
    cases hpulled with
    | finished => exact ⟨_, rfl, rfl⟩
  · rw [Stream.scan_of_stray hp] at h
    cases h

lemma pull_of_scan_stray {e : Stray} (h : Stream.scan s = .stray e) :
    ∃ s', s.pull = (.stray e, s') ∧ s'.cursor = e.position ∧ Stream.scan s' = .stray e := by
  have hpulled := pulled s
  rcases hp : s.pull with ⟨t | _ | e', s'⟩
  · rw [Stream.scan_of_token hp] at h
    cases h
  · rw [Stream.scan_of_finished hp] at h
    cases h
  · rw [Stream.scan_of_stray hp] at h
    cases h
    rw [hp] at hpulled
    cases hpulled with
    | stray blank split none => exact ⟨_, rfl, rfl, scan_of_noLexeme none _ _⟩

lemma ask_of_token {t : Token} {rest : Stream} (h : Stream.scan s = .token t rest) (r : Request) :
    (s.ask r).1 = .token t ∧ Stream.scan (s.ask r).2 = rest := by
  obtain ⟨s', hpull, hrest⟩ := Stream.exists_pull_of_scan_eq_token h
  rcases ask_eq s r with heq | ⟨e, s', hs', -⟩
  · rw [heq, hpull]
    exact ⟨rfl, hrest⟩
  · rw [hpull] at hs'
    cases hs'

lemma ask_of_finished {p : Nat} (h : Stream.scan s = .finished p) (r : Request) :
    (s.ask r).1 = .finished ∧ (s.ask r).2.rest = [] := by
  obtain ⟨s', hpull, hrest⟩ := pull_of_scan_finished h
  rcases ask_eq s r with heq | ⟨e, s', hs', -⟩
  · rw [heq, hpull]
    exact ⟨rfl, hrest⟩
  · rw [hpull] at hs'
    cases hs'

lemma ask_of_rest_eq_nil (h : s.rest = []) (r : Request) : s.ask r = (.finished, s) := by
  have hpull := pull_of_nil h
  rcases ask_eq s r with heq | ⟨e, s', hs', -⟩
  · rw [heq, hpull]
  · rw [hpull] at hs'
    cases hs'

lemma pull_of_stray_ahead {e : Stray} (h : Stream.scan s = .stray e) :
    (s.ask .pull).1 = .stray e ∧ (s.ask .pull).2.cursor = e.position ∧
      Stream.scan (s.ask .pull).2 = .stray e := by
  obtain ⟨s', hpull, hcursor, hscan⟩ := pull_of_scan_stray h
  rw [ask, hpull]
  exact ⟨rfl, hcursor, hscan⟩

lemma next_of_stray_ahead {e : Stray} (h : Stream.scan s = .stray e) :
    (s.ask .next).1 = .stray e ∧ (s.ask .next).2.rest = [] := by
  obtain ⟨s', hpull, -, -⟩ := pull_of_scan_stray h
  rw [ask, next, hpull]
  exact ⟨rfl, rfl⟩

end

/-! ### All requests -/

section

variable {s : Scanner}

lemma scan_of_rest_eq_nil (h : s.rest = []) : Stream.scan s = .finished s.cursor :=
  Stream.scan_of_finished (pull_of_nil h)

lemma filterMap_answers (s : Scanner) (rs : List Request) :
    (s.answers rs).filterMap Pull.token? = (Stream.scan s).tokens.take rs.length := by
  induction rs generalizing s with
  | nil => rfl
  | cons r rs ih =>
    rw [answers, List.length_cons]
    cases hscan : Stream.scan s with
    | token t rest =>
      obtain ⟨hanswer, hrest⟩ := ask_of_token hscan r
      rw [hanswer, List.filterMap_cons, ih, hrest]
      rfl
    | finished p =>
      obtain ⟨hanswer, hrest⟩ := ask_of_finished hscan r
      rw [hanswer, List.filterMap_cons, ih, scan_of_rest_eq_nil hrest]
      exact List.take_nil
    | stray e =>
      -- whether the request stays at the character or gives up, no token comes
      have hnone : (Stream.scan (s.ask r).2).tokens = [] ∧ (s.ask r).1 = .stray e := by
        cases r with
        | pull =>
          obtain ⟨hanswer, -, hrest⟩ := pull_of_stray_ahead hscan
          exact ⟨by rw [hrest]; rfl, hanswer⟩
        | next =>
          obtain ⟨hanswer, hrest⟩ := next_of_stray_ahead hscan
          exact ⟨by rw [scan_of_rest_eq_nil hrest]; rfl, hanswer⟩
      rw [hnone.2, List.filterMap_cons, ih, hnone.1]
      exact List.take_nil

lemma scan_after_of_length {ts : List Token} {rest : Stream} {rs : List Request}
    (h : Stream.scan s = .prepend ts rest) (hlen : rs.length = ts.length) :
    Stream.scan (s.after rs) = rest := by
  induction ts generalizing s rs with
  | nil =>
    obtain rfl := List.length_eq_zero_iff.mp hlen
    exact h
  | cons t ts ih =>
    obtain ⟨r, rs, rfl⟩ := List.exists_cons_of_length_eq_add_one hlen
    rw [after_cons]
    exact ih (ask_of_token h r).2 (Nat.succ.inj hlen)

lemma after_of_rest_eq_nil (h : s.rest = []) (rs : List Request) : s.after rs = s := by
  induction rs with
  | nil => rfl
  | cons r rs ih => rw [after_cons, ask_of_rest_eq_nil h, ih]

lemma scan_after_of_finished {p : Nat} (h : Stream.scan s = .finished p) (rs : List Request) :
    ∃ p', Stream.scan (s.after rs) = .finished p' := by
  cases rs with
  | nil => exact ⟨p, h⟩
  | cons r rs =>
    have hrest := (ask_of_finished h r).2
    rw [after_cons, after_of_rest_eq_nil hrest]
    exact ⟨_, scan_of_rest_eq_nil hrest⟩

lemma scan_after_of_stray {e : Stray} {rs : List Request} (h : Stream.scan s = .stray e)
    (hrs : .next ∉ rs) : Stream.scan (s.after rs) = .stray e := by
  induction rs generalizing s with
  | nil => exact h
  | cons r rs ih =>
    rw [List.mem_cons, not_or] at hrs
    cases r with
    | pull => exact ih (pull_of_stray_ahead h).2.2 hrs.2
    | next => exact absurd rfl hrs.1

lemma rest_after_of_stray {e : Stray} {rs : List Request} (h : Stream.scan s = .stray e)
    (hrs : .next ∈ rs) : (s.after rs).rest = [] := by
  induction rs generalizing s with
  | nil => cases hrs
  | cons r rs ih =>
    cases r with
    | pull =>
      rcases List.mem_cons.mp hrs with hpull | hrs
      · cases hpull
      · exact ih (pull_of_stray_ahead h).2.2 hrs
    | next =>
      have hrest := (next_of_stray_ahead h).2
      rw [after_cons, after_of_rest_eq_nil hrest, hrest]

end

/-! ### The end of the tokens -/

/-- Every request finds the end of the text. -/
def Ended (s : Scanner) (text : String) : Prop :=
  ∀ r, (s.ask r).1 = .finished ∧ (s.ask r).2.cursor = text.utf8ByteSize

/-- Every request finds the stray character. A pull stays at it. -/
structure Stuck (s : Scanner) (text : String) (e : Stray) : Prop where
  pull : (s.ask .pull).1 = .stray e ∧ (s.ask .pull).2.cursor = e.position
  next : (s.ask .next).1 = .stray e ∧ (s.ask .next).2.cursor = text.utf8ByteSize

section

variable {s : Scanner} {text : String}

lemma Within.cursor_eq (h : s.Within text) (hrest : s.rest = []) :
    s.cursor = text.utf8ByteSize := by
  have hadd := h.cursor_add
  rwa [hrest, byteLength_nil, Nat.add_zero] at hadd

lemma ended_of_finished {p : Nat} (h : s.Within text) (hscan : Stream.scan s = .finished p) :
    s.Ended text := by
  intro r
  obtain ⟨hanswer, hrest⟩ := ask_of_finished hscan r
  exact ⟨hanswer, (ask_within h r).cursor_eq hrest⟩

lemma stuck_of_stray {e : Stray} (h : s.Within text) (hscan : Stream.scan s = .stray e) :
    s.Stuck text e := by
  obtain ⟨hpull, hcursor, -⟩ := pull_of_stray_ahead hscan
  obtain ⟨hnext, hrest⟩ := next_of_stray_ahead hscan
  exact ⟨⟨hpull, hcursor⟩, hnext, (ask_within h .next).cursor_eq hrest⟩

lemma after_halt {p : Nat} {rest : List Char} {rs : List Request}
    (hscan : Stream.scan s = halt p rest) (h : (s.after rs).Within text) :
    (rest = [] → (s.after rs).Ended text) ∧
      ∀ c ∈ rest.head?, (.next ∉ rs → (s.after rs).Stuck text ⟨c, p⟩) ∧
        (.next ∈ rs → (s.after rs).Ended text) := by
  refine ⟨?_, fun c hc => ?_⟩
  · rintro rfl
    obtain ⟨p', hp'⟩ := scan_after_of_finished hscan rs
    exact ended_of_finished h hp'
  · obtain ⟨cs, rfl⟩ := List.head?_eq_some_iff.mp hc
    refine ⟨fun hnext => stuck_of_stray h (scan_after_of_stray hscan hnext), fun hnext => ?_⟩
    exact ended_of_finished h (scan_of_rest_eq_nil (rest_after_of_stray hscan hnext))

end

/-- **Any requests give the tokens of the text in order.** The cursor never moves back and stays at
boundaries of characters within the text. Of the tokens of the tiling the first ones are given, one
for each request. Behind the last one every request finds the end of the text, or the stray
character at which the tiling stops; once `Scanner.next` has reported that one, the end. -/
theorem answers_follow_tiling (text : String) (rs : List Request) :
    let s := (ofText text).after rs
    (∀ r, s.cursor ≤ (s.ask r).2.cursor) ∧ s.cursor ≤ text.utf8ByteSize ∧
    String.Pos.Raw.IsValid text ⟨s.cursor⟩ ∧
    ∃ tiles rest, Tiling text.toList tiles rest ∧ NoLexeme rest ∧
      ((ofText text).answers rs).filterMap Pull.token? = (Tile.tokens 0 tiles).take rs.length ∧
      ((Tile.tokens 0 tiles).length ≤ rs.length →
        (rest = [] → s.Ended text) ∧
        ∀ c ∈ rest.head?,
          (.next ∉ rs.drop (Tile.tokens 0 tiles).length →
            s.Stuck text ⟨c, byteLength (Tile.cover tiles)⟩) ∧
          (.next ∈ rs.drop (Tile.tokens 0 tiles).length → s.Ended text)) := by
  intro s
  have hwithin : s.Within text := after_within (within_ofText text) rs
  obtain ⟨tiles, rest, htiles, hno⟩ := Tiling.exists_maximal text.toList
  have hstream : Stream.scan (ofText text) = .prepend (Tile.tokens 0 tiles) _ :=
    ofText_eq htiles hno
  refine ⟨cursor_le_ask hwithin, hwithin.cursor_le, hwithin.isValid, tiles, rest, htiles, hno, ?_,
    fun hlen => ?_⟩
  · rw [filterMap_answers, hstream, Stream.tokens_prepend, tokens_halt, List.append_nil]
  · -- the requests are cut where the tokens end
    have hcut : s = ((ofText text).after (rs.take (Tile.tokens 0 tiles).length)).after
        (rs.drop (Tile.tokens 0 tiles).length) := by
      rw [← after_append, List.take_append_drop]
    have hscan := scan_after_of_length hstream (by rw [List.length_take, min_eq_left hlen])
    rw [hcut] at hwithin ⊢
    exact after_halt hscan hwithin

/-- A string with a letter of two bytes, and a stray character behind a blank. -/
theorem answers_follow_tiling_stray :
    ((ofText "'é' $").answers [.next, .pull, .next]).filterMap Pull.token? =
      [⟨.string, "'é'", 0⟩] ∧
    ((ofText "'é' $").after [.next, .pull]).Stuck "'é' $" ⟨'$', 5⟩ ∧
    ((ofText "'é' $").after [.next, .pull, .next]).Ended "'é' $" := by
  have hblank : Lexeme none [' '] ['$'] :=
    .blanks (List.cons_ne_nil _ _) (List.forall_mem_singleton.mpr (by decide))
      (stops_cons.mpr (by decide))
  have htiles : Tiling "'é' $".toList [⟨some .string, ['\'', 'é', '\'']⟩, ⟨none, [' ']⟩] ['$'] :=
    .cons (.string (.inr rfl) (by decide : '\'' ∉ ['é'])) (.cons hblank .nil)
  have hno : NoLexeme ['$'] := noLexeme_iff.mpr rfl
  obtain ⟨-, -, -, _, _, htiles₂, hno₂, -, hend₂⟩ :=
    answers_follow_tiling "'é' $" [.next, .pull]
  obtain ⟨-, -, -, _, _, htiles₃, hno₃, htokens, hend₃⟩ :=
    answers_follow_tiling "'é' $" [.next, .pull, .next]
  obtain ⟨rfl, rfl⟩ := htiles₂.unique htiles hno₂ hno
  obtain ⟨rfl, rfl⟩ := htiles₃.unique htiles hno₃ hno
  exact ⟨htokens, ((hend₂ (by decide)).2 '$' rfl).1 (by decide),
    ((hend₃ (by decide)).2 '$' rfl).2 (by decide)⟩

end Scanner

end DocFilter
