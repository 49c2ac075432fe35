import DocFilter.Proofs.Token.Cursor
import DocFilter.Proofs.Token.Offset

/-!
How tokens lie in the text they are scanned from: each has its text at its offset, and before,
between and behind them are blanks.
-/

namespace DocFilter

open Text Token

namespace Token

/-- From a byte on, a text is the texts of the tokens, each at its offset and behind the one before,
with nothing but blanks around them. -/
inductive Laid : Nat → List Token → List Char → Prop
  | nil {start : Nat} {gap : List Char} (blank : ∀ c ∈ gap, c ∈ blanks) : Laid start [] gap
  | cons {start : Nat} {gap w cs : List Char} {t : Token} {ts : List Token}
      (blank : ∀ c ∈ gap, c ∈ blanks) (offset : t.offset = start + byteLength gap)
      (text : t.text.toList = w) (ne : w ≠ []) (tail : Laid (t.offset + byteLength w) ts cs) :
      Laid start (t :: ts) (gap ++ (w ++ cs))

namespace Laid

variable {start : Nat} {ts : List Token} {cs gap : List Char} {t : Token}

lemma append_blanks (h : Laid start ts cs) (blank : ∀ c ∈ gap, c ∈ blanks) :
    Laid start ts (cs ++ gap) := by
  induction h with
  | nil all => exact .nil (List.forall_mem_append.mpr ⟨all, blank⟩)
  | cons all offset text ne _ ih =>
    rw [List.append_assoc, List.append_assoc]
    exact .cons all offset text ne ih

lemma offset_lt (h : Laid start ts cs) (ht : t ∈ ts) : t.offset < start + byteLength cs := by
  induction h with
  | nil => cases ht
  | cons _ offset _ ne _ ih =>
    have hpos := byteLength_pos ne
    rw [byteLength_append, byteLength_append]
    rcases List.mem_cons.mp ht with rfl | ht
    · omega
    · have := ih ht
      omega

lemma exists_last (h : Laid start (ts ++ [t]) cs) :
    ∃ front gap, cs = front ++ (t.text.toList ++ gap) ∧ t.offset = start + byteLength front ∧
      ∀ c ∈ gap, c ∈ blanks := by
  induction ts generalizing start cs with
  | nil =>
    cases h with
    | cons _ offset text _ tail =>
      cases tail with
      | nil blank => exact ⟨_, _, by rw [text], offset, blank⟩
  | cons u ts ih =>
    cases h with
    | @cons _ gap w _ _ _ _ offset _ _ tail =>
      obtain ⟨front, last, rfl, hoff, blank⟩ := ih tail
      refine ⟨gap ++ (w ++ front), last, by simp, ?_, blank⟩
      rw [hoff, offset, byteLength_append, byteLength_append]
      omega

end Laid

end Token

/-! ### What has been pulled -/

namespace Scanner

/-- Pulled tokens lie in the text between the scanner and the one behind them. -/
lemma exists_laid_of_pulls {n : Nat} {s s' : Scanner} {ts : List Token}
    (h : s.pulls n = some (ts, s')) :
    ∃ front, s.rest = front ++ s'.rest ∧ s'.cursor = s.cursor + byteLength front ∧
      Laid s.cursor ts front := by
  induction n generalizing s ts with
  | zero =>
    cases h
    exact ⟨[], rfl, rfl, .nil (List.forall_mem_nil _)⟩
  | succ n ih =>
    obtain ⟨t, us, s₁, rfl, hpull, hpulls⟩ := exists_pull_of_pulls_succ h
    obtain ⟨front, hsplit, hcursor, hlaid⟩ := ih hpulls
    have hpulled := pulled s
    rw [hpull] at hpulled
    cases hpulled with
    | @token gap w rest k blank split lexeme =>
      change rest = front ++ s'.rest at hsplit
      refine ⟨gap ++ (w ++ front), ?_, ?_, ?_⟩
      · rw [split, hsplit, List.append_assoc, List.append_assoc]
      · rw [hcursor, Nat.add_assoc, ← byteLength_append, List.append_assoc]
      · rw [byteLength_append, ← Nat.add_assoc] at hlaid
        exact .cons blank rfl String.toList_ofList lexeme.ne_nil hlaid

end Scanner

/-! ### The place behind some tokens -/

namespace Token

/-- The byte at which a stream goes on. -/
def Stream.position : Stream → Nat
  | finished p => p
  | stray e => e.position
  | token t _ => t.offset

/-- What a text looks like where a stream goes on. -/
def Stream.At (back : List Char) : Stream → Prop
  | finished _ => back = []
  | stray e => ∃ cs, back = e.character :: cs ∧ NoLexeme back
  | token t _ => ∃ cs, back = t.text.toList ++ cs ∧ Lexeme (some t.kind) t.text.toList cs

section

variable {text : String} {ts : List Token} {rest : Stream}

lemma exists_place (h : Stream.ofText text = .prepend ts rest) :
    ∃ front back, text.toList = front ++ back ∧ byteLength front = rest.position ∧
      Laid 0 ts front ∧ rest.At back := by
  obtain ⟨s, hpulls, hrest⟩ := Stream.exists_pulls h
  obtain ⟨front, hsplit, hcursor, hlaid⟩ := Scanner.exists_laid_of_pulls hpulls
  change text.toList = front ++ s.rest at hsplit
  change s.cursor = 0 + byteLength front at hcursor
  rw [Nat.zero_add] at hcursor
  -- the blanks that the next pull skips belong to the front
  have hpulled := Scanner.pulled s
  rcases hp : s.pull with ⟨p, s'⟩
  rw [hp] at hpulled
  cases hpulled with
  | @token gap w cs k blank split lexeme =>
    rw [Stream.scan_of_token hp] at hrest
    subst hrest
    refine ⟨front ++ gap, w ++ cs, by rw [hsplit, split, List.append_assoc], ?_,
      hlaid.append_blanks blank, cs, by simp, by simpa using lexeme⟩
    rw [byteLength_append, Stream.position, hcursor]
  | finished blank =>
    rw [Stream.scan_of_finished hp] at hrest
    subst hrest
    refine ⟨front ++ s.rest, [], by rw [hsplit, List.append_nil], ?_,
      hlaid.append_blanks blank, rfl⟩
    rw [byteLength_append, Stream.position, hcursor]
  | @stray gap cs c blank split none =>
    rw [Stream.scan_of_stray hp] at hrest
    subst hrest
    refine ⟨front ++ gap, c :: cs, by rw [hsplit, split, List.append_assoc], ?_,
      hlaid.append_blanks blank, cs, rfl, none⟩
    rw [byteLength_append, Stream.position, hcursor]

lemma filter_offset_lt (h : Stream.ofText text = .prepend ts rest) :
    (Stream.ofText text).tokens.filter (·.offset < rest.position) = ts := by
  obtain ⟨front, back, -, hlen, hlaid, hat⟩ := exists_place h
  have hbefore : ∀ t ∈ ts, t.offset < rest.position := fun t ht => by
    have := hlaid.offset_lt ht
    omega
  have hbehind : ∀ t ∈ rest.tokens, ¬ t.offset < rest.position := by
    have hpair := pairwise_offset_ofText text
    rw [h, Stream.tokens_prepend, List.pairwise_append] at hpair
    cases rest with
    | finished p => exact List.forall_mem_nil _
    | stray e => exact List.forall_mem_nil _
    | token t rest =>
      refine List.forall_mem_cons.mpr ⟨Nat.lt_irrefl _, fun u hu => ?_⟩
      exact Nat.lt_asymm ((List.pairwise_cons.mp hpair.2.1).1 u hu)
  rw [h, Stream.tokens_prepend, List.filter_append,
    List.filter_eq_self.mpr fun t ht => decide_eq_true (hbefore t ht),
    List.filter_eq_nil_iff.mpr fun t ht => by simpa using hbehind t ht, List.append_nil]

end

end Token

end DocFilter
