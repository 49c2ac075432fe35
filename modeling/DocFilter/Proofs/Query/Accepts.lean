import DocFilter.Proofs.Query.Progress
import DocFilter.Proofs.Query.Run

/-!
Reading accepts exactly the grammar.
-/

namespace DocFilter.Query

open Token (Stream tokenize)
open Query.Parser

/-- A query is read as a tree when some tokens at its front derive the tree and what comes then may
follow. -/
lemma parse_eq_ok_iff {strict : Bool} {text : String} {n : Node} :
    parse strict text = .ok n ↔
      ∃ ts rest, Stream.ofText text = .prepend ts rest ∧ Derives ts n ∧ MayFollow strict rest := by
  rw [parse_eq_result, ofStream_eq_ok_iff, run_eq_ok_iff]
  constructor
  · rintro ⟨ts, rest, hstream, htake, hrest⟩
    have hlexical := Token.lexical_of_prepend hstream
    exact ⟨ts, rest, hstream, (takeAll?_start_iff hlexical).mp htake, hrest⟩
  · rintro ⟨ts, rest, hstream, hderives, hrest⟩
    have hlexical := Token.lexical_of_prepend hstream
    exact ⟨ts, rest, hstream, (takeAll?_start_iff hlexical).mpr hderives, hrest⟩

/-- No expression goes on after another one. -/
lemma Derives.eq_nil_of_append {ts us : List Token} {n m : Node} (h : Derives ts n)
    (h' : Derives (ts ++ us) m) : us = [] ∧ m = n := by
  have htake := takeAll?_of_derives h' []
  rw [takeAll?_append, takeAll?_of_derives h, Option.bind_some] at htake
  obtain ⟨hnil, hstate⟩ := eq_nil_of_takeAll?_complete htake
  exact ⟨hnil, by cases hstate; rfl⟩

lemma Derives.unique {ts us ts' us' : List Token} {n m : Node} (h : Derives ts n)
    (h' : Derives us m) (heq : ts ++ ts' = us ++ us') : ts = us ∧ n = m := by
  rcases List.append_eq_append_iff.mp heq with ⟨vs, rfl, -⟩ | ⟨vs, rfl, -⟩
  · obtain ⟨rfl, rfl⟩ := h.eq_nil_of_append h'
    exact ⟨by simp, rfl⟩
  · obtain ⟨rfl, rfl⟩ := h'.eq_nil_of_append h
    exact ⟨by simp, rfl⟩

/-- The first `k` tokens of a text derive a tree, and then comes a token or the end. -/
def Begins (text : String) (k : Nat) (n : Node) : Prop :=
  ∃ ts s, (Scanner.ofText text).pulls k = some (ts, s) ∧ Derives ts n ∧ ∀ e, s.pull.1 ≠ .stray e

lemma mayFollow_scan_iff {s : Scanner} :
    MayFollow false (.scan s) ↔ ∀ e, s.pull.1 ≠ .stray e := by
  rcases hp : s.pull with ⟨t | _ | e, s'⟩
  · simp [Stream.scan_of_token hp, MayFollow]
  · simp [Stream.scan_of_finished hp, MayFollow]
  · simp [Stream.scan_of_stray hp, MayFollow]

/-- **Reading accepts exactly the grammar.** In strict mode all tokens of the text derive the tree;
otherwise the first ones do, and the pull behind them meets no stray character. At most one number
of tokens and one tree are so. -/
theorem parse_eq_ok_iff_derives (text : String) :
    (∀ n, parse true text = .ok n ↔ ∃ ts, tokenize text = .ok ts ∧ Derives ts n) ∧
    (∀ n, parse false text = .ok n ↔ ∃ k, Begins text k n) ∧
    (∀ k k' n n', Begins text k n → Begins text k' n' → k = k' ∧ n = n') := by
  refine ⟨fun n => ?_, fun n => ?_, ?_⟩
  · rw [parse_eq_ok_iff]
    constructor
    · rintro ⟨ts, rest, hstream, hderives, hrest⟩
      rcases rest with p | e | ⟨t, rest⟩
      · exact ⟨ts, Stream.toList_eq_ok_iff.mpr ⟨p, hstream⟩, hderives⟩
      · cases hrest
      · cases hrest
    · rintro ⟨ts, htok, hderives⟩
      obtain ⟨p, hstream⟩ := Stream.toList_eq_ok_iff.mp htok
      exact ⟨ts, _, hstream, hderives, trivial⟩
  · rw [parse_eq_ok_iff]
    constructor
    · rintro ⟨ts, rest, hstream, hderives, hrest⟩
      obtain ⟨s, hpulls, rfl⟩ := Stream.exists_pulls hstream
      exact ⟨ts.length, ts, s, hpulls, hderives, mayFollow_scan_iff.mp hrest⟩
    · rintro ⟨k, ts, s, hpulls, hderives, hpull⟩
      exact ⟨ts, .scan s, (Stream.scan_of_pulls hpulls).2, hderives, mayFollow_scan_iff.mpr hpull⟩
  · rintro k k' n n' ⟨ts, s, hpulls, hderives, -⟩ ⟨ts', s', hpulls', hderives', -⟩
    obtain ⟨rfl, hscan⟩ := Stream.scan_of_pulls hpulls
    obtain ⟨rfl, hscan'⟩ := Stream.scan_of_pulls hpulls'
    have htokens : ts ++ (Stream.scan s).tokens = ts' ++ (Stream.scan s').tokens := by
      rw [← Stream.tokens_prepend, ← Stream.tokens_prepend, ← hscan, hscan']
    obtain ⟨rfl, rfl⟩ := hderives.unique hderives' htokens
    exact ⟨rfl, rfl⟩

end DocFilter.Query
