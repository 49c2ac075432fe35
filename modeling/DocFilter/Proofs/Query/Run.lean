import DocFilter.Proofs.Query.Step
import DocFilter.Proofs.Token.Pull

/-!
Runs of the machine that reads queries: a run takes some tokens and then ends, with a tree or with
an error.
-/

namespace DocFilter.Query.Parser

open Token (Stream)

/-- The result of a run that does not take the next token, if it is one of those. -/
def ending? (strict : Bool) : State → Stream → Option (Except Failure Node)
  | _, .stray e => some (.error (.query (.unexpectedCharacter e)))
  | .complete n, .finished _ => some (.ok n)
  | .complete n, .token t _ => some (if strict then .error (.query (.trailingInput t)) else .ok n)
  | .reading mode _, .finished p => some (.error (.query (.unexpectedEnd mode.expected p)))
  | .reading mode outer, .token t rest =>
    match accept? mode outer t with
    | none => some (.error (.query (.unexpectedToken t mode.expected)))
    | some (.error e) => some (failBefore e rest).result
    | some (.ok _) => none

variable {strict : Bool}

lemma run_of_ending? {s : State} {stream : Stream} {r : Except Failure Node}
    (h : ending? strict s stream = some r) : (run strict s stream).result = r := by
  rcases stream with p | e | ⟨t, rest⟩
  · rcases s with ⟨mode, outer⟩ | n <;> exact Option.some.inj h
  · rcases s with ⟨mode, outer⟩ | n <;> exact Option.some.inj h
  · rcases s with ⟨mode, outer⟩ | n
    · simp only [ending?] at h
      simp only [run]
      split at h <;> simp_all
    · exact Option.some.inj h

lemma run_of_take? {s s' : State} {t : Token} (h : take? s t = some s') (rest : Stream) :
    (run strict s (.token t rest)).result = (run strict s' rest).result := by
  rcases s with ⟨mode, outer⟩ | n
  · simp only [take?] at h
    simp only [run]
    split at h <;> simp_all
  · simp at h

lemma run_of_refused {mode : Mode} {outer : List Frame} {t : Token}
    (h : accept? mode outer t = none) (rest : Stream) :
    (run strict (.reading mode outer) (.token t rest)).result =
      .error (.query (.unexpectedToken t mode.expected)) :=
  run_of_ending? (by simp [ending?, h])

lemma run_of_failed {mode : Mode} {outer : List Frame} {t : Token} {e : Failure}
    (h : accept? mode outer t = some (.error e)) (rest : Stream) :
    (run strict (.reading mode outer) (.token t rest)).result = (failBefore e rest).result :=
  run_of_ending? (by simp [ending?, h])

lemma run_of_accepted {mode : Mode} {outer : List Frame} {t : Token} {s : State}
    (h : accept? mode outer t = some (.ok s)) (rest : Stream) :
    (run strict (.reading mode outer) (.token t rest)).result = (run strict s rest).result :=
  run_of_take? (by simp [take?, h]) rest

lemma run_prepend {s s' : State} {ts : List Token} (h : takeAll? s ts = some s') (rest : Stream) :
    (run strict s (.prepend ts rest)).result = (run strict s' rest).result := by
  induction ts generalizing s with
  | nil => cases h; rfl
  | cons t ts ih =>
    obtain ⟨s₁, h₁, h₂⟩ := Option.bind_eq_some_iff.mp h
    rw [Stream.prepend_cons, run_of_take? h₁, ih h₂]

lemma exists_take?_of_ending?_eq_none {s : State} {stream : Stream}
    (h : ending? strict s stream = none) :
    ∃ t rest s', stream = .token t rest ∧ take? s t = some s' := by
  rcases stream with p | e | ⟨t, rest⟩
  · rcases s with ⟨mode, outer⟩ | n <;> cases h
  · rcases s with ⟨mode, outer⟩ | n <;> cases h
  · rcases s with ⟨mode, outer⟩ | n
    · simp only [ending?] at h
      split at h
      · cases h
      · cases h
      · next s' hs' => exact ⟨t, rest, s', rfl, by simp [take?, hs']⟩
    · cases h

lemma exists_ending (strict : Bool) (s : State) (stream : Stream) :
    ∃ ts s' rest, stream = .prepend ts rest ∧ takeAll? s ts = some s' ∧
      ending? strict s' rest = some (run strict s stream).result := by
  induction stream generalizing s with
  | finished p =>
    refine ⟨[], s, .finished p, rfl, rfl, ?_⟩
    rcases s with ⟨mode, outer⟩ | n <;> rfl
  | stray e =>
    refine ⟨[], s, .stray e, rfl, rfl, ?_⟩
    rcases s with ⟨mode, outer⟩ | n <;> rfl
  | token t rest ih =>
    cases hend : ending? strict s (.token t rest) with
    | some r => exact ⟨[], s, _, rfl, rfl, by rw [run_of_ending? hend, hend]⟩
    | none =>
      obtain ⟨_, _, s', ⟨⟩, hs'⟩ := exists_take?_of_ending?_eq_none hend
      obtain ⟨ts, s'', rest', rfl, htake, hres⟩ := ih s'
      refine ⟨t :: ts, s'', rest', rfl, by simp [hs', htake], ?_⟩
      rw [run_of_take? hs', hres]

/-- **How a run ends**: it has the result `r` exactly when the machine takes some tokens and ends
with `r` before the next one. -/
theorem run_result_eq_iff {s : State} {stream : Stream} {r : Except Failure Node} :
    (run strict s stream).result = r ↔
      ∃ ts s' rest, stream = .prepend ts rest ∧ takeAll? s ts = some s' ∧
        ending? strict s' rest = some r := by
  constructor
  · rintro rfl
    exact exists_ending strict s stream
  · rintro ⟨ts, s', rest, rfl, htake, hend⟩
    rw [run_prepend htake, run_of_ending? hend]

/-- What may follow a complete query: no stray character, and in strict mode no token. -/
def MayFollow (strict : Bool) : Stream → Prop
  | .finished _ => True
  | .stray _ => False
  | .token _ _ => strict = false

lemma ending?_eq_ok_iff {s : State} {rest : Stream} {n : Node} :
    ending? strict s rest = some (.ok n) ↔ s = .complete n ∧ MayFollow strict rest := by
  rcases rest with p | e | ⟨t, rest⟩
  · rcases s with ⟨mode, outer⟩ | m <;> simp [ending?, MayFollow]
  · rcases s with ⟨mode, outer⟩ | m <;> simp [ending?, MayFollow]
  · rcases s with ⟨mode, outer⟩ | m
    · simp only [ending?]
      split
      · simp
      · rcases rest with p | e | ⟨t', rest⟩ <;> simp [failBefore]
      · simp
    · cases strict <;> simp [ending?, MayFollow]

lemma run_eq_ok_iff {s : State} {stream : Stream} {n : Node} :
    (run strict s stream).result = .ok n ↔
      ∃ ts rest, stream = .prepend ts rest ∧ takeAll? s ts = some (.complete n) ∧
        MayFollow strict rest := by
  rw [run_result_eq_iff]
  constructor
  · rintro ⟨ts, s', rest, hstream, htake, hend⟩
    obtain ⟨rfl, hrest⟩ := ending?_eq_ok_iff.mp hend
    exact ⟨ts, rest, hstream, htake, hrest⟩
  · rintro ⟨ts, rest, hstream, htake, hrest⟩
    exact ⟨ts, _, rest, hstream, htake, ending?_eq_ok_iff.mpr ⟨rfl, hrest⟩⟩

lemma ofStream_eq_ok_iff {stream : Stream} {n : Node} :
    (ofStream strict stream).result = .ok n ↔ (run strict start stream).result = .ok n := by
  rcases stream with p | e | ⟨t, rest⟩
  · simp [ofStream, run, start]
  · rfl
  · rfl

end DocFilter.Query.Parser

namespace DocFilter.Query

open Token (Stream)

lemma parse_eq_result (strict : Bool) (text : String) :
    parse strict text = (Parser.ofStream strict (.ofText text)).result := by
  rw [parse, parseTraced]
  cases (Parser.ofStream strict (.ofText text)).result <;> rfl

lemma parse_eq_run {strict : Bool} {text : String} (h : ∀ p, Stream.ofText text ≠ .finished p) :
    parse strict text = (Parser.run strict Parser.start (.ofText text)).result := by
  rw [parse_eq_result]
  cases hstream : Stream.ofText text with
  | finished p => exact absurd hstream (h p)
  | _ => rfl

end DocFilter.Query
