import DocFilter.Cli.Program
import DocFilter.Proofs.Json.Values
import DocFilter.Proofs.Token.Concatenation
import DocFilter.Proofs.Token.Offset
import DocFilter.Token.Json

/-!
Tokens are read again from their JSON text, in whatever layout, and so is the answer to the command
that lists the tokens of a query.
-/

namespace DocFilter.Token

open Json (Written Laid)

/-! ### One token -/

lemma readOffset?_natural {n : Nat} (h : n < 2 ^ 64) :
    readOffset? (Json.int n).written = some n := by
  have hsign : decide ((n : Int) < 0) = false := decide_eq_false (by omega)
  have hvalue : Text.decimalValue (Text.decimal n) = n := Text.decimalValue_decimal n
  have hbound : n < offsetBound := h
  simp [Json.written, readOffset?, hsign, hvalue, hbound]

lemma ofWritten?_written {t : Token} (h : t.offset < 2 ^ 64) :
    ofWritten? t.toJson.written = some t := by
  have hwritten : t.toJson.written = .object [(some "kind", .string (some t.kind.name)),
      (some "text", .string (some t.text)), (some "offset", (Json.int t.offset).written)] := rfl
  rw [hwritten]
  simp [ofWritten?, Written.unique?, ofParts?, readKind?, readText?, Kind.ofName?_name,
    readOffset?_natural h]

lemma lt_of_readOffset? {w : Written} {n : Nat} (h : readOffset? w = some n) : n < 2 ^ 64 := by
  unfold readOffset? at h
  split at h
  · simp only at h
    split_ifs at h with hlt
    exact Option.some.inj h ▸ hlt
  · cases h

lemma offset_lt_of_ofParts? {kind text offset : Written} {t : Token}
    (h : ofParts? kind text offset = some t) : t.offset < 2 ^ 64 := by
  simp only [ofParts?, Option.bind_eq_bind, Option.bind_eq_some_iff, Option.pure_def,
    Option.some.injEq] at h
  obtain ⟨k, -, s, -, n, hn, rfl⟩ := h
  exact lt_of_readOffset? hn

lemma offset_lt_of_ofJson? {text : String} {t : Token} (h : ofJson? text = some t) :
    t.offset < 2 ^ 64 := by
  obtain ⟨w, -, hw⟩ := Option.bind_eq_some_iff.mp h
  unfold ofWritten? at hw
  split at hw
  · exact offset_lt_of_ofParts? hw
  · split_ifs at hw
    simp only [Option.bind_eq_bind, Option.bind_eq_some_iff] at hw
    obtain ⟨kind, -, text, -, offset, -, hparts⟩ := hw
    exact offset_lt_of_ofParts? hparts
  · cases hw

lemma ofJson?_compact {t : Token} (h : t.offset < 2 ^ 64) : ofJson? t.toJson.compact = some t := by
  rw [ofJson?, Json.ofText?_compact]
  exact ofWritten?_written h

/-! ### Lists of tokens -/

/-- The tokens that a JSON text denotes, which is an array of them. -/
def listOfJson? (text : String) : Option (List Token) :=
  match Written.ofText? text with
  | some (.array items) => items.mapM ofWritten?
  | _ => none

lemma mapM_written {ts : List Token} (h : ∀ t ∈ ts, t.offset < 2 ^ 64) :
    (ts.map fun t => t.toJson.written).mapM ofWritten? = some ts := by
  induction ts with
  | nil => rfl
  | cons t ts ih =>
    rw [List.forall_mem_cons] at h
    simp [ofWritten?_written h.1, ih h.2]

lemma listOfJson?_render {ts : List Token} (h : ∀ t ∈ ts, t.offset < 2 ^ 64) (compact : Bool) :
    listOfJson? ((listToJson ts).render compact) = some ts := by
  have hread : Written.ofText? ((listToJson ts).render compact) =
      some (.array (ts.map fun t => t.toJson.written)) := by
    cases compact
    · rw [Json.render, if_neg Bool.false_ne_true, Json.ofText?_pretty]
      simp [listToJson, Json.written, Json.writtenItems_eq_map, Function.comp_def]
    · rw [Json.render, if_pos rfl, Json.ofText?_compact]
      simp [listToJson, Json.written, Json.writtenItems_eq_map, Function.comp_def]
  rw [listOfJson?, hread]
  exact mapM_written h

lemma offset_lt_of_tokenize {query : String} {ts : List Token} (h : tokenize query = .ok ts) :
    ∀ t ∈ ts, t.offset < query.utf8ByteSize := by
  obtain ⟨tiles, htiles, rfl⟩ := exists_tiling_of_tokenize h
  intro t ht
  have hlt := (htiles.offset_lt ht).2
  rw [Text.utf8ByteSize_eq, htiles.eq_cover_append, List.append_nil]
  omega

/-- **Tokens are read again from their JSON text.** Every token whose offset has 64 bits is. So are
all tokens of a query, in their order, from the answer to the command that lists them as JSON, in
either layout, if the bytes of the query can be counted in 64 bits. Whatever text a token is read
from, its own text gives the same token. -/
theorem ofJson?_inverts_toJson :
    (∀ t : Token, t.offset < 2 ^ 64 → ofJson? t.toJson.compact = some t) ∧
    (∀ query ts, tokenize query = .ok ts → query.utf8ByteSize ≤ 2 ^ 64 → ∀ compact c, ∃ out,
      (Cli.answer compact c (.tokens query true)).result = .ok out ∧ listOfJson? out = some ts) ∧
    (∀ text t, ofJson? text = some t → ofJson? t.toJson.compact = some t) := by
  refine ⟨fun t h => ofJson?_compact h, fun query ts h size compact c => ?_,
    fun text t h => ofJson?_compact (offset_lt_of_ofJson? h)⟩
  have hanswer : (Cli.answer compact c (.tokens query true)).result =
      .ok ((listToJson ts).render compact) := by
    have hstream : (Stream.ofText query).toList = .ok ts := h
    simp [Cli.answer, Cli.tokenizeTraced, Query.Traced.map, hstream, Except.map, Except.mapError]
  have hlt : ∀ t ∈ ts, t.offset < 2 ^ 64 := fun t ht =>
    lt_of_lt_of_le (offset_lt_of_tokenize h t ht) size
  exact ⟨_, hanswer, listOfJson?_render hlt compact⟩

/-- A token with the largest offset, a query with a quote in a string, and a text with its fields in
another order, a further one, and a character that is written as two halves. -/
theorem ofJson?_inverts_toJson_halves :
    ofJson? (toJson ⟨.string, "'\"\\\n'", 18446744073709551615⟩).compact =
      some ⟨.string, "'\"\\\n'", 18446744073709551615⟩ ∧
    (∃ out, (Cli.answer false .base (.tokens "'\"é'" true)).result = .ok out ∧
      listOfJson? out = some [⟨.string, "'\"é'", 0⟩]) ∧
    ofJson? ("\x7b\"offset\": 7, \"x\": [0], \"text\": \"\\ud83d\\ude00\", " ++
      "\"kind\": \x7b\"comma\": null\x7d\x7d") = some ⟨.comma, "😀", 7⟩ ∧
    ofJson? (toJson ⟨.comma, "😀", 7⟩).compact = some ⟨.comma, "😀", 7⟩ := by
  have hstring : Lexeme (some .string) "'\"é'".toList [] :=
    .string (.inr rfl) (by decide : '\'' ∉ ['"', 'é'])
  have hread : ofJson? ("\x7b\"offset\": 7, \"x\": [0], \"text\": \"\\ud83d\\ude00\", " ++
      "\"kind\": \x7b\"comma\": null\x7d\x7d") = some ⟨.comma, "😀", 7⟩ := by decide +kernel
  exact ⟨ofJson?_inverts_toJson.1 _ (by decide),
    ofJson?_inverts_toJson.2.1 _ _ (tokenize_of_lexeme hstring) (by decide) false .base, hread,
    ofJson?_inverts_toJson.2.2 _ _ hread⟩

end DocFilter.Token
