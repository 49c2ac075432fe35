import DocFilter.Proofs.Json.Layout
import DocFilter.Proofs.Json.Numbers
import DocFilter.Proofs.Json.Strings
import Mathlib.Data.List.DropRight

/-!
JSON text is read as the data it is written for, in whatever layout. So compact text stands for one
value only.
-/

namespace DocFilter.Json

open Text
open Token (Stops)

/-! ### The data as read -/

mutual

/-- What the text of a value is read as. -/
def written : Json → Written
  | null => .null
  | bool b => .bool b
  | int n => .number (n < 0) (decimal n.natAbs) true
  | str s => .string (some s)
  | arr items => .array (writtenItems items)
  | obj fields => .object (writtenFields fields)

def writtenItems : List Json → List Written
  | [] => []
  | item :: items => written item :: writtenItems items

def writtenFields : List (String × Json) → List (Option String × Written)
  | [] => []
  | (key, value) :: fields => (some key, written value) :: writtenFields fields

end

def writtenField (field : String × Json) : Option String × Written :=
  (some field.1, field.2.written)

lemma writtenItems_eq_map (items : List Json) : writtenItems items = items.map written := by
  induction items with
  | nil => rfl
  | cons item items ih => rw [writtenItems, ih, List.map_cons]

lemma writtenFields_eq_map (fields : List (String × Json)) :
    writtenFields fields = fields.map writtenField := by
  induction fields with
  | nil => rfl
  | cons field fields ih => rw [writtenFields, ih, List.map_cons, writtenField]

namespace Written

variable {rest : List Char}

/-! ### Blanks -/

lemma skipSpace_eq (cs : List Char) : skipSpace cs = some ((), cs.dropWhile isSpace) := rfl

lemma dropWhile_of_stops {cs : List Char} (stop : Stops isSpace cs) :
    cs.dropWhile isSpace = cs := by
  cases cs with
  | nil => rfl
  | cons c cs => exact List.dropWhile_cons_of_neg (by simpa using stop)

lemma dropWhile_append {gap : List Char} (blank : Blank gap) (cs : List Char) :
    (gap ++ cs).dropWhile isSpace = cs.dropWhile isSpace :=
  List.dropWhile_append_of_pos blank

lemma dropWhile_append_mark {gap : List Char} {c : Char} (blank : Blank gap)
    (mark : isSpace c = false) (cs : List Char) :
    (gap ++ c :: cs).dropWhile isSpace = c :: cs := by
  rw [dropWhile_append blank, dropWhile_of_stops (Token.stops_cons.mpr mark)]

lemma mem_ends_of_isSpace {c : Char} (h : isSpace c = true) : c ∈ ends := by
  simp only [isSpace, Bool.or_eq_true, decide_eq_true_eq] at h
  rcases h with ((rfl | rfl) | rfl) | rfl <;> decide

lemma behind_append {gap : List Char} (blank : Blank gap) (h : Behind rest) :
    Behind (gap ++ rest) := by
  cases gap with
  | nil => exact h
  | cons c gap => exact behind_cons (mem_ends_of_isSpace (blank c List.mem_cons_self)) _

/-! ### Lists -/

section

variable {α β : Type} {item : Reader α} {P : β → List Char → Prop} {value : β → α}
variable {opening closing : Char}

/-- The reader skips the blanks in front. -/
def Skips (item : Reader α) : Prop := ∀ cs, item (cs.dropWhile isSpace) = item cs

lemma Skips.append (skips : Skips item) {gap : List Char} (blank : Blank gap) (cs : List Char) :
    item (gap ++ cs) = item cs := by
  rw [← skips, dropWhile_append blank, skips]

/-- The reader takes what is written for an item, and the blanks behind it, where the text has fewer
than `n` characters. -/
def Takes (item : Reader α) (P : β → List Char → Prop) (value : β → α) (n : Nat) : Prop :=
  ∀ b cs, P b cs → cs.length < n → ∀ rest, Behind rest →
    item (cs ++ rest) = some (value b, rest.dropWhile isSpace)

lemma Takes.spaced {n : Nat} (takes : Takes item P value n) (skips : Skips item) {b : β}
    {front cs back : List Char} (before : Blank front) (h : P b cs) (behind : Blank back)
    (short : cs.length < n) (hrest : Behind rest) :
    item (front ++ (cs ++ (back ++ rest))) = some (value b, rest.dropWhile isSpace) := by
  rw [skips.append before, takes b cs h short _ (behind_append behind hrest),
    dropWhile_append behind]

lemma many_comma {cs rest' : List Char} {v : α} {vs : List α} (h : item cs = some (v, rest))
    (shorter : rest.length ≤ cs.length)
    (hmany : Reader.many (Reader.char ',' >>= fun _ => item) rest = some (vs, rest')) :
    Reader.many (Reader.char ',' >>= fun _ => item) (',' :: cs) = some (v :: vs, rest') := by
  have hone : (Reader.char ',' >>= fun _ => item) (',' :: cs) = some (v, rest) :=
    (Reader.bind_of_eq_some (Reader.char_cons ',' cs)).trans h
  unfold Reader.many at hmany ⊢
  rw [Reader.repeated_of_eq_some hone (Nat.lt_succ_of_le shorter), Option.some.inj hmany]

lemma separated_of_many {cs : List Char} {v : α} {vs : List α}
    (h : Reader.many (Reader.char ',' >>= fun _ => item) (',' :: cs) = some (v :: vs, rest)) :
    Reader.separated item (Reader.char ',') cs = some (v :: vs, rest) := by
  have hone : (Reader.char ',' >>= fun _ => item) (',' :: cs) = item cs :=
    Reader.bind_of_eq_some (Reader.char_cons ',' cs)
  rw [Reader.many, Reader.repeated, hone] at h
  rcases hitem : item cs with _ | ⟨a, cs'⟩
  · simp [hitem] at h
  · simp only [hitem] at h
    split_ifs at h
    · rw [Reader.separated, Reader.bind_of_eq_some hitem]
      cases h
      rfl
    · cases h

lemma many_of_listed {n : Nat} {bs : List β} {cs : List Char} (takes : Takes item P value n)
    (skips : Skips item) (hclosing : closing ∈ [']', '\x7d']) (h : Listed P bs cs)
    (short : cs.length < n) (rest : List Char) :
    Reader.many (Reader.char ',' >>= fun _ => item) (',' :: (cs ++ closing :: rest)) =
      some (bs.map value, closing :: rest) := by
  obtain ⟨hmark, hends, hcomma⟩ : isSpace closing = false ∧ closing ∈ ends ∧ closing ≠ ',' := by
    rcases List.mem_pair.mp hclosing with rfl | rfl <;> decide
  induction h with
  | @one b front cs back before h behind =>
    simp only [List.length_append] at short
    have hitem := takes.spaced skips before h behind (by omega) (behind_cons hends rest)
    rw [dropWhile_of_stops (Token.stops_cons.mpr hmark)] at hitem
    have hnone : Reader.many (Reader.char ',' >>= fun _ => item) (closing :: rest) =
        some ([], closing :: rest) :=
      congrArg some (Reader.repeated_of_eq_none
        (Reader.bind_of_eq_none (Reader.char_of_ne hcomma rest)))
    have shorter : (closing :: rest).length ≤
        (front ++ (cs ++ (back ++ closing :: rest))).length := by
      simp only [List.length_append]
      omega
    simpa using many_comma hitem shorter hnone
  | @more b front cs back bs ds before h behind items ih =>
    simp only [List.length_append, List.length_cons] at short
    have hitem := takes.spaced skips before h behind (by omega)
      (behind_cons (by decide : ',' ∈ ends) (ds ++ closing :: rest))
    rw [dropWhile_of_stops (Token.stops_cons.mpr rfl)] at hitem
    -- the reader goes on only if it has come forward
    have shorter : (',' :: (ds ++ closing :: rest)).length ≤
        (front ++ (cs ++ (back ++ ',' :: (ds ++ closing :: rest)))).length := by
      simp only [List.length_append]
      omega
    simpa using many_comma hitem shorter (ih (by omega))

lemma readListed_of_listed {n : Nat} {bs : List β} {cs : List Char} (takes : Takes item P value n)
    (skips : Skips item) (hclosing : closing ∈ [']', '\x7d']) (h : Listed P bs cs)
    (short : cs.length < n) (rest : List Char) :
    readListed opening closing item (opening :: (cs ++ closing :: rest)) =
      some (bs.map value, rest) := by
  have hmany := many_of_listed takes skips hclosing h short rest
  have hseparated : Reader.separated item (Reader.char ',') (cs ++ closing :: rest) =
      some (bs.map value, closing :: rest) := by
    cases h <;> exact separated_of_many hmany
  have hskipped : Reader.separated item (Reader.char ',')
      ((cs ++ closing :: rest).dropWhile isSpace) = some (bs.map value, closing :: rest) := by
    rw [← hseparated, Reader.separated, Reader.bind_apply, Reader.bind_apply, skips]
  rw [readListed, Reader.bind_of_eq_some (Reader.char_cons _ _),
    Reader.bind_of_eq_some (skipSpace_eq _),
    Reader.bind_of_eq_some (Reader.orElse_of_eq_some hskipped),
    Reader.bind_of_eq_some (Reader.char_cons _ _)]
  rfl

lemma readListed_of_blank {gap : List Char} (blank : Blank gap)
    (hitem : item (closing :: rest) = none) (hclosing : isSpace closing = false) :
    readListed opening closing item (opening :: (gap ++ closing :: rest)) = some ([], rest) := by
  have hitems : (Reader.separated item (Reader.char ',') <|> pure []) (closing :: rest) =
      some ([], closing :: rest) :=
    Reader.orElse_of_eq_none (Reader.bind_of_eq_none hitem)
  rw [readListed, Reader.bind_of_eq_some (Reader.char_cons _ _),
    Reader.bind_of_eq_some (skipSpace_eq _), dropWhile_append_mark blank hclosing,
    Reader.bind_of_eq_some hitems, Reader.bind_of_eq_some (Reader.char_cons _ _)]
  rfl

end

/-! ### Values -/

/-- A value that is none of the words. -/
def readMarked (depth : Nat) : Reader Written :=
  .string <$> readString
  <|> .array <$> readListed '[' ']' (readValue depth)
  <|> .object <$> readListed '\x7b' '\x7d' (readField (readValue depth))
  <|> readNumber

/-- A value without the blanks around it. -/
def readBare (depth : Nat) : Reader Written :=
  (Reader.literally "null".toList >>= fun _ => pure .null)
  <|> (Reader.literally "true".toList >>= fun _ => pure (.bool true))
  <|> (Reader.literally "false".toList >>= fun _ => pure (.bool false))
  <|> readMarked depth

section

variable {depth : Nat}

lemma readBare_null : readBare depth ("null".toList ++ rest) = some (.null, rest) :=
  Reader.orElse_of_eq_some (Reader.bind_of_eq_some (Reader.literally_append _ _))

lemma readWord_of_ne {w u : List Char} {c d : Char} (hw : w = c :: u) (h : d ≠ c) (v : Written)
    (cs : List Char) : (Reader.literally w >>= fun _ => pure v : Reader Written) (d :: cs) = none :=
  Reader.bind_of_eq_none (Reader.literally_of_ne hw h cs)

lemma readBare_bool (b : Bool) : readBare depth (boolText b ++ rest) = some (.bool b, rest) := by
  cases b with
  | true =>
    refine (Reader.orElse_of_eq_none (readWord_of_ne rfl (by decide) _ _)).trans ?_
    exact Reader.orElse_of_eq_some (Reader.bind_of_eq_some (Reader.literally_append _ _))
  | false =>
    refine (Reader.orElse_of_eq_none (readWord_of_ne rfl (by decide) _ _)).trans ?_
    refine (Reader.orElse_of_eq_none (readWord_of_ne rfl (by decide) _ _)).trans ?_
    exact Reader.orElse_of_eq_some (Reader.bind_of_eq_some (Reader.literally_append _ _))

lemma readBare_of_ne {d : Char} (hd : d ∉ ['n', 't', 'f']) (cs : List Char) :
    readBare depth (d :: cs) = readMarked depth (d :: cs) := by
  simp only [List.mem_cons, List.not_mem_nil, or_false, not_or] at hd
  refine (Reader.orElse_of_eq_none (readWord_of_ne rfl hd.1 _ _)).trans ?_
  refine (Reader.orElse_of_eq_none (readWord_of_ne rfl hd.2.1 _ _)).trans ?_
  exact Reader.orElse_of_eq_none (readWord_of_ne rfl hd.2.2 _ _)

lemma readBare_string (s : String) :
    readBare depth (quoted s ++ rest) = some (.string (some s), rest) :=
  (readBare_of_ne (by decide) _).trans
    (Reader.orElse_of_eq_some (Reader.map_of_eq_some (readString_quoted s rest)))

lemma readString_map_of_ne {d : Char} (h : d ≠ '"') (cs : List Char) :
    (Written.string <$> readString) (d :: cs) = none :=
  Reader.bind_of_eq_none (readString_of_ne h cs)

lemma readListed_map_of_ne {α : Type} {opening closing d : Char} {item : Reader α}
    {f : List α → Written} (h : d ≠ opening) (cs : List Char) :
    (f <$> readListed opening closing item) (d :: cs) = none :=
  Reader.bind_of_eq_none (Reader.bind_of_eq_none (Reader.char_of_ne h cs))

lemma readBare_array {cs : List Char} {vs : List Written}
    (h : readListed '[' ']' (readValue depth) ('[' :: cs) = some (vs, rest)) :
    readBare depth ('[' :: cs) = some (.array vs, rest) := by
  refine (readBare_of_ne (by decide) _).trans ?_
  refine (Reader.orElse_of_eq_none (readString_map_of_ne (by decide) _)).trans ?_
  exact Reader.orElse_of_eq_some (Reader.map_of_eq_some h)

lemma readBare_object {cs : List Char} {fields : List (Option String × Written)}
    (h : readListed '\x7b' '\x7d' (readField (readValue depth)) ('\x7b' :: cs) =
      some (fields, rest)) :
    readBare depth ('\x7b' :: cs) = some (.object fields, rest) := by
  refine (readBare_of_ne (by decide) _).trans ?_
  refine (Reader.orElse_of_eq_none (readString_map_of_ne (by decide) _)).trans ?_
  refine (Reader.orElse_of_eq_none (readListed_map_of_ne (by decide) _)).trans ?_
  exact Reader.orElse_of_eq_some (Reader.map_of_eq_some h)

lemma readBare_of_number {d : Char} (hd : d ∉ ['n', 't', 'f', '"', '[', '\x7b']) (cs : List Char) :
    readBare depth (d :: cs) = readNumber (d :: cs) := by
  simp only [List.mem_cons, List.not_mem_nil, or_false, not_or] at hd
  obtain ⟨hn, ht, hf, hquote, harray, hobject⟩ := hd
  refine (readBare_of_ne (by simp [hn, ht, hf]) _).trans ?_
  refine (Reader.orElse_of_eq_none (readString_map_of_ne hquote _)).trans ?_
  refine (Reader.orElse_of_eq_none (readListed_map_of_ne harray _)).trans ?_
  exact Reader.orElse_of_eq_none (readListed_map_of_ne hobject _)

lemma readBare_int (n : Int) (behind : Behind rest) :
    readBare depth (signedDecimal n ++ rest) =
      some (.number (n < 0) (decimal n.natAbs) true, rest) := by
  have hnumber := readNumber_signedDecimal n behind
  obtain ⟨d, ds, hds, hd⟩ := exists_signedDecimal_eq_cons n
  rw [hds, List.cons_append] at hnumber ⊢
  rw [readBare_of_number _ _, hnumber]
  rcases hd with rfl | hd
  · decide
  · intro hmem
    simp only [List.mem_cons, List.not_mem_nil, or_false] at hmem
    rcases hmem with rfl | rfl | rfl | rfl | rfl | rfl <;> cases hd

lemma readValue_succ (depth : Nat) : readValue (depth + 1) = (do
    skipSpace
    let v ← readBare depth
    skipSpace
    pure v) := rfl

lemma readValue_skips (depth : Nat) : Skips (readValue depth) := by
  intro cs
  cases depth with
  | zero => rfl
  | succ depth =>
    rw [readValue_succ, Reader.bind_of_eq_some (skipSpace_eq _),
      Reader.bind_of_eq_some (skipSpace_eq _), List.dropWhile_idempotent]

lemma readField_skips (value : Reader Written) : Skips (readField value) := by
  intro cs
  rw [readField, Reader.bind_of_eq_some (skipSpace_eq _),
    Reader.bind_of_eq_some (skipSpace_eq _), List.dropWhile_idempotent]

lemma readValue_of_readBare {cs : List Char} {v : Written} (stop : Stops isSpace cs)
    (h : readBare depth cs = some (v, rest)) :
    readValue (depth + 1) cs = some (v, rest.dropWhile isSpace) := by
  rw [readValue_succ, Reader.bind_of_eq_some (skipSpace_eq _), dropWhile_of_stops stop,
    Reader.bind_of_eq_some h, Reader.bind_of_eq_some (skipSpace_eq _)]
  rfl

lemma readValue_closeBracket (depth : Nat) (cs : List Char) :
    readValue depth (']' :: cs) = none := by
  cases depth with
  | zero => rfl
  | succ depth =>
    have hbare : readBare depth (']' :: cs) = none :=
      (readBare_of_number (by decide) cs).trans (readNumber_of_ne (by decide) cs)
    rw [readValue_succ, Reader.bind_of_eq_some (skipSpace_eq _),
      dropWhile_of_stops (Token.stops_cons.mpr rfl)]
    exact Reader.bind_of_eq_none hbare

lemma readField_closeBrace (readValue : Reader Written) (cs : List Char) :
    readField readValue ('\x7d' :: cs) = none := by
  rw [readField, Reader.bind_of_eq_some (skipSpace_eq _),
    dropWhile_of_stops (Token.stops_cons.mpr rfl)]
  exact Reader.bind_of_eq_none (readString_of_ne (by decide) cs)

lemma takes_readField {n : Nat} {P : Json → List Char → Prop}
    (takes : Takes (readValue depth) P written n) :
    Takes (readField (readValue depth)) (Keyed P) writtenField n := by
  rintro _ _ ⟨before, behind, value⟩ short rest hrest
  rename_i key j front back cs
  simp only [List.length_append, List.length_cons] at short
  have hquote : Stops isSpace (quoted key ++ (front ++ ':' :: (back ++ cs)) ++ rest) :=
    Token.stops_cons.mpr rfl
  have hkey : (quoted key ++ (front ++ ':' :: (back ++ cs)) ++ rest).dropWhile isSpace =
      quoted key ++ (front ++ ':' :: (back ++ (cs ++ rest))) := by
    rw [dropWhile_of_stops hquote]
    simp
  have hvalue : readValue depth (back ++ (cs ++ rest)) =
      some (j.written, rest.dropWhile isSpace) := by
    rw [(readValue_skips depth).append behind, takes j cs value (by omega) rest hrest]
  rw [readField, Reader.bind_of_eq_some (skipSpace_eq _), hkey,
    Reader.bind_of_eq_some (readString_quoted _ _), Reader.bind_of_eq_some (skipSpace_eq _),
    dropWhile_append_mark before rfl, Reader.bind_of_eq_some (Reader.char_cons _ _),
    Reader.bind_of_eq_some hvalue]
  rfl

end

end Written

/-! ### The whole text -/

lemma Laid.stops {j : Json} {cs : List Char} (h : Laid j cs) (rest : List Char) :
    Stops Written.isSpace (cs ++ rest) := by
  cases h with
  | null => exact Token.stops_cons.mpr rfl
  | @bool b => cases b <;> exact Token.stops_cons.mpr rfl
  | @int n =>
    obtain ⟨d, ds, hds, hd⟩ := Written.exists_signedDecimal_eq_cons n
    rw [hds]
    refine Token.stops_cons.mpr ?_
    by_contra hspace
    simp only [Written.isSpace, Bool.not_eq_false, Bool.or_eq_true, decide_eq_true_eq] at hspace
    rcases hspace with ((rfl | rfl) | rfl) | rfl <;> simp at hd
  | _ => exact Token.stops_cons.mpr rfl

/-- A value is read off the front of what may stand behind it, if the reader goes deep enough. -/
lemma takes_readValue (depth : Nat) :
    Written.Takes (Written.readValue depth) Laid written depth := by
  -- the items of a value are shorter than it is
  induction depth with
  | zero => exact fun _ _ _ short => absurd short (Nat.not_lt_zero _)
  | succ depth ih =>
    intro j cs h short rest behind
    refine Written.readValue_of_readBare (h.stops rest) ?_
    cases h with
    | null => exact Written.readBare_null
    | bool => exact Written.readBare_bool _
    | int => exact Written.readBare_int _ behind
    | str => exact Written.readBare_string _
    | noItems blank =>
      rw [written, writtenItems]
      simpa using Written.readBare_array
        (Written.readListed_of_blank blank (Written.readValue_closeBracket depth rest) rfl)
    | arr inner =>
      simp only [List.length_cons, List.length_append] at short
      rw [written, writtenItems_eq_map]
      simpa using Written.readBare_array (Written.readListed_of_listed ih
        (Written.readValue_skips depth) (by decide) inner (by omega) rest)
    | noFields blank =>
      rw [written, writtenFields]
      simpa using Written.readBare_object
        (Written.readListed_of_blank blank (Written.readField_closeBrace _ rest) rfl)
    | obj inner =>
      simp only [List.length_cons, List.length_append] at short
      rw [written, writtenFields_eq_map]
      simpa using Written.readBare_object (Written.readListed_of_listed
        (Written.takes_readField ih) (Written.readField_skips _) (by decide) inner (by omega) rest)

/-- **A text in any layout is read as the data it is written for.** -/
theorem ofText?_of_laid {j : Json} {text : String} {front cs back : List Char} (h : Laid j cs)
    (before : Blank front) (behind : Blank back) (htext : text.toList = front ++ (cs ++ back)) :
    Written.ofText? text = some j.written := by
  have hshort : cs.length < text.toList.length + 1 := by
    simp only [htext, List.length_append]
    omega
  have hread := takes_readValue _ j cs h hshort back
    (by simpa using Written.behind_append behind behind_nil)
  rw [← (Written.readValue_skips _).append before, ← htext] at hread
  have hback : back.dropWhile Written.isSpace = [] := List.dropWhile_eq_nil_iff.mpr behind
  rw [Written.ofText?, Reader.whole?, hread, hback]

lemma ofText?_compact (j : Json) : Written.ofText? j.compact = some j.written :=
  ofText?_of_laid (laid_compactChars j) blank_nil blank_nil (by simp [compact])

lemma ofText?_pretty (j : Json) : Written.ofText? j.pretty = some j.written :=
  ofText?_of_laid (laid_prettyChars j 0) blank_nil blank_nil (by simp [pretty])

/-! ### The data by its text -/

lemma int_eq_of_written {m n : Int} (hneg : decide (m < 0) = decide (n < 0))
    (hdigits : decimal m.natAbs = decimal n.natAbs) : m = n := by
  have habs : m.natAbs = n.natAbs := by
    rw [← decimalValue_decimal m.natAbs, hdigits, decimalValue_decimal]
  rw [decide_eq_decide] at hneg
  omega

mutual

theorem written_inj : ∀ {j k : Json}, j.written = k.written → j = k
  | .null, k, h => by cases k <;> first | rfl | cases h
  | .bool a, k, h => by
    cases k with
    | bool b => rw [Written.bool.inj h]
    | _ => cases h
  | .int m, k, h => by
    cases k with
    | int n =>
      obtain ⟨hneg, hdigits, -⟩ := Written.number.inj h
      rw [int_eq_of_written hneg hdigits]
    | _ => cases h
  | .str s, k, h => by
    cases k with
    | str t => rw [Option.some.inj (Written.string.inj h)]
    | _ => cases h
  | .arr items, k, h => by
    cases k with
    | arr items' => rw [writtenItems_inj (Written.array.inj h)]
    | _ => cases h
  | .obj fields, k, h => by
    cases k with
    | obj fields' => rw [writtenFields_inj (Written.object.inj h)]
    | _ => cases h

theorem writtenItems_inj : ∀ {js ks : List Json}, writtenItems js = writtenItems ks → js = ks
  | [], ks, h => by
    cases ks with
    | nil => rfl
    | cons k ks => cases h
  | j :: js, ks, h => by
    cases ks with
    | nil => cases h
    | cons k ks =>
      obtain ⟨hhead, htail⟩ := List.cons.inj h
      rw [written_inj hhead, writtenItems_inj htail]

theorem writtenFields_inj : ∀ {fs gs : List (String × Json)},
    writtenFields fs = writtenFields gs → fs = gs
  | [], gs, h => by
    cases gs with
    | nil => rfl
    | cons g gs => cases h
  | (key, j) :: fs, gs, h => by
    cases gs with
    | nil => cases h
    | cons g gs =>
      obtain ⟨hhead, htail⟩ := List.cons.inj h
      obtain ⟨hkey, hvalue⟩ := Prod.mk.inj hhead
      rw [Option.some.inj hkey, written_inj hvalue, writtenFields_inj htail]

end

/-- Compact text stands for one value only. -/
theorem compact_inj {j k : Json} (h : j.compact = k.compact) : j = k := by
  have hread := ofText?_compact j
  rw [h, ofText?_compact] at hread
  exact (written_inj (Option.some.inj hread)).symm

end DocFilter.Json
