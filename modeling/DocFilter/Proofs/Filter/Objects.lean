import DocFilter.Proofs.Filter.Dates
import DocFilter.Proofs.Query.Subtree

/-!
The objects in the data of a filter. Each has a single key, which is an operator with what belongs
to it or a field, and every field is one of the query or one of those that are given.
-/

namespace DocFilter

open Query DocFilter.Filter
open Token (Stream)

/-! ### Where data stands -/

namespace Json

/-- `j.Occurs under at k`: somewhere in `k`, which is stored under the key `at`, if under any, the
data `j` is stored under the key `under`. -/
inductive Occurs (j : Json) (under : Option String) : Option String → Json → Prop
  | self : Occurs j under under j
  | item {items : List Json} {k : Json} {place : Option String} (mem : k ∈ items)
      (inner : Occurs j under none k) : Occurs j under place (.arr items)
  | field {fields : List (String × Json)} {key : String} {k : Json} {place : Option String}
      (mem : (key, k) ∈ fields) (inner : Occurs j under (some key) k) :
      Occurs j under place (.obj fields)

/-- A string, a number or a truth value. -/
inductive Scalar : Json → Prop
  | str (s : String) : Scalar (.str s)
  | int (n : Int) : Scalar (.int n)
  | bool (b : Bool) : Scalar (.bool b)

/-- What a field is compared with: a scalar, or the object of a date. -/
inductive Operand : Json → Prop
  | scalar {j : Json} (scalar : Scalar j) : Operand j
  | date (s : String) : Operand (.single "$date" (.str s))

variable {o fs : List (String × Json)} {under place : Option String}

lemma Occurs.of_single {key : String} {k : Json}
    (h : (obj o).Occurs under place (.single key k)) :
    (under = place ∧ o = [(key, k)]) ∨ (obj o).Occurs under (some key) k := by
  cases h with
  | self => exact .inl ⟨rfl, rfl⟩
  | field mem inner =>
    obtain ⟨rfl, rfl⟩ := Prod.mk.inj (List.mem_singleton.mp mem)
    exact .inr inner

lemma Occurs.of_arr {items : List Json} (h : (obj o).Occurs under place (.arr items)) :
    ∃ k ∈ items, (obj o).Occurs under none k := by
  cases h with
  | item mem inner => exact ⟨_, mem, inner⟩

lemma Scalar.not_occurs {k : Json} (h : Scalar k) : ¬ (obj o).Occurs under place k := by
  intro hocc
  cases h <;> cases hocc

lemma Operand.of_occurs {k : Json} (h : Operand k) (hocc : (obj o).Occurs under place k) :
    under = place ∧ ∃ s, o = [("$date", .str s)] := by
  cases h with
  | scalar scalar => exact absurd hocc scalar.not_occurs
  | date s =>
    rcases hocc.of_single with ⟨hunder, ho⟩ | hinner
    · exact ⟨hunder, s, ho⟩
    · exact absurd hinner (Scalar.str s).not_occurs

end Json

lemma Token.IsName.head_ne_dollar {w : List Char} (h : Token.IsName w) : w.head? ≠ some '$' := by
  obtain ⟨c, cs, rfl, hc, -⟩ := h
  rw [List.head?_cons, Ne, Option.some.injEq]
  rintro rfl
  rcases hc with halpha | hunder
  · cases halpha
  · cases hunder

/-! ### What keys hold -/

/-- The operators that compare. -/
def comparisons : List String := ["$ne", "$gt", "$gte", "$lt", "$lte"]

/-- A field of the query, or one of those that a bare literal is compared with. -/
def IsField (fields : List String) (ts : List Token) (f : String) : Prop :=
  FieldIn ts f ∨ f ∈ fields

/-- `Entry fields ts n under key j`: an object that is stored under `under`, if under any, may have
the single key `key` with `j`, in the filter of the query `n` that is read from `ts`. -/
inductive Entry (fields : List String) (ts : List Token) (n : Node) :
    Option String → String → Json → Prop
  /-- A logical function, with an object for each of its arguments, which are two or more. -/
  | logical {op : LogOp} {ns : List Node} {key : String} {items : List Json}
      (source : Subtree (.logical op ns) n) (two : 2 ≤ ns.length)
      (symbol : op = .and ∧ key = "$and" ∨ op = .or ∧ key = "$or")
      (each : List.Forall₂ (fun m item => ∃ d o, ofNode fields m = .ok d ∧ item = d.toJson ∧
        item = .obj o) ns items) : Entry fields ts n none key (.arr items)
  /-- A bare literal, with an object for each of the fields in order. -/
  | fanOut {v : Literal} (source : Subtree (.literal v) n)
      (value : (Value.ofLiteral v).toJson.Operand) : Entry fields ts n none "$or"
        (.arr (fields.map fun f => .single f (Value.ofLiteral v).toJson))
  | comparison {f key : String} {operand : Json} (field : IsField fields ts f)
      (symbol : key ∈ comparisons) (value : operand.Operand) :
      Entry fields ts n (some f) key operand
  | date {under : Option String} {s : String} : Entry fields ts n under "$date" (.str s)
  | field {key : String} {j : Json} (field : IsField fields ts key)
      (plain : key.toList.head? ≠ some '$')
      (value : j.Operand ∨ ∃ symbol ∈ comparisons, ∃ operand : Json, operand.Operand ∧
        j = .single symbol operand) : Entry fields ts n none key j

namespace Filter

lemma operand_ofLiteral (v : Literal) : (Value.ofLiteral v).toJson.Operand := by
  cases v with
  | number n => exact .scalar (.int n)
  | string s => exact .scalar (.str s)
  | boolean b => exact .scalar (.bool b)
  | date t => exact .date _

lemma mem_comparisons {op : RelOp} {symbol : String} (h : op.symbol? = some symbol) :
    symbol ∈ comparisons := by
  cases op with
  | eq => cases h
  | _ =>
    obtain rfl := Option.some.inj h
    decide

variable {fields : List String} {ts : List Token} {root : Node} {under : Option String}
  {o : List (String × Json)}

lemma entry_of_field {f : String} {j : Json} (field : IsField fields ts f)
    (value : j.Operand ∨ ∃ symbol ∈ comparisons, ∃ operand : Json, operand.Operand ∧
      j = .single symbol operand)
    (h : (Json.obj o).Occurs under (some f) j) :
    ∃ key k, o = [(key, k)] ∧ Entry fields ts root under key k := by
  rcases value with operand | ⟨symbol, hsymbol, k, operand, rfl⟩
  · obtain ⟨-, s, ho⟩ := operand.of_occurs h
    exact ⟨_, _, ho, .date⟩
  · rcases h.of_single with ⟨rfl, ho⟩ | hinner
    · exact ⟨_, _, ho, .comparison field hsymbol operand⟩
    · obtain ⟨-, s, ho⟩ := operand.of_occurs hinner
      exact ⟨_, _, ho, .date⟩

lemma entry_of_single {f : String} {j : Json} (field : IsField fields ts f)
    (plain : f.toList.head? ≠ some '$')
    (value : j.Operand ∨ ∃ symbol ∈ comparisons, ∃ operand : Json, operand.Operand ∧
      j = .single symbol operand)
    (h : (Json.obj o).Occurs under none (.single f j)) :
    ∃ key k, o = [(key, k)] ∧ Entry fields ts root under key k := by
  rcases h.of_single with ⟨rfl, ho⟩ | hinner
  · exact ⟨_, _, ho, .field field plain value⟩
  · exact entry_of_field field value hinner

lemma fanOut_toJson (fields : List String) (v : Literal) : (fanOut fields v).toJson =
    .single "$or" (.arr (fields.map fun f => .single f (Value.ofLiteral v).toJson)) := by
  have hitems : Document.listToJson (fields.map fun f => .single f (.ofLiteral v)) =
      fields.map fun f => .single f (Value.ofLiteral v).toJson := by
    rw [listToJson_eq_map, List.map_map]
    rfl
  rw [← hitems]
  rfl

lemma exists_comparison_toJson_eq (op : RelOp) (f : String) (v : Literal) :
    ∃ j : Json, (comparison op f v).toJson = .single f j ∧
      (j.Operand ∨ ∃ symbol ∈ comparisons, ∃ operand : Json, operand.Operand ∧
        j = .single symbol operand) := by
  obtain ⟨value, hvalue, ⟨-, rfl⟩ | ⟨symbol, hsymbol, rfl⟩⟩ := exists_comparison_eq op f v
  · exact ⟨_, by rw [hvalue]; rfl, .inl (operand_ofLiteral v)⟩
  · exact ⟨_, by rw [hvalue]; rfl,
      .inr ⟨symbol, mem_comparisons hsymbol, _, operand_ofLiteral v, rfl⟩⟩

lemma logical_toJson (op : LogOp) (ns : List Node) : (document fields (.logical op ns)).toJson =
    .single op.symbol (.arr (ns.map fun n => (document fields n).toJson)) := by
  have hitems : Document.listToJson (documents fields ns) =
      ns.map fun n => (document fields n).toJson := by
    rw [listToJson_eq_map, documents_eq_map, List.map_map]
    rfl
  rw [← hitems]
  rfl

lemma exists_toJson_eq_obj (d : Document) : ∃ o, d.toJson = .obj o := by
  obtain ⟨fs⟩ := d
  exact ⟨_, rfl⟩

lemma entry_logical {op : LogOp} {ns : List Node} (two : 2 ≤ ns.length)
    (all : ∀ n ∈ ns, n.Full) (sub : Subtree (.logical op ns) root) :
    Entry fields ts root none op.symbol
      (.arr (ns.map fun n => (document fields n).toJson)) := by
  refine .logical sub two (by cases op <;> simp [LogOp.symbol]) ?_
  rw [List.forall₂_map_right_iff, List.forall₂_same]
  intro n hn
  obtain ⟨o, ho⟩ := exists_toJson_eq_obj (document fields n)
  exact ⟨_, o, ofNode_eq_ok (all n hn) fields, rfl, ho⟩

lemma entry_of_subtree (plain : ∀ f, IsField fields ts f → f.toList.head? ≠ some '$')
    (derives : Derives ts root) {n : Node} (full : n.Full) (sub : Subtree n root)
    (h : (Json.obj o).Occurs under none (document fields n).toJson) :
    ∃ key k, o = [(key, k)] ∧ Entry fields ts root under key k := by
  induction full with
  | @literal v =>
    rw [document, fanOut_toJson] at h
    rcases h.of_single with ⟨rfl, ho⟩ | hinner
    · exact ⟨_, _, ho, .fanOut sub (operand_ofLiteral v)⟩
    · obtain ⟨j, hj, hitem⟩ := hinner.of_arr
      obtain ⟨f, hf, rfl⟩ := List.mem_map.mp hj
      have field : IsField fields ts f := .inr hf
      exact entry_of_single field (plain f field) (.inl (operand_ofLiteral v)) hitem
  | @relational op f v =>
    obtain ⟨j, hj, value⟩ := exists_comparison_toJson_eq op f v
    have field : IsField fields ts f := .inl (derives.fieldIn sub)
    rw [document, hj] at h
    exact entry_of_single field (plain f field) value h
  | @logical op ns two all ih =>
    rw [logical_toJson] at h
    rcases h.of_single with ⟨rfl, ho⟩ | hinner
    · exact ⟨_, _, ho, entry_logical two all sub⟩
    · obtain ⟨j, hj, hitem⟩ := hinner.of_arr
      obtain ⟨n, hn, rfl⟩ := List.mem_map.mp hj
      exact ih n hn (sub.of_argument hn) hitem

end Filter

/-- **Every object in a filter has one key**, which holds what belongs to it: an operator that
combines has an object for each argument of its function or for each field, one that compares has a
scalar or a date and stands alone under a field, and every other key is a field of the query or one
of those that are given. The filter is the one of the tree that the query is read as, and is such an
object itself. -/
theorem compileQuery_objects {fields : List String} {strict : Bool} {text : String}
    {doc : Document} (plain : ∀ f ∈ fields, f.toList.head? ≠ some '$')
    (h : compileQuery fields strict text = .ok doc) :
    ∃ ts rest n, Stream.ofText text = .prepend ts rest ∧ Derives ts n ∧
      ofNode fields n = .ok doc ∧ (∃ o, doc.toJson = .obj o) ∧
      ∀ under o, (Json.obj o).Occurs under none doc.toJson →
        ∃ key j, o = [(key, j)] ∧ Entry fields ts n under key j := by
  obtain ⟨n, hn, rfl⟩ := compileQuery_eq_ok_iff.mp h
  obtain ⟨ts, rest, hstream, hderives, -⟩ := parse_eq_ok_iff.mp hn
  have hplain : ∀ f, IsField fields ts f → f.toList.head? ≠ some '$' := by
    rintro f (hf | hf)
    · exact (hf.isName (Token.lexical_of_prepend hstream)).head_ne_dollar
    · exact plain f hf
  exact ⟨ts, rest, n, hstream, hderives, ofNode_eq_ok hderives.full fields,
    exists_toJson_eq_obj _, fun under o hocc =>
      entry_of_subtree hplain hderives hderives.full .self hocc⟩

/-- A comparison and a bare literal, of which one is compared with a field that is given. The object
of the comparison stands under the field of the query. -/
theorem compileQuery_objects_and :
    ∃ doc : Document, doc = .single "$and" (.array
        [.single "n" (.document (.single "$gt" (.int 1))),
          .single "$or" (.array [.single "title" (.string "y")])]) ∧
      compileQuery ["title"] true "and(gt(n,1),'y')" = .ok doc ∧
      (Json.obj [("$gt", .int 1)]).Occurs (some "n") none doc.toJson ∧
      ∃ ts rest n, Stream.ofText "and(gt(n,1),'y')" = .prepend ts rest ∧ Derives ts n ∧
        ofNode ["title"] n = .ok doc ∧ (∃ o, doc.toJson = .obj o) ∧
        ∀ under o, (Json.obj o).Occurs under none doc.toJson →
          ∃ key j, o = [(key, j)] ∧ Entry ["title"] ts n under key j := by
  have hand : Token.Lexeme (some .logicalOperator) ['a', 'n', 'd'] "(gt(n,1),'y')".toList :=
    .of_shape (by decide : String.ofList ['a', 'n', 'd'] ∈ _) (Token.stops_cons.mpr rfl)
  have hgt : Token.Lexeme (some .relationalOperator) ['g', 't'] "(n,1),'y')".toList :=
    .of_shape (by decide : String.ofList ['g', 't'] ∈ _) (Token.stops_cons.mpr rfl)
  have hfield : Token.Lexeme (some .identifier) ['n'] ",1),'y')".toList :=
    .of_shape ⟨'n', [], rfl, .inl rfl, List.all_eq_true.mp rfl, by decide⟩
      (Token.stops_cons.mpr rfl)
  have hnumber : Token.Lexeme (some .number) ['1'] "),'y')".toList :=
    .of_shape ⟨List.cons_ne_nil _ _, List.all_eq_true.mp rfl⟩ (Token.stops_cons.mpr rfl)
  have hstring : Token.Lexeme (some .string) ('\'' :: (['y'] ++ ['\''])) [')'] :=
    .string (.inr rfl) (by decide)
  have htiles : Token.Tiling "and(gt(n,1),'y')".toList _ [] :=
    .cons hand (.cons .openParen (.cons hgt (.cons .openParen (.cons hfield (.cons .comma
      (.cons hnumber (.cons .closeParen (.cons .comma (.cons hstring
        (.cons .closeParen .nil))))))))))
  have hscan : Stream.ofText "and(gt(n,1),'y')" = .prepend
      [⟨.logicalOperator, "and", 0⟩, ⟨.openParen, "(", 3⟩, ⟨.relationalOperator, "gt", 4⟩,
        ⟨.openParen, "(", 6⟩, ⟨.identifier, "n", 7⟩, ⟨.comma, ",", 8⟩, ⟨.number, "1", 9⟩,
        ⟨.closeParen, ")", 10⟩, ⟨.comma, ",", 11⟩, ⟨.string, "'y'", 12⟩, ⟨.closeParen, ")", 15⟩]
      (.finished 16) := Token.ofText_eq htiles Token.noLexeme_nil
  have hcomparison : Derives [⟨.relationalOperator, "gt", 4⟩, ⟨.openParen, "(", 6⟩,
      ⟨.identifier, "n", 7⟩, ⟨.comma, ",", 8⟩, ⟨.number, "1", 9⟩, ⟨.closeParen, ")", 10⟩]
      (.relational .gt "n" (.number 1)) :=
    .relational ⟨rfl, rfl⟩ rfl rfl rfl (.number rfl (by decide)) rfl
  have hliteral : Derives [⟨.string, "'y'", 12⟩] (.literal (.string "y")) :=
    .literal (.string rfl (.inr rfl) (by decide : "'y'".toList = '\'' :: (['y'] ++ ['\''])))
  have hderives := Derives.logical (o := ⟨.logicalOperator, "and", 0⟩) (l := ⟨.openParen, "(", 3⟩)
    (r := ⟨.closeParen, ")", 15⟩) ⟨rfl, (rfl : _ = LogOp.and.keyword)⟩ rfl
    (.two (c := ⟨.comma, ",", 11⟩) hcomparison rfl hliteral) rfl
  have hcompile : compileQuery ["title"] true "and(gt(n,1),'y')" = .ok _ :=
    compileQuery_eq_ok_iff.mpr
      ⟨_, parse_eq_ok_iff.mpr ⟨_, _, hscan, hderives, trivial⟩, rfl⟩
  have hoccurs : (Json.obj [("$gt", .int 1)]).Occurs (some "n") none (Document.single "$and" (.array
      [.single "n" (.document (.single "$gt" (.int 1))),
        .single "$or" (.array [.single "title" (.string "y")])])).toJson :=
    .field (List.mem_singleton_self _) (.item List.mem_cons_self
      (.field (List.mem_singleton_self _) .self))
  exact ⟨_, rfl, hcompile, hoccurs, compileQuery_objects (by decide) hcompile⟩

end DocFilter
