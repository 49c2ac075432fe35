import DocFilter.Filter.Document
import DocFilter.Proofs.Query.Tree
import DocFilter.Proofs.Time.Instant

/-!
What queries and filters say of a record.

A record gives each field a content, and `holds op content value` says that the content compares
with a value as an operator asks. Nothing more is fixed of either. Of a date a comparison sees the
instant alone.
-/

namespace DocFilter

/-- What the content of a field is compared with. -/
inductive Comparand
  | number (n : Int)
  | string (s : String)
  | boolean (b : Bool)
  | instant (i : Instant)

open Query

variable {Content : Type*} (holds : RelOp → Content → Comparand → Prop)
  (record : String → Content)

/-! ### Queries -/

namespace Query

def Literal.comparand : Literal → Comparand
  | number n => .number n
  | string s => .string s
  | boolean b => .boolean b
  | date t => .instant t.instant

/-- What a query says of a record. A bare literal is looked for in the given fields. -/
inductive Node.Means (fields : List String) : Node → Prop
  | literal {v : Literal} {f : String} (mem : f ∈ fields)
      (field : holds .eq (record f) v.comparand) : Means fields (.literal v)
  | relational {op : RelOp} {f : String} {v : Literal}
      (field : holds op (record f) v.comparand) : Means fields (.relational op f v)
  | and {ns : List Node} (all : ∀ n ∈ ns, Means fields n) : Means fields (.logical .and ns)
  | or {ns : List Node} {n : Node} (mem : n ∈ ns) (any : Means fields n) :
      Means fields (.logical .or ns)

end Query

/-! ### Filters -/

namespace Filter

def Value.comparand? : Value → Option Comparand
  | .int n => some (.number n)
  | .string s => some (.string s)
  | .bool b => some (.boolean b)
  | .date utc => some (.instant utc.instant)
  | .document _ => none
  | .array _ => none

/-- The comparison that a key of a nested document asks for. -/
def comparison? : String → Option RelOp
  | "$ne" => some .ne
  | "$gt" => some .gt
  | "$gte" => some .ge
  | "$lt" => some .lt
  | "$lte" => some .le
  | _ => none

mutual

/-- What a filter says of a record: all its pairs hold. -/
inductive Document.Holds : Document → Prop
  | intro {d : Document} (all : ∀ p ∈ d.fields, PairHolds p.1 p.2) : Document.Holds d

inductive PairHolds : String → Value → Prop
  | and {key : String} {ds : List Document} (isAnd : key = "$and")
      (all : ∀ d ∈ ds, Document.Holds d) : PairHolds key (.array ds)
  | or {key : String} {ds : List Document} {d : Document} (isOr : key = "$or") (mem : d ∈ ds)
      (any : Document.Holds d) : PairHolds key (.array ds)
  | comparisons {f : String} {d : Document}
      (all : ∀ p ∈ d.fields, ∃ op v, comparison? p.1 = some op ∧ p.2.comparand? = some v ∧
        holds op (record f) v) : PairHolds f (.document d)
  | equal {f : String} {value : Value} {v : Comparand} (isScalar : value.comparand? = some v)
      (field : holds .eq (record f) v) : PairHolds f value

end

/-! ### One pair at a time -/

section

variable {holds : RelOp → Content → Comparand → Prop} {record : String → Content}

lemma holds_single {key : String} {value : Value} :
    Document.Holds holds record (.single key value) ↔ PairHolds holds record key value := by
  constructor
  · rintro ⟨all⟩
    exact all (key, value) (by simp [Document.single])
  · intro h
    exact ⟨by simpa [Document.single] using h⟩

lemma pairHolds_and {ds : List Document} :
    PairHolds holds record LogOp.and.symbol (.array ds) ↔ ∀ d ∈ ds, d.Holds holds record := by
  constructor
  · rintro (⟨-, all⟩ | ⟨isOr, -, -⟩ | - | ⟨isScalar, -⟩)
    · exact all
    · exact absurd isOr (by decide)
    · cases isScalar
  · exact .and rfl

lemma pairHolds_or {ds : List Document} :
    PairHolds holds record LogOp.or.symbol (.array ds) ↔ ∃ d ∈ ds, d.Holds holds record := by
  constructor
  · rintro (⟨isAnd, -⟩ | ⟨-, mem, any⟩ | - | ⟨isScalar, -⟩)
    · exact absurd isAnd (by decide)
    · exact ⟨_, mem, any⟩
    · cases isScalar
  · rintro ⟨d, mem, any⟩
    exact .or rfl mem any

lemma pairHolds_scalar {f : String} {value : Value} {v : Comparand}
    (hv : value.comparand? = some v) :
    PairHolds holds record f value ↔ holds .eq (record f) v := by
  constructor
  · rintro (- | - | - | ⟨isScalar, field⟩)
    · cases hv
    · cases hv
    · cases hv
    · rw [hv] at isScalar
      cases isScalar
      exact field
  · exact .equal hv

lemma pairHolds_comparison {f symbol : String} {op : RelOp} {value : Value} {v : Comparand}
    (hop : comparison? symbol = some op) (hv : value.comparand? = some v) :
    PairHolds holds record f (.document (.single symbol value)) ↔ holds op (record f) v := by
  constructor
  · rintro (- | - | ⟨all⟩ | ⟨isScalar, -⟩)
    · obtain ⟨op', v', hop', hv', field⟩ := all (symbol, value) (by simp [Document.single])
      rw [hop] at hop'
      rw [hv] at hv'
      cases hop'
      cases hv'
      exact field
    · cases isScalar
  · intro field
    refine .comparisons fun p hp => ?_
    obtain rfl : p = (symbol, value) := by simpa [Document.single] using hp
    exact ⟨op, v, hop, hv, field⟩

end

end Filter

end DocFilter
