import DocFilter.Json.Basic
import DocFilter.Time.Rfc3339

/-!
Filter documents: lists of keys with values. The order of the keys counts, and a key may occur
more than once.
-/

namespace DocFilter.Filter

mutual

inductive Value
  | document (d : Document)
  | array (items : List Document)
  | string (s : String)
  | int (n : Int)
  | bool (b : Bool)
  /-- An instant, as a time in UTC. -/
  | date (utc : Civil)

structure Document where
  fields : List (String × Value)

end

namespace Document

def empty : Document := ⟨[]⟩

def single (key : String) (value : Value) : Document := ⟨[(key, value)]⟩

/-- Adds a key at the end, also when there is one of that name. -/
def insert (d : Document) (key : String) (value : Value) : Document :=
  ⟨d.fields ++ [(key, value)]⟩

/-- The first value with a key. -/
def get? (d : Document) (key : String) : Option Value :=
  (d.fields.find? (·.1 = key)).map (·.2)

def keys (d : Document) : List String := d.fields.map (·.1)

def size (d : Document) : Nat := d.fields.length

def isEmpty (d : Document) : Bool := d.fields.isEmpty

end Document

mutual

def Value.beq : Value → Value → Bool
  | .document d, .document e => d.beq e
  | .array ds, .array es => Document.beqItems ds es
  | .string s, .string t => s = t
  | .int m, .int n => m = n
  | .bool a, .bool b => a = b
  | .date s, .date t => s = t
  | _, _ => false

def Document.beq : Document → Document → Bool
  | ⟨fs⟩, ⟨gs⟩ => Document.beqFields fs gs

def Document.beqItems : List Document → List Document → Bool
  | [], [] => true
  | d :: ds, e :: es => d.beq e && Document.beqItems ds es
  | _, _ => false

def Document.beqFields : List (String × Value) → List (String × Value) → Bool
  | [], [] => true
  | (k, v) :: fs, (l, w) :: gs => k = l && v.beq w && Document.beqFields fs gs
  | _, _ => false

end

mutual

theorem Value.beq_iff : ∀ v w : Value, v.beq w = true ↔ v = w
  | .document d, w => by cases w <;> simp [Value.beq, Document.beq_iff d]
  | .array ds, w => by cases w <;> simp [Value.beq, Document.beqItems_iff ds]
  | .string s, w => by cases w <;> simp [Value.beq]
  | .int n, w => by cases w <;> simp [Value.beq]
  | .bool b, w => by cases w <;> simp [Value.beq]
  | .date t, w => by cases w <;> simp [Value.beq]

theorem Document.beq_iff : ∀ d e : Document, d.beq e = true ↔ d = e
  | ⟨fs⟩, ⟨gs⟩ => by simp [Document.beq, Document.beqFields_iff fs gs]

theorem Document.beqItems_iff : ∀ ds es : List Document, Document.beqItems ds es = true ↔ ds = es
  | [], es => by cases es <;> simp [Document.beqItems]
  | d :: ds, es => by
    cases es <;> simp [Document.beqItems, Document.beq_iff d, Document.beqItems_iff ds]

theorem Document.beqFields_iff :
    ∀ fs gs : List (String × Value), Document.beqFields fs gs = true ↔ fs = gs
  | [], gs => by cases gs <;> simp [Document.beqFields]
  | (k, v) :: fs, [] => by simp [Document.beqFields]
  | (k, v) :: fs, (l, w) :: gs => by
    simp [Document.beqFields, Value.beq_iff v w, Document.beqFields_iff fs gs]

end

instance : DecidableEq Document := fun d e => decidable_of_iff _ (Document.beq_iff d e)

instance : DecidableEq Value := fun v w => decidable_of_iff _ (Value.beq_iff v w)

mutual

def Value.toJson : Value → Json
  | .document d => d.toJson
  | .array items => .arr (Document.listToJson items)
  | .string s => .str s
  | .int n => .int n
  | .bool b => .bool b
  | .date utc => .single "$date" (.str utc.toUtcText)

def Document.toJson : Document → Json
  | ⟨fields⟩ => .obj (Document.fieldsToJson fields)

def Document.listToJson : List Document → List Json
  | [] => []
  | d :: ds => d.toJson :: Document.listToJson ds

def Document.fieldsToJson : List (String × Value) → List (String × Json)
  | [] => []
  | (key, v) :: fields => (key, v.toJson) :: Document.fieldsToJson fields

end

end DocFilter.Filter
