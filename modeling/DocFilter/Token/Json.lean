import DocFilter.Json.Reader
import DocFilter.Token.Basic

/-!
Tokens as JSON: an object with the fields `kind`, `text` and `offset`. It is read with the fields
in any order and with further fields between them, or as an array of the three values.
-/

namespace DocFilter.Token

open Json (Written)

def toJson (t : Token) : Json :=
  .obj [("kind", .str t.kind.name), ("text", .str t.text), ("offset", .int t.offset)]

def listToJson (ts : List Token) : Json := .arr (ts.map toJson)

/-- A kind is its name, or an object with that name for its only key and nothing as value. -/
def readKind? : Written → Option Kind
  | .string (some name) => Kind.ofName? name
  | .object [(some name, .null)] => Kind.ofName? name
  | _ => none

def readText? : Written → Option String
  | .string s => s
  | _ => none

/-- One more than the largest offset, which has 64 bits. -/
def offsetBound : Nat := 0x10000000000000000

/-- An offset is written without sign, point or exponent. -/
def readOffset? : Written → Option Nat
  | .number false digits true =>
    let n := Text.decimalValue digits
    if n < offsetBound then some n else none
  | _ => none

def ofParts? (kind text offset : Written) : Option Token := do
  pure ⟨← readKind? kind, ← readText? text, ← readOffset? offset⟩

def ofWritten? : Written → Option Token
  | .array [kind, text, offset] => ofParts? kind text offset
  | .object fields =>
    if fields.all (·.1.isSome) then do
      ofParts? (← Written.unique? "kind" fields) (← Written.unique? "text" fields)
        (← Written.unique? "offset" fields)
    else none
  | _ => none

/-- The token that a JSON text denotes. -/
def ofJson? (text : String) : Option Token := Written.ofText? text >>= ofWritten?

end DocFilter.Token
