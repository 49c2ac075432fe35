import DocFilter.Proofs.Text.Numeral
import DocFilter.Query.Event
import Mathlib.Data.List.DropRight

/-!
Which event a record of the log is of, told by the words its message starts with.
-/

namespace DocFilter

namespace Query.Event

def isScanned : Event → Bool
  | scanned _ => true
  | _ => false

def isEntering : Event → Bool
  | enteringRelational _ => true
  | enteringLogical _ => true
  | _ => false

def isParsed : Event → Bool
  | parsed _ => true
  | _ => false

@[simp] lemma isScanned_scanned (t : Token) : (scanned t).isScanned = true := rfl

@[simp] lemma isEntering_scanned (t : Token) : (scanned t).isEntering = false := rfl

@[simp] lemma isParsed_scanned (t : Token) : (scanned t).isParsed = false := rfl

end Query.Event

end DocFilter
