import DocFilter.Proofs.Log.Records
import DocFilter.Proofs.Query.Preorder
import DocFilter.Proofs.Query.Run

/-!
The events of a run. A function is announced when the token behind its operator is scanned, so that
the functions of a tree are announced in pre-order.
-/

namespace DocFilter.Query

open Token (Stream)

namespace Node

/-- What is announced of a node by itself. -/
def entering? : Node → Option Event
  | literal _ => none
  | relational op _ _ => some (.enteringRelational op)
  | logical op _ => some (.enteringLogical op)

/-- What is announced of a tree: its functions in pre-order. -/
def entries (n : Node) : List Event := n.preorder.filterMap entering?

def entriesIn (ns : List Node) : List Event := (preorderIn ns).filterMap entering?

@[simp] lemma entries_literal (v : Literal) : (literal v).entries = [] := rfl

@[simp] lemma entries_relational (op : RelOp) (f : String) (v : Literal) :
    (relational op f v).entries = [.enteringRelational op] := rfl

@[simp] lemma entries_logical (op : LogOp) (ns : List Node) :
    (logical op ns).entries = .enteringLogical op :: entriesIn ns := rfl

@[simp] lemma entriesIn_nil : entriesIn [] = [] := rfl

lemma entriesIn_concat (ns : List Node) (n : Node) :
    entriesIn (ns ++ [n]) = entriesIn ns ++ n.entries := by
  rw [entriesIn, preorderIn_append, List.filterMap_append]
  simp [entriesIn, entries, preorderIn]

end Node

namespace Parser

/-- What has been announced of the functions around an expression. -/
def enteredAround : List Frame → List Event
  | [] => []
  | ⟨op, ns⟩ :: outer => enteredAround outer ++ .enteringLogical op :: Node.entriesIn ns.reverse

/-- What has been announced of the innermost function. -/
def Mode.entered : Mode → List Event
  | .expression => []
  | .openRelational _ => []
  | .openLogical _ => []
  | .field op => [.enteringRelational op]
  | .comma op _ => [.enteringRelational op]
  | .value op _ => [.enteringRelational op]
  | .close op _ _ => [.enteringRelational op]
  | .argument op ns => .enteringLogical op :: Node.entriesIn ns.reverse

/-- What has been announced on the way to a state. -/
def State.entered : State → List Event
  | .reading mode outer => enteredAround outer ++ mode.entered
  | .complete n => n.entries

@[simp] lemma entered_reading (mode : Mode) (outer : List Frame) :
    (State.reading mode outer).entered = enteredAround outer ++ mode.entered := rfl

@[simp] lemma entered_attach (n : Node) (outer : List Frame) :
    (attach n outer).entered = enteredAround outer ++ n.entries := by
  cases outer with
  | nil => rfl
  | cons frame outer =>
    simp [attach, Mode.entered, enteredAround, Node.entriesIn_concat]

variable {strict : Bool}

lemma announced_isEntering (s : State) : ∀ e ∈ s.announced, e.isEntering = true := by
  rcases s with ⟨mode, outer⟩ | n
  · cases mode <;> simp [State.announced, Event.isEntering]
  · simp [State.announced]

@[simp] lemma filter_isEntering_announced (s : State) :
    s.announced.filter Event.isEntering = s.announced :=
  List.filter_eq_self.mpr (announced_isEntering s)

end Parser

end DocFilter.Query
