import DocFilter.Proofs.Filter.Arity
import DocFilter.Proofs.Filter.NoDefect
import DocFilter.Proofs.Query.Pulled

/-!
The log of a query that is read and compiled shows what happens: the tokens that are pulled, the
functions of the tree, whether it was read, and the bare literals that nothing is compared with.
-/

namespace DocFilter

open Query Query.Parser
open Token (Stream)

/-! ### What is logged of reading -/

namespace Query

variable {strict : Bool} {text : String}

end Query

/-! ### What is logged of compiling -/

namespace Query.Node

def isLiteral : Node → Bool
  | literal _ => true
  | _ => false

end Query.Node

namespace Filter

/-- What a node adds to the bare literals met, unless it is refused. -/
def meet (met : Nat) (m : Node) : Except Nat Nat :=
  if m.tooFew?.isSome then .error met else .ok (met + if m.isLiteral then 1 else 0)

mutual

/-- Bare literals are met in pre-order. -/
theorem countLiterals_eq : ∀ (met : Nat) (n : Node),
    countLiterals met n = n.preorder.foldlM meet met
  | met, .literal v => rfl
  | met, .relational op f v => rfl
  | met, .logical op ns => by
    rw [countLiterals, Node.preorder, List.foldlM_cons, meet, Node.tooFew?]
    by_cases few : ns.length < 2
    · rw [if_pos few, if_pos few]
      rfl
    · rw [if_neg few, if_neg few, countLiteralsIn_eq met ns]
      rfl

theorem countLiteralsIn_eq : ∀ (met : Nat) (ns : List Node),
    countLiteralsIn met ns = (Node.preorderIn ns).foldlM meet met
  | met, [] => rfl
  | met, n :: ns => by
    rw [countLiteralsIn, Node.preorderIn, List.foldlM_append, countLiterals_eq met n]
    congr 1
    funext met'
    exact countLiteralsIn_eq met' ns

end

/-- The nodes that compiling a query goes through: those in front of the first one refused. -/
def visited (n : Node) : List Node := n.preorder.takeWhile (·.tooFew?.isNone)

/-- The number of warnings: one for each bare literal met, if there are no fields. -/
def warnings (fields : List String) (n : Node) : Nat :=
  if fields = [] then (visited n).countP Node.isLiteral else 0

example : (compileTraced [] (.logical .and
    [.literal (.number 1), .logical .or [], .literal (.number 2)])).events = [.noFields] := rfl

end Filter

/-! ### The whole log -/

section

variable {fields : List String} {strict : Bool} {text : String}

end

end DocFilter
