import DocFilter.Proofs.Query.Events
import DocFilter.Proofs.Query.FirstError

/-!
Which tokens reading pulls. It looks one token ahead, and so pulls at most one behind a query that
is complete and none behind a token that is refused.
-/

namespace DocFilter

open Token (Stream)

namespace Token.Stream

end Token.Stream

namespace Query

/-- `Pulled all r ts`: if `all` are the tokens of a text, up to a stray character, and reading it
has the result `r`, it pulls `ts`. -/
inductive Pulled (all : List Token) : Except Failure Node → List Token → Prop
  /-- The query, and the token behind it if there is one. -/
  | read {program back : List Token} {n : Node} (split : all = program ++ back)
      (derives : Derives program n) : Pulled all (.ok n) (program ++ back.take 1)
  | noTokens (none : all = []) : Pulled all (.error (.query .noTokens)) all
  | unexpectedCharacter {e : Token.Stray} :
      Pulled all (.error (.query (.unexpectedCharacter e))) all
  | unexpectedEnd {expected : Expected} {p : Nat} :
      Pulled all (.error (.query (.unexpectedEnd expected p))) all
  | unexpectedToken {front back : List Token} {t : Token} {expected : Expected}
      (split : all = front ++ t :: back) :
      Pulled all (.error (.query (.unexpectedToken t expected))) (front ++ [t])
  | trailingInput {front back : List Token} {t : Token} {n : Node}
      (split : all = front ++ t :: back) (derives : Derives front n) :
      Pulled all (.error (.query (.trailingInput t))) (front ++ [t])
  /-- Also the token behind a literal has been scanned when its value is asked for. -/
  | invalidLiteral {front back : List Token} {t : Token} {reason : Reason}
      (split : all = front ++ t :: back) :
      Pulled all (.error (.query (.invalidLiteral t.text reason t.offset)))
        (front ++ t :: back.take 1)

lemma Pulled.front {all ts : List Token} {r : Except Failure Node} (h : Pulled all r ts) :
    ts <+: all := by
  cases h with
  | read split => exact split ▸ (List.prefix_append_right_inj _).mpr (List.take_prefix 1 _)
  | noTokens => exact List.prefix_rfl
  | unexpectedCharacter => exact List.prefix_rfl
  | unexpectedEnd => exact List.prefix_rfl
  | unexpectedToken split => exact split ▸ ⟨_, List.append_assoc _ [_] _⟩
  | trailingInput split => exact split ▸ ⟨_, List.append_assoc _ [_] _⟩
  | invalidLiteral split =>
    refine split ▸ (List.prefix_append_right_inj _).mpr ?_
    exact List.cons_prefix_cons.mpr ⟨rfl, List.take_prefix 1 _⟩

namespace Parser

variable {strict : Bool}

end Parser

open Query.Parser

end Query

end DocFilter
