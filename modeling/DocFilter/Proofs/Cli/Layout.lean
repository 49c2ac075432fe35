import DocFilter.Cli.Program
import DocFilter.Proofs.Json.Blanks

/-!
The two layouts of an answer. Asking for one line changes the blanks outside of strings and nothing
else.
-/

namespace DocFilter.Cli

open Query (Traced)

lemma map_render {α : Type} (t : Traced α) (data : α → Json) :
    t.map (fun a => (data a).render true) =
      (t.map fun a => (data a).render false).map Json.unspaced := by
  rcases t with ⟨events, e | a⟩
  · rfl
  · simp [Traced.map, Except.map, Json.render, Json.unspaced_pretty]

/-- What becomes of an answer on one line: of JSON text the blanks outside of strings go. -/
def onOneLine : Command → String → String
  | .tokens _ false => id
  | _ => Json.unspaced

/-- **The layouts differ in blanks only.** If the spaces and line feeds outside of strings are
deleted from the pretty text of a filter, of a query or of tokens, what is left is the compact text.
So the answer to a command on one line is the usual one without those, and a table stays as it
is. -/
theorem unspaced_pretty_eq_compact :
    (∀ d : Filter.Document, Json.unspaced d.toJson.pretty = d.toJson.compact) ∧
    (∀ n : Query.Node, Json.unspaced n.programToJson.pretty = n.programToJson.compact) ∧
    (∀ ts : List Token, Json.unspaced (Token.listToJson ts).pretty =
      (Token.listToJson ts).compact) ∧
    (∀ c command, answer true c command = (answer false c command).map (onOneLine command)) := by
  refine ⟨fun d => Json.unspaced_pretty _, fun n => Json.unspaced_pretty _,
    fun ts => Json.unspaced_pretty _, fun c command => ?_⟩
  cases command with
  | compile query => exact map_render _ _
  | ast query => exact map_render _ _
  | tokens query json =>
    cases json with
    | true => exact map_render _ _
    | false =>
      rcases h : tokenizeTraced query with ⟨events, e | ts⟩
      · simp [answer, Traced.map, Except.map, h]
      · simp [answer, onOneLine, Traced.map, Except.map, h]

end DocFilter.Cli
