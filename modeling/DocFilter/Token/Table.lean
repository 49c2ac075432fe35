import DocFilter.Text.Width
import DocFilter.Token.Basic

/-!
Tokens as a table in a frame of ASCII characters. A cell whose text has several lines is as many
lines high; a column is as wide as its widest line.
-/

namespace DocFilter.Token

open Text

namespace Table

/-- A row of cells. -/
abbrev Row := List String

def linesOf (cell : String) : List (List Char) := (cell.splitOn "\n").map (·.toList)

def cellWidth (cell : String) : Nat := ((linesOf cell).map width).foldl max 0

/-- The widths of the columns of some rows, which are all as long as the first. -/
def widths : List Row → List Nat
  | [] => []
  | row :: rows => rows.foldl (fun ws r => ws.zipWith max (r.map cellWidth)) (row.map cellWidth)

/-- A cell with a blank on both sides, filled up to its width. -/
def fill (w : Nat) (text : List Char) : List Char :=
  ' ' :: (text ++ List.replicate (w - width text) ' ') ++ [' ']

/-- Pieces with a mark before, between and after them. -/
def framed (edge : Char) (joint : Char) (pieces : List (List Char)) : List Char :=
  edge :: ([joint].intercalate pieces ++ [edge])

/-- The line of a frame between rows. -/
def rule (edge joint mark : Char) (ws : List Nat) : List Char :=
  framed edge joint (ws.map fun w => List.replicate (w + 2) mark)

def rowLines (ws : List Nat) (row : Row) : List (List Char) :=
  let cells := row.map linesOf
  let height := (cells.map (·.length)).foldl max 0
  (List.range height).map fun i =>
    framed '|' '|' (ws.zipWith (fun w cell => fill w (cell[i]?.getD [])) cells)

/-- A table with its first row as the heading. -/
def render (heading : Row) (rows : List Row) : String :=
  let ws := widths (heading :: rows)
  let top := rule '+' '+' '-' ws
  let body := (rows.map (rowLines ws)).intersperse [rule '|' '+' '-' ws]
  let lines := [top] ++ rowLines ws heading ++ [rule '+' '=' '=' ws] ++ body.flatten ++ [top]
  "\n".intercalate (lines.map String.ofList)

end Table

/-- Tokens as rows, numbered from zero. -/
def table (ts : List Token) : String :=
  Table.render ["#", "Kind", "Text", "Offset"]
    (ts.zipIdx.map fun (t, i) => [toString i, t.kind.display, t.text, toString t.offset])

end DocFilter.Token
