import NodeTelemetry.Text.Blank
import NodeTelemetry.Text.Width

/-!
# Tables drawn with lines

A table has a row of headings and rows of cells, drawn in a frame with round corners. A cell can
have several lines; its row is as high as the highest of its cells. A column is as wide as the
widest line in it, and each cell has one blank on both sides.
-/

namespace NodeTelemetry.Text.Table

/-- A cell as its lines. -/
abbrev Cell := List (List Char)

/-- The lines of a text. -/
def cell (s : String) : Cell := splitOn (· == '\n') s.toList

/-- The width of a cell. -/
def cellWidth (c : Cell) : Nat := (c.map width).foldl max 0

/-- The widths of the columns. -/
def widths (rows : List (List Cell)) : List Nat :=
  rows.foldl
    (fun ws row =>
      (List.range (max ws.length row.length)).map fun i =>
        max (ws.getD i 0) (cellWidth (row.getD i [])))
    []

/-- A line that fills a column. -/
def filled (w : Nat) (line : List Char) : List Char :=
  ' ' :: line ++ List.replicate (w - width line + 1) ' '

/-- The lines of a row between upright strokes. -/
def rowLines (ws : List Nat) (row : List Cell) : List (List Char) :=
  let height := (row.map List.length).foldl max 0
  (List.range height).map fun i =>
    '│' :: (List.intercalate ['│'] (row.zipWith (fun c w => filled w (c.getD i [])) ws) ++ ['│'])

/-- A line across the table, with its left end, its crossings and its right end. -/
def rule (left cross right : Char) (ws : List Nat) : List Char :=
  left :: (List.intercalate [cross] (ws.map fun w => List.replicate (w + 2) '─') ++ [right])

/-- A table with headings. -/
def draw (headings : List String) (rows : List (List String)) : String :=
  let head := headings.map cell
  let body := rows.map (·.map cell)
  let ws := widths (head :: body)
  let lines := rule '╭' '┬' '╮' ws :: rowLines ws head ++ rule '├' '┼' '┤' ws ::
    body.flatMap (rowLines ws) ++ [rule '╰' '┴' '╯' ws]
  String.ofList (List.intercalate ['\n'] lines)

end NodeTelemetry.Text.Table
