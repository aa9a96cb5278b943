import StoryScript.Text.Width

/-! Tables of cells, drawn with lines. Every column is as wide as its widest cell, with a space on
both sides. -/
namespace StoryScript.CommandLine

structure Grid where
  header : List String
  rows : List (List String)

namespace Grid

def cellWidth (cell : String) : Nat := max 1 (Text.displayWidth cell.toList)

def widths (grid : Grid) : List Nat :=
  grid.rows.foldl (fun widths row => widths.zipWith max (row.map cellWidth))
    (grid.header.map cellWidth)

/-- A line between rows: its left end, what it is drawn with, its crossings and its right end. -/
def rule (left stroke crossing right : String) (widths : List Nat) : String :=
  let strokes (width : Nat) : String := "".intercalate (List.replicate (width + 2) stroke)
  left ++ crossing.intercalate (widths.map strokes) ++ right

def cell (width : Nat) (text : String) : String :=
  " " ++ text ++ String.ofList (List.replicate (width - Text.displayWidth text.toList) ' ') ++ " "

def row (widths : List Nat) (cells : List String) : String :=
  "│" ++ "┆".intercalate (widths.zipWith cell cells) ++ "│"

def lines (grid : Grid) : List String :=
  let widths := grid.widths
  [rule "┌" "─" "┬" "┐" widths, row widths grid.header, rule "╞" "═" "╪" "╡" widths] ++
    (grid.rows.map (row widths)).intersperse (rule "├" "╌" "┼" "┤" widths) ++
    [rule "└" "─" "┴" "┘" widths]

def render (grid : Grid) : String := "\n".intercalate grid.lines

end Grid

end StoryScript.CommandLine
