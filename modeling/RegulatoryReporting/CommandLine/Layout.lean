import RegulatoryReporting.CommandLine.Execution

/-!
# Layout

How blocks become lines of text. The columns of a table are as wide as their widest cell,
rules are drawn around the table and under its header, and a line break inside a cell
becomes a blank.
-/

namespace RegulatoryReporting

/-- A cell on one line. -/
def cellLine (cell : String) : String := cell.map fun c => if c == '\n' then ' ' else c

/-- The widths of columns that hold the given rows. -/
def columnWidths (rows : List (List String)) : List Nat :=
  rows.foldl
    (fun widths row =>
      let lengths := row.map (·.length)
      (List.range (max widths.length lengths.length)).map fun i =>
        max (widths.getD i 0) (lengths.getD i 0))
    []

/-- A cell padded with blanks to a width. -/
def padded (width : Nat) (cell : String) : String :=
  cell ++ String.ofList (List.replicate (width - cell.length) ' ')

/-- A row between its borders. -/
def rowLine (widths : List Nat) (row : List String) : String :=
  let cells := widths.zipIdx.map fun (width, i) => padded width (row.getD i "")
  "│ " ++ String.intercalate " ┆ " cells ++ " │"

/-- A rule across a table. -/
def ruleLine (left cross right : String) (dash : Char) (widths : List Nat) : String :=
  let dashes := widths.map fun width => String.ofList (List.replicate (width + 2) dash)
  left ++ String.intercalate cross dashes ++ right

/-- The lines of a table. -/
def tableLines (rows : List (List String)) : List String :=
  let rows := rows.map fun row => row.map cellLine
  let widths := columnWidths rows
  match rows with
  | [] => []
  | header :: body =>
    [ruleLine "╭" "┬" "╮" '─' widths, rowLine widths header,
      ruleLine "╞" "╪" "╡" '═' widths] ++ body.map (rowLine widths) ++
      [ruleLine "╰" "┴" "╯" '─' widths]

/-- The lines of a block. -/
def Block.lines : Block → List String
  | line text => [text]
  | table rows => tableLines rows

/-- The lines of what is shown. -/
def Shown.lines : Shown → List String
  | blocks parts => parts.flatMap (·.lines)
  | json value => [value.printIndented 0]

end RegulatoryReporting
