import BootSnapshot.Text.Pieces
import BootSnapshot.Text.Width

set_option autoImplicit false

namespace BootSnapshot.Report

def cellLines (cell : String) : List String := Text.split '\n' cell

def cellWidth (cell : String) : Nat := ((cellLines cell).map Text.width).foldl max 0

/-- The text of a line of a cell, with the blanks around it. -/
def padded (width : Nat) (text : String) : String :=
  " " ++ text ++ String.ofList (List.replicate (width - Text.width text) ' ') ++ " "

/-- The widths of the columns of rows, as many as the widest row has. -/
def columnWidths (rows : List (List String)) : List Nat :=
  let columns := (rows.map List.length).foldl max 0
  (List.range columns).map fun column =>
    (rows.map fun row => cellWidth (row.getD column "")).foldl max 0

def rowLine (widths : List Nat) (row : List String) (height : Nat) : String :=
  let cells := widths.zipIdx.map fun (width, column) =>
    padded width ((cellLines (row.getD column "")).getD height "")
  "│" ++ " ".intercalate cells ++ "│"

/-- The lines of a row, as many as its highest cell has. -/
def rowLines (widths : List Nat) (row : List String) : List String :=
  let height := (row.map fun cell => (cellLines cell).length).foldl max 1
  (List.range height).map (rowLine widths row)

def rule (left : String) (line : Char) (right : String) (widths : List Nat) : String :=
  let length := widths.foldl (fun total width => total + width + 2) 0 + (widths.length - 1)
  left ++ String.ofList (List.replicate length line) ++ right

/-- Columns are as wide as their widest cell, with a blank on both sides and one more between
columns. A frame runs around the table, and a double line sets off the header. -/
def table (header : List String) (rows : List (List String)) : String :=
  let widths := columnWidths (header :: rows)
  Text.lines ([rule "┌" '─' "┐" widths] ++ rowLines widths header ++
    [rule "╞" '═' "╡" widths] ++ rows.flatMap (rowLines widths) ++ [rule "└" '─' "┘" widths])

end BootSnapshot.Report
