/-!
# Tables

A table is a header and rows of cells. Where there is no terminal whose width it would have to keep
to, it is drawn like this, in a box: a solid border, a double line under the header, dashed lines
between rows and between columns. Cells stand to the left of their column with a space on either
side, and a column is as wide as its widest cell.
-/

namespace RadioLink.Text

/-- A table of cells. A row that is shorter than the header is filled up with empty cells. -/
structure Table where
  /-- The names of the columns. -/
  header : List String
  /-- The rows below the header. -/
  rows : List (List String)

namespace Table

/-- The characters of a line that runs across a table. -/
structure Rule where
  /-- The left end. -/
  left : Char
  /-- The stretch of one column. -/
  fill : Char
  /-- The crossing between two columns. -/
  cross : Char
  /-- The right end. -/
  right : Char

/-- The line above the header. -/
def top : Rule := ⟨'┌', '─', '┬', '┐'⟩

/-- The line under the header. -/
def double : Rule := ⟨'╞', '═', '╪', '╡'⟩

/-- The line between two rows. -/
def dashed : Rule := ⟨'├', '╌', '┼', '┤'⟩

/-- The line under the last row. -/
def bottom : Rule := ⟨'└', '─', '┴', '┘'⟩

/-- The width of each column without the space around its cells. -/
def widths (t : Table) : List Nat :=
  t.header.zipIdx.map fun (name, i) =>
    t.rows.foldl (fun width row => max width (row.getD i "").length) name.length

/-- A line across a table. -/
def Rule.render (rule : Rule) (widths : List Nat) : String :=
  let stretches := widths.map fun width => String.ofList (List.replicate (width + 2) rule.fill)
  rule.left.toString ++ rule.cross.toString.intercalate stretches ++ rule.right.toString

/-- A cell that fills its column. -/
def renderCell (width : Nat) (cell : String) : String :=
  " " ++ cell ++ String.ofList (List.replicate (width - cell.length) ' ') ++ " "

/-- A row of cells. -/
def renderRow (widths : List Nat) (row : List String) : String :=
  let cells := widths.zipIdx.map fun (width, i) => renderCell width (row.getD i "")
  "│" ++ "┆".intercalate cells ++ "│"

/-- The lines of a table. -/
def lines (t : Table) : List String :=
  let widths := t.widths
  let rows := (t.rows.map (renderRow widths)).intersperse (dashed.render widths)
  top.render widths :: renderRow widths t.header :: double.render widths ::
    (rows ++ [bottom.render widths])

/-- The text of a table that may be as wide as it needs to be, without a line break after the last
line. -/
def render (t : Table) : String :=
  "\n".intercalate t.lines

end Table

end RadioLink.Text
