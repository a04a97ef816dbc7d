import FieldCode.Number.Format
import FieldCode.Table.Line
import FieldCode.Table.Markup

/-!
# Tables

A table has columns with headings and rows of cells.  Each column is as wide as the widest text in it
and two blanks more, which part it from the next column; if the columns need more places than a line
has, the widest ones give way.  A cell whose text does not fit its column is divided into lines, and the
other cells of its row end in blank lines.

The cells are texts with markup, so a table is printed only if the markup of every cell is sound.
-/

namespace FieldCode

/-- A column of a table. -/
structure Column where
  /-- What stands above the cells. -/
  heading : Text
  /-- The cells end at the same place, instead of starting at it. -/
  alignsRight : Bool
  deriving DecidableEq, Repr

/-- A table; each row has a cell for each column. -/
structure Table where
  /-- The columns. -/
  columns : List Column
  /-- The rows. -/
  rows : List (List Text)
  deriving DecidableEq, Repr

namespace Table

/-- The blanks behind each cell. -/
def gap : Nat :=
  2

/-! ## Widths of columns -/

/-- The places that columns take together. -/
def total (ws : List Nat) : Nat :=
  ws.foldl (· + ·) 0

/-- Takes `excess` off the columns of the width `widest`, of which `count` are left, in equal shares of
at most `most`. -/
def lowered (widest most : Nat) (excess count : Nat) : List Nat → List Nat
  | [] => []
  | w :: ws =>
    if w = widest then
      let share := min most (nearestEven (excess / count)).toNat
      (w - share) :: lowered widest most (excess - share) (count - 1) ws
    else w :: lowered widest most excess count ws

/-- Widths that fit a line: the widest columns are lowered to the next width below theirs until all fit.
Every turn takes something off, so there are no more turns than places. -/
def fitted (places : Nat) : Nat → List Nat → List Nat
  | 0, ws => ws
  | fuel + 1, ws =>
    let excess := total ws - places
    if excess = 0 then ws
    else
      let widest := ws.foldl max 0
      let second := (ws.filter (· != widest)).foldl max 0
      fitted places fuel
        (lowered widest (min excess (widest - second)) excess (ws.count widest) ws)

/-- The widths of columns with some rooms for their texts. -/
def widths (places : Nat) (rooms : List Nat) : List Nat :=
  let ws := rooms.map fun n => min places (n + gap)
  fitted places (total ws) ws

/-- The room that each column needs. -/
def rooms (t : Table) : List Nat :=
  t.rows.foldl (fun ws row => List.zipWith (fun w cell => max w (Text.room cell)) ws row)
    (t.columns.map fun c => Text.room c.heading)

/-! ## Rows -/

/-- The lines of a cell, all as wide as its column. -/
def block (c : Column) (width : Nat) (cell : Text) : List Text :=
  (Text.wrapped (width - gap) false cell).map fun line =>
    (if c.alignsRight then Text.filledLeft else Text.filledRight) (width - gap) line ++
      Text.blanks gap

/-- Blocks of some widths side by side, the short ones with blank lines below them. -/
def beside (blocks : List (Nat × List Text)) : List Text :=
  (List.range ((blocks.map fun b => b.2.length).foldl max 0)).map fun i =>
    blocks.flatMap fun b => b.2[i]?.getD (Text.blanks b.1)

/-- The lines of a row. -/
def rowLines (columns : List Column) (ws : List Nat) (row : List Text) : List Text :=
  beside (List.zipWith (fun (c, w) cell => (w, block c w cell)) (columns.zip ws) row)

/-- The lines of a table of plain texts. -/
def lines (places : Nat) (t : Table) : List Text :=
  let ws := widths places t.rooms
  ((t.columns.map Column.heading) :: t.rows).flatMap (rowLines t.columns ws)

/-! ## Printing -/

/-- The plain texts that some texts with markup are printed as. -/
def printedCells : List Text → Except Text.MarkupFault (List Text)
  | [] => .ok []
  | cell :: cells =>
    match Text.printed cell with
    | .error e => .error e
    | .ok cell => (printedCells cells).map (cell :: ·)

/-- The rows with all cells printed. -/
def printedRows : List (List Text) → Except Text.MarkupFault (List (List Text))
  | [] => .ok []
  | row :: rows =>
    match printedCells row with
    | .error e => .error e
    | .ok row => (printedRows rows).map (row :: ·)

/-- The text of a table on lines of some places. -/
def toText (places : Nat) (t : Table) : Except Text.MarkupFault Text :=
  (printedRows t.rows).map fun rows =>
    (lines places { t with rows := rows }).flatMap fun line => line ++ "\n"

end Table

/-- A text with markup on lines of some places. -/
def Text.paragraph (places : Nat) (t : Text) : Except Text.MarkupFault Text :=
  (Text.printed t).map fun t =>
    (Text.wrapped places true t).flatMap fun line =>
      (if places < Text.width line then Text.cut places line else line) ++ "\n"

end FieldCode
