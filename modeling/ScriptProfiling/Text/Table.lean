import ScriptProfiling.Text.Wrapping

/-!
# Tables

A table is drawn in a box, its head with heavy lines, and its title stands over it.
Every column is as wide as its widest cell and has a blank on both sides.
-/
namespace ScriptProfiling

structure Column where
  title : String
  alignment : Alignment
  deriving DecidableEq, Repr

structure Table where
  title : String
  columns : List Column
  rows : List (List String)

namespace Table

/-- The characters of a horizontal line or a row: the ends, the place between two
columns, and what fills a horizontal line. -/
structure Stroke where
  first : Char
  fill : Char
  between : Char
  last : Char

def topStroke : Stroke := ⟨'┏', '━', '┳', '┓'⟩
def headRow : Stroke := ⟨'┃', ' ', '┃', '┃'⟩
def headStroke : Stroke := ⟨'┡', '━', '╇', '┩'⟩
def bodyRow : Stroke := ⟨'│', ' ', '│', '│'⟩
def bottomStroke : Stroke := ⟨'└', '─', '┴', '┘'⟩

def joinCells (s : Stroke) (cells : List (List Char)) : List Char :=
  s.first :: [s.between].intercalate cells ++ [s.last]

def rule (s : Stroke) (widths : List Nat) : List Char :=
  joinCells s (widths.map fun w => List.replicate (w + 2) s.fill)

/-- The widths of the lines of a cell. More characters end a line here than where a cell is
broken into lines. -/
def lineWidths (cell : String) : List Nat := (scriptLines cell.toList).map textWidth

/-- The widths of the columns without the blanks at their sides. -/
def widths (t : Table) : List Nat :=
  t.columns.zipIdx.map fun c =>
    let cells := c.1.title :: t.rows.map fun row => (row[c.2]?).getD ""
    (cells.flatMap lineWidths).foldl max 0

/-- The width of the box. -/
def width (t : Table) : Nat := t.widths.foldl (fun total w => total + w + 3) 1

def cellLines (a : Alignment) (width : Nat) (cell : String) : List (List Char) :=
  (wrapLines width cell.toList).map (align a width)

/-- The lines of one row; a cell with fewer lines than another has blanks below. -/
def rowLines (t : Table) (s : Stroke) (cells : List String) : List (List Char) :=
  let blocks := ((t.columns.zip t.widths).zip cells).map fun c =>
    (c.1.2, cellLines c.1.1.alignment c.1.2 c.2)
  let height := (blocks.map (·.2.length)).foldl max 0
  (List.range height).map fun n =>
    joinCells s (blocks.map fun b =>
      ' ' :: (b.2[n]?).getD (List.replicate b.1 ' ') ++ [' '])

def lines (t : Table) : List String :=
  let title := (wrapLines t.width t.title.toList).map (align .centre t.width)
  let body := rule topStroke t.widths :: t.rowLines headRow (t.columns.map (·.title)) ++
    rule headStroke t.widths :: t.rows.flatMap (t.rowLines bodyRow) ++
    [rule bottomStroke t.widths]
  (title ++ body).map String.ofList

end Table
end ScriptProfiling
