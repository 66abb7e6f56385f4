import MachineConfig.Terminal.Cell
import MachineConfig.Terminal.Markup

/-!
Tables in a frame. A row is as high as its highest cell. Cells may hold style tags.
-/

namespace MachineConfig.Terminal

open Console (Column)

/-- Characters that are never shown: bell, backspace, vertical tab, form feed, return. -/
def isHidden (c : Char) : Bool := c.toNat ∈ [7, 8, 11, 12, 13]

/-- What is shown of a text with style tags, before it is laid out. -/
def shownText (s : String) : Except MarkupFault (List Char) :=
  (readMarkup s).map (·.filter (!isHidden ·))

/-- The widths of the columns. -/
def columnWidths (columns : List Column) (rows : List (List (List Char))) : List Nat :=
  columns.zipIdx.map fun (column, i) =>
    (rows.map fun row => naturalWidth (row.getD i [])).foldl max (cells column.header.toList)

/-- A line of the frame. -/
def rule (left fill cross right : Char) (widths : List Nat) : List Char :=
  left :: [cross].intercalate (widths.map fun n => List.replicate (n + 2) fill) ++ [right]

/-- A line of cells. -/
def rowLine (bar : Char) (cells : List (List Char)) : List Char :=
  bar :: [bar].intercalate (cells.map fun cell => ' ' :: cell ++ [' ']) ++ [bar]

/-- The lines of a row. -/
def rowLines (bar : Char) (columns : List Column) (widths : List Nat) (row : List (List Char)) :
    List (List Char) :=
  let laidOut := (columns.zip widths).zipIdx.map fun ((column, width), i) =>
    (width, cellLines column.alignment width (row.getD i []))
  let height := laidOut.foldl (fun n cell => max n cell.2.length) 1
  (List.range height).map fun i =>
    rowLine bar (laidOut.map fun (width, lines) => lines.getD i (blanks width))

/-- A title in the middle above a table. -/
def titleLine (width : Nat) (title : String) : List Char :=
  let cs := title.toList
  let before := (width - cells cs) / 2
  blanks before ++ cs ++ blanks (width - cells cs - before)

/-- The lines of a table. -/
def tableLines (t : Console.Table) : Except MarkupFault (List (List Char)) := do
  let rows ← t.rows.mapM (·.mapM shownText)
  let widths := columnWidths t.columns rows
  let top := rule '┏' '━' '┳' '┓' widths
  let header := rowLines '┃' t.columns widths (t.columns.map (·.header.toList))
  return t.title.toList.map (titleLine (cells top)) ++ top :: header ++
    rule '┡' '━' '╇' '┩' widths :: rows.flatMap (rowLines '│' t.columns widths) ++
    [rule '└' '─' '┴' '┘' widths]

end MachineConfig.Terminal
