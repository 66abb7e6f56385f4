import MachineConfig.Console
import MachineConfig.Terminal.Cluster
import MachineConfig.Text.Blank
import MachineConfig.Text.Lines
import MachineConfig.Text.Search

/-!
Cells of tables: a text laid out in a column. The column is as wide as the widest line in it, but
tabs do not count towards that, so a line may have to be divided at its words, and a word that is
still too long is cut.
-/

namespace MachineConfig.Terminal

/-- The width that a cell asks for: that of its widest line. -/
def naturalWidth (cs : List Char) : Nat :=
  ((Text.lines cs).map fun line => cells (line.filter (!Text.isLineBoundary ·))).foldl max 0

/-- How long the first word of a line is, with the blanks before and after it. -/
def wordLength (cs : List Char) : Nat :=
  let before := (cs.takeWhile Text.isBlank).length
  let word := ((cs.drop before).takeWhile (!Text.isBlank ·)).length
  before + word + ((cs.drop (before + word)).takeWhile Text.isBlank).length

theorem wordLength_pos (c : Char) (cs : List Char) : 0 < wordLength (c :: cs) := by
  by_cases h : Text.isBlank c
  · have : 0 < ((c :: cs).takeWhile Text.isBlank).length := by simp [h]
    exact Nat.add_pos_left (Nat.add_pos_left this _) _
  · rw [wordLength, List.takeWhile_cons_of_neg h]
    have : 0 < ((c :: cs).takeWhile (!Text.isBlank ·)).length := by simp [h]
    exact Nat.add_pos_left (Nat.add_pos_right _ this) _

/-- The words of a line, each with the blanks after it and the first also with those before it. -/
def words : List Char → List (List Char)
  | [] => []
  | c :: cs =>
    let n := wordLength (c :: cs)
    (c :: cs).take n :: words ((c :: cs).drop n)
termination_by cs => cs.length
decreasing_by
  have := wordLength_pos c cs
  simp only [List.length_drop, List.length_cons]
  omega

/-- Puts words on lines of a column: a word that does not fit after those on `line`, which take
`used` cells, starts a new one. -/
def fillLines (width used : Nat) (line : List Char) : List (List Char) → List (List Char)
  | [] => [line]
  | word :: words =>
    if line.isEmpty || used + cells (Text.trimEnd word) ≤ width then
      fillLines width (used + cells word) (line ++ word) words
    else line :: fillLines width (cells word) word words

/-- Drops blanks at the end of a line as long as it has more characters than the column cells. -/
def dropExcessBlanks (width : Nat) (cs : List Char) : List Char :=
  let spare := cs.length - (Text.trimEnd cs).length
  cs.take (cs.length - min spare (cs.length - width))

/-- A line that is too wide for its column ends in an ellipsis. -/
def truncate (width : Nat) (cs : List Char) : List Char :=
  if cells cs ≤ width then cs else cutTo (width - 1) cs ++ ['…']

/-- Adds the blanks that a line lacks. -/
def padTo (width : Nat) (line : List Char) : List Char := line ++ blanks (width - cells line)

/-- A line filled up with blanks. At the left a joiner at the end of the line hides the first of
them, so one more is added. -/
def fill (a : Console.Alignment) (width : Nat) (line : List Char) : List Char :=
  match a with
  | .left =>
    padTo width (padTo width (truncate width line))
  | .right =>
    let line := truncate width (Text.trimEnd line)
    blanks (width - cells line) ++ line

/-- The lines of a cell in a column. -/
def cellLines (a : Console.Alignment) (width : Nat) (cs : List Char) : List (List Char) :=
  (Text.splitChars '\n' cs).flatMap fun line =>
    (fillLines width 0 [] (words (expandTabs line))).map fun row =>
      fill a width (dropExcessBlanks width row)

end MachineConfig.Terminal
