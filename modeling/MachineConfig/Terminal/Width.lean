import MachineConfig.Terminal.Width.Ranges
import MachineConfig.Text.Search

/-!
The width of text in a terminal, in cells, and tabs, which go on to the next stop. Widths do not
simply add up: a joiner draws the character after it into the one before, and a selector turns the
character before it into a picture.
-/

namespace MachineConfig.Terminal

private def isInRun (runs : List (Nat × Nat)) (c : Char) : Bool :=
  runs.any fun r => r.1 ≤ c.toNat && c.toNat ≤ r.2

/-- How many cells a character takes. -/
def cellWidth (c : Char) : Nat :=
  if ' ' ≤ c ∧ c ≤ '~' then 1
  else if isInRun zeroWidthRanges c then 0
  else if isInRun doubleWidthRanges c then 2
  else 1

/-- The zero-width joiner: the character after it takes no cells of its own. -/
def joiner : Char := '\u200D'

/-- The selector of picture forms. -/
def pictureSelector : Char := '\uFE0F'

/-- How many cells a selector of picture forms adds, after the last character that takes any. -/
def pictureWidth (last : Option Char) : Nat :=
  if last.any (isInRun pictureFormRanges) then 1 else 0

/-- How many cells a text takes after `last`, the last character that took any. -/
def cellsAfter (last : Option Char) : List Char → Nat
  | [] => 0
  | [c] => if c = pictureSelector then pictureWidth last else cellWidth c
  | c :: d :: cs =>
    if c = joiner then cellsAfter last cs
    else if c = pictureSelector then pictureWidth last + cellsAfter none (d :: cs)
    else if cellWidth c = 0 then cellsAfter last (d :: cs)
    else cellWidth c + cellsAfter (some c) (d :: cs)

/-- How many cells a text takes. -/
def cells (cs : List Char) : Nat := cellsAfter none cs

def blanks (n : Nat) : List Char := List.replicate n ' '

/-- Tab stops are this far apart. -/
def tabWidth : Nat := 8

/-- A text that starts at a tab stop, filled up with blanks to the next stop after it, at least
one. -/
def toNextStop (cs : List Char) : List Char :=
  let text := cs ++ [' ']
  let rest := cells text % tabWidth
  text ++ blanks (if rest = 0 then 0 else tabWidth - rest)

/-- Joins texts with tabs between them: all but the last are filled up to a tab stop. -/
def joinAtStops : List (List Char) → List Char
  | [] => []
  | [last] => last
  | part :: parts => toNextStop part ++ joinAtStops parts

/-- Replaces the tabs of a line by blanks. -/
def expandTabs (line : List Char) : List Char := joinAtStops (Text.splitChars '\t' line)

end MachineConfig.Terminal
