import MachineConfig.Text.EditScript

/-!
Unified diffs: the changes between two files, each with up to three lines before and after it.
Changes whose surroundings touch or overlap are shown together.
-/

namespace MachineConfig.Text

/-- How many unchanged lines are shown before and after a change. -/
def contextLength : Nat := 3

/-- Changes that are shown together, and how many lines of each file come before. -/
structure Hunk where
  oldStart : Nat
  newStart : Nat
  segments : List (Segment String)

namespace Hunk

/-- How many lines of the old and of the new file a hunk shows. -/
def lengths (h : Hunk) : Nat × Nat :=
  ((h.segments.flatMap Segment.old).length, (h.segments.flatMap Segment.new).length)

/-- Collects segments into the hunk `h`, the first of them coming after `before` lines of each
file, and starts a new hunk in every long unchanged stretch. -/
def collect (h : Hunk) (before : Nat × Nat) : List (Segment String) → List Hunk
  | [] => if h.segments.any Segment.isChange then [h] else []
  | s :: rest =>
    let after := (before.1 + s.old.length, before.2 + s.new.length)
    match s with
    | .change .. => collect { h with segments := h.segments ++ [s] } after rest
    | .same lines =>
      if 2 * contextLength < lines.length then
        let next := ⟨after.1 - contextLength, after.2 - contextLength,
          [.same (lines.drop (lines.length - contextLength))]⟩
        { h with segments := h.segments ++ [.same (lines.take contextLength)] } ::
          collect next after rest
      else collect { h with segments := h.segments ++ [s] } after rest

/-- Shortens an unchanged stretch at the end. -/
def shortenLast : List (Segment String) → List (Segment String)
  | [] => []
  | [.same lines] => [.same (lines.take contextLength)]
  | s :: rest => s :: shortenLast rest

/-- The hunks of an edit script. -/
def ofScript (script : List (Segment String)) : List Hunk :=
  match script with
  | .same lines :: rest =>
    let skipped := lines.length - contextLength
    collect ⟨skipped, skipped, []⟩ (skipped, skipped)
      (shortenLast (.same (lines.drop skipped) :: rest))
  | script => collect ⟨0, 0, []⟩ (0, 0) (shortenLast script)

/-- A range of lines: the number of the first, and how many they are unless it is one. An empty
range has the number of the line before it. -/
def range (start length : Nat) : String :=
  if length = 1 then toString (start + 1)
  else if length = 0 then s!"{start},0"
  else s!"{start + 1},{length}"

def header (h : Hunk) : String :=
  let (old, new) := h.lengths
  s!"@@ -{range h.oldStart old} +{range h.newStart new} @@\n"

def segmentLines : Segment String → List String
  | .same lines => lines.map (" " ++ ·)
  | .change removed added => removed.map ("-" ++ ·) ++ added.map ("+" ++ ·)

def lines (h : Hunk) : List String := h.header :: h.segments.flatMap segmentLines

end Hunk

/-- The lines of a unified diff under the names of both files; none if nothing has changed. -/
def unifiedDiff (oldName newName : String) (old new : List String) : List String :=
  match Hunk.ofScript (script old new) with
  | [] => []
  | hunks => s!"--- {oldName}\n" :: s!"+++ {newName}\n" :: hunks.flatMap Hunk.lines

end MachineConfig.Text
