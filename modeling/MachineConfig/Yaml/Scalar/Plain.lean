import MachineConfig.Yaml.Cursor

/-!
Plain scalars. One ends at `: `, at ` #`, and inside brackets at the punctuation of lists. It may
go on over lines that are indented deeper than the block around it; a single break between its
lines reads as a space, and of several the first is dropped.
-/

namespace MachineConfig.Yaml.Scalar

/-- What separates two parts of a scalar: the text that it counts as, none if the scalar ends
here, where it stops, and whether it crosses a line. -/
structure Gap where
  text : List Char
  stop : Cursor
  crossed : Bool

/-- Empty lines and indentation after a line break: the breaks, how many characters, and whether
a document mark follows. -/
def emptyLines : List Char → List Char × Nat × Bool
  | [] => ([], 0, false)
  | c :: cs =>
    if c = ' ' then
      let (breaks, n, mark) := emptyLines cs
      (breaks, n + 1, mark)
    else if isBreak c then
      if atDocumentMark cs then ([], 1, true)
      else
        let (breaks, n, mark) := emptyLines cs
        (keptBreak c :: breaks, n + 1, mark)
    else ([], 0, false)

/-- What a line break and the empty lines after it count as. -/
def folded (first : Char) (breaks : List Char) : List Char :=
  if first ≠ '\n' then first :: breaks
  else if breaks.isEmpty then [' '] else breaks

/-- The gap at a cursor. -/
def plainGap (c : Cursor) : Gap :=
  let blanks := c.rest.takeWhile (· = ' ')
  let c := c.advance blanks.length
  match c.rest with
  | ch :: cs =>
    if isBreak ch then
      let c := c.next
      if atDocumentMark cs then ⟨[], c, true⟩
      else
        let (breaks, n, mark) := emptyLines cs
        ⟨if mark then [] else folded (keptBreak ch) breaks, c.advance n, true⟩
    else ⟨blanks, c, false⟩
  | [] => ⟨blanks, c, false⟩

def isFlowEnd (c : Char) : Bool := c ∈ [',', '[', ']', '\x7b', '\x7d']

/-- How long the part of a plain scalar at the start of a text is. -/
def plainLength (inFlow : Bool) : List Char → Nat
  | [] => 0
  | c :: cs =>
    let ends := isSpace c ||
      (c == ':' && (endsWord cs || (inFlow && cs.head?.any isFlowEnd))) ||
      (inFlow && (isFlowEnd c || c == '?'))
    if ends then 0 else 1 + plainLength inFlow cs

/-- The characters that a plain scalar may not start with, unless they go on as a word. -/
def isIndicator (c : Char) : Bool := c ∈ "-?:,[]\x7b\x7d#&*!|>'\"%@`".toList

/-- A plain scalar may start here. -/
def startsPlain (inFlow : Bool) : List Char → Bool
  | [] => false
  | c :: cs =>
    !(isSpace c || isIndicator c) ||
      (!endsWord cs && (c == '-' || (!inFlow && (c == '?' || c == ':'))))

/-- A plain scalar: its text, the cursor after it, and whether the gap after its last part
crosses a line. -/
structure Plain where
  text : List Char
  stop : Cursor
  crossed : Bool

/-- Reads a plain scalar in parts; lines of it must reach column `indent`. -/
def readPlain (inFlow : Bool) (indent : Nat) (c : Cursor) : Plain :=
  if c.rest.head? = some '#' then ⟨[], c, false⟩
  else
    let n := plainLength inFlow c.rest
    if n = 0 then ⟨[], c, false⟩
    else
      let part := c.rest.take n
      let gap := plainGap (c.advance n)
      if _ : gap.stop.rest.length < c.rest.length then
        if gap.text.isEmpty || gap.stop.rest.head? = some '#' ||
            (!inFlow && gap.stop.column < indent) then
          ⟨part, gap.stop, gap.crossed⟩
        else
          let more := readPlain inFlow indent gap.stop
          if more.text.isEmpty then ⟨part, more.stop, gap.crossed⟩
          else ⟨part ++ gap.text ++ more.text, more.stop, more.crossed⟩
      else ⟨part, gap.stop, gap.crossed⟩
termination_by c.rest.length

end MachineConfig.Yaml.Scalar
