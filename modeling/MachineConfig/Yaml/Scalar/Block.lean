import MachineConfig.Yaml.Scalar.Plain

/-!
Block scalars: the lines below `|` or `>` that are indented deeper than the block around them. A
literal scalar keeps its line breaks; a folded one joins lines that do not start with a blank.
What is kept of the breaks at the end is said in the header.
-/

namespace MachineConfig.Yaml.Scalar

/-- What becomes of the breaks at the end of a block scalar. -/
inductive Chomping where
  | strip
  | clip
  | keep
  deriving DecidableEq

structure Header where
  chomping : Chomping := .clip
  /-- The indentation relative to the block around, if it is given. -/
  increment : Option Nat := none

def chomping? (c : Char) : Option Chomping :=
  if c = '+' then some .keep else if c = '-' then some .strip else none

/-- An indentation is one digit other than zero. -/
def increment? (c : Char) : Option Nat :=
  if c.isDigit then some (c.toNat - '0'.toNat) else none

/-- Reads the indicators after `|` or `>`, in either order. -/
def Header.read (cs : List Char) : Except Flaw (Header × List Char) := do
  let takeChomping (cs : List Char) : Option Chomping × List Char :=
    match cs with
    | c :: rest => if (chomping? c).isSome then (chomping? c, rest) else (none, cs)
    | [] => (none, [])
  let takeIncrement (cs : List Char) : Option Nat × List Char :=
    match cs with
    | c :: rest => if (increment? c).isSome then (increment? c, rest) else (none, cs)
    | [] => (none, [])
  let (before, rest) := takeChomping cs
  let (increment, rest) := takeIncrement rest
  let (after, rest) := if before.isNone && increment.isSome then takeChomping rest
    else (none, rest)
  if increment = some 0 then throw .malformed
  match rest with
  | c :: _ => if c ≠ ' ' ∧ ¬isBreak c then throw .malformed
  | [] => pure ()
  return (⟨((before <|> after).getD .clip), increment⟩, rest)

/-- Drops the rest of a header line: blanks and perhaps a comment. -/
def dropHeaderLine (cs : List Char) : Except Flaw (List Char) :=
  let rest := cs.dropWhile (· = ' ')
  let rest := if rest.head? = some '#' then rest.dropWhile (!isBreak ·) else rest
  match rest with
  | [] => .ok []
  | c :: rest => if isBreak c then .ok rest else .error .malformed

/-- Line breaks, what is left of the text, and the column there. -/
structure Breaks where
  breaks : List Char
  rest : List Char
  column : Nat

/-- Breaks and blanks up to the first line with content, and the deepest column on the way. -/
def firstIndentation (column deepest : Nat) : List Char → Breaks × Nat
  | [] => (⟨[], [], column⟩, deepest)
  | c :: cs =>
    if c = ' ' then firstIndentation (column + 1) (max deepest (column + 1)) cs
    else if isBreak c then
      let (b, deepest) := firstIndentation 0 deepest cs
      ({ b with breaks := keptBreak c :: b.breaks }, deepest)
    else (⟨[], c :: cs, column⟩, deepest)

/-- Empty lines, and the indentation of the next line as far as `indent`. -/
def emptyBlockLines (indent column : Nat) : List Char → Breaks
  | [] => ⟨[], [], column⟩
  | c :: cs =>
    if c = ' ' ∧ column < indent then emptyBlockLines indent (column + 1) cs
    else if isBreak c then
      let b := emptyBlockLines indent 0 cs
      { b with breaks := keptBreak c :: b.breaks }
    else ⟨[], c :: cs, column⟩

theorem emptyBlockLines_rest_le (indent column : Nat) (cs : List Char) :
    (emptyBlockLines indent column cs).rest.length ≤ cs.length := by
  fun_induction emptyBlockLines indent column cs <;> grind

def isBlankStart (cs : List Char) : Bool :=
  match cs with
  | c :: _ => c == ' ' || c == '\t'
  | [] => false

/-- The content of a block scalar: its text up to the last line, the break of that line, and what
comes after. -/
structure Lines where
  text : List Char
  lastBreak : List Char
  tail : Breaks

/-- Reads the lines of content, `before` being the empty lines that were passed. -/
def readLines (fold : Bool) (indent : Nat) (before : Breaks) : Lines :=
  match _h : before.rest with
  | [] => ⟨[], [], before⟩
  | c :: cs =>
    if before.column ≠ indent then ⟨[], [], before⟩
    else
      let line := (c :: cs).takeWhile (!isBreak ·)
      match _h' : (c :: cs).drop line.length with
      | [] => ⟨before.breaks ++ line, [], ⟨[], [], line.length⟩⟩
      | b :: rest =>
        let lineBreak := keptBreak b
        let after := emptyBlockLines indent 0 rest
        if after.column = indent ∧ after.rest ≠ [] then
          let joins := fold && lineBreak = '\n' && !isBlankStart line &&
            !isBlankStart after.rest
          let between :=
            if joins then if after.breaks.isEmpty then [' '] else [] else [lineBreak]
          let more := readLines fold indent after
          { more with text := before.breaks ++ line ++ between ++ more.text }
        else ⟨before.breaks ++ line, [lineBreak], after⟩
termination_by before.rest.length
decreasing_by
  have := congrArg List.length _h'
  have := emptyBlockLines_rest_le indent 0 rest
  simp only [List.length_drop, List.length_cons] at *
  grind

/-- Reads a block scalar after its indicator, inside a block indented by `outer` columns or, at
the top of a document, by none. The text is returned with what is left to read. -/
def readBlock (fold : Bool) (outer : Option Nat) (cs : List Char) :
    Except Flaw (List Char × List Char) := do
  let (header, rest) ← Header.read cs
  let rest ← dropHeaderLine rest
  let least := max 1 ((outer.map (· + 1)).getD 0)
  let (indent, start) := match header.increment with
    | some n => (least + n - 1, emptyBlockLines (least + n - 1) 0 rest)
    | none =>
      let (start, deepest) := firstIndentation 0 0 rest
      (max least deepest, start)
  let lines := readLines fold indent start
  let ending := match header.chomping with
    | .strip => []
    | .clip => lines.lastBreak
    | .keep => lines.lastBreak ++ lines.tail.breaks
  return (lines.text ++ ending, lines.tail.rest)

end MachineConfig.Yaml.Scalar
