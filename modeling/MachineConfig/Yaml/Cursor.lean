/-!
A place in a YAML text: what is left to read, with line, column and index. Line breaks are the
line feed, the next-line control and the two Unicode separators. A byte order mark takes no
column.
-/

namespace MachineConfig.Yaml

/-- Why a text is refused. -/
inductive Flaw where
  /-- It is no YAML of the kind read here. -/
  | malformed
  /-- It ends within a scalar. -/
  | unfinished
  /-- A scalar has the form of a date, number or character that does not exist. -/
  | impossibleScalar
  /-- The number of an escaped character has more than 31 bits. -/
  | overlargeCharacter
  /-- A place of a number of base sixty counts more than the doubles reach. -/
  | overlargePlace
  /-- The bytes of the file are not well-formed. -/
  | undecodable
  deriving DecidableEq, Repr

def byteOrderMark : Char := '\uFEFF'

def isBreak (c : Char) : Bool :=
  c == '\n' || c == '\x85' || c == '\u2028' || c == '\u2029'

/-- Blanks and breaks, at one of which, or at the end of the text, an indicator ends. -/
def isSpace (c : Char) : Bool := c == ' ' || c == '\t' || isBreak c

/-- The text ends or goes on with a blank or break. -/
def endsWord : List Char → Bool
  | [] => true
  | c :: _ => isSpace c

/-- The break that a scalar keeps for one that was read. -/
def keptBreak (c : Char) : Char := if c = '\x85' then '\n' else c

/-- A line that starts or ends a document is ahead. -/
def atDocumentMark : List Char → Bool
  | '-' :: '-' :: '-' :: cs => endsWord cs
  | '.' :: '.' :: '.' :: cs => endsWord cs
  | _ => false

/-- Characters that may stand in a text at all. -/
def isReadable (c : Char) : Bool :=
  let n := c.toNat
  n = 0x09 || n = 0x0A || n = 0x0D || (0x20 ≤ n && n ≤ 0x7E) || n = 0x85 ||
    (0xA0 ≤ n && n ≤ 0xD7FF) || (0xE000 ≤ n && n ≤ 0xFFFD) || 0x10000 ≤ n

structure Cursor where
  rest : List Char
  line : Nat := 0
  column : Nat := 0
  index : Nat := 0

namespace Cursor

/-- The cursor after one more character. -/
def next (c : Cursor) : Cursor :=
  match c.rest with
  | [] => c
  | ch :: rest =>
    if isBreak ch then { rest, line := c.line + 1, column := 0, index := c.index + 1 }
    else
      let column := if ch = byteOrderMark then c.column else c.column + 1
      { rest, line := c.line, column, index := c.index + 1 }

def advance : Nat → Cursor → Cursor
  | 0, c => c
  | n + 1, c => advance n c.next

@[simp] theorem next_rest (c : Cursor) : c.next.rest = c.rest.drop 1 := by
  unfold next
  split
  · simp_all
  · split <;> simp_all

@[simp] theorem advance_rest (n : Nat) (c : Cursor) : (c.advance n).rest = c.rest.drop n := by
  induction n generalizing c with
  | zero => rfl
  | succ n ih => simp [advance, ih]

/-- How many characters lie between the cursor and the next token: blanks, breaks and comments. -/
def fillerLength (inComment : Bool) : List Char → Nat
  | [] => 0
  | c :: cs =>
    if isBreak c then 1 + fillerLength false cs
    else if inComment then 1 + fillerLength true cs
    else if c = ' ' then 1 + fillerLength false cs
    else if c = '#' then 1 + fillerLength true cs
    else 0

/-- The cursor at the next token. -/
def skipFiller (c : Cursor) : Cursor :=
  let c := if c.index = 0 ∧ c.rest.head? = some byteOrderMark then c.next else c
  c.advance (fillerLength false c.rest)

end Cursor

end MachineConfig.Yaml
