/-!
Consoles. What a command shows is given piece by piece to a console, which lays it out and writes
it. How it does so is left open: a console is all that is relied on.
-/

namespace MachineConfig

namespace Console

inductive Alignment where
  | left
  | right
  deriving DecidableEq

structure Column where
  header : String
  alignment : Alignment := .left
  deriving DecidableEq

/-- A table. Its cells may hold style tags. -/
structure Table where
  title : Option String := none
  columns : List Column
  rows : List (List String)
  deriving DecidableEq

inductive Piece where
  /-- A line with style tags. -/
  | marked (s : String)
  /-- A line in which brackets are only brackets. -/
  | plain (s : String)
  | table (t : Table)
  /-- A text for another program, with the line ends that belong to it. -/
  | verbatim (s : String)
  deriving DecidableEq

/-- Why a piece cannot be shown. -/
inductive Fault where
  /-- Its style tags do not match. -/
  | markup (message : String)
  /-- It holds half of a surrogate pair. -/
  | unencodable
  deriving DecidableEq, Repr

end Console

structure Console where
  /-- Makes a text safe to stand in a line with style tags. -/
  escape : String → String
  /-- What is written for a piece, or why it cannot be shown. -/
  write : Console.Piece → Except Console.Fault String

/-- What is written for pieces one after the other, if all can be shown. -/
def Console.writeAll (c : Console) (pieces : List Piece) : Except Fault String :=
  (pieces.mapM c.write).map String.join

end MachineConfig
