/-!
Line ends. A text file may end its lines with a line feed, a carriage return or both; reading it
turns each into a line feed. Comparing two files splits at every Unicode line boundary.
-/

namespace MachineConfig.Text

/-- Turns carriage returns, alone or before a line feed, into line feeds. -/
def unifyNewlines : List Char → List Char
  | [] => []
  | '\r' :: '\n' :: cs => '\n' :: unifyNewlines cs
  | c :: cs => (if c = '\r' then '\n' else c) :: unifyNewlines cs

/-- The characters that end a line. -/
def isLineBoundary (c : Char) : Bool :=
  ('\n' ≤ c && c ≤ '\r') || ('\x1C' ≤ c && c ≤ '\x1E') || c == '\x85' || c == '\u2028' ||
    c == '\u2029'

/-- The lines of a text, each with the boundary that ends it; a carriage return and the line feed
after it are one boundary. -/
def lines : List Char → List (List Char)
  | [] => []
  | '\r' :: '\n' :: cs => ['\r', '\n'] :: lines cs
  | c :: cs =>
    if isLineBoundary c then [c] :: lines cs
    else match lines cs with
      | [] => [[c]]
      | line :: rest => (c :: line) :: rest

end MachineConfig.Text
