import MachineConfig.Terminal.Table
import MachineConfig.Text.CodePoint

/-!
A terminal: a wide console without colours. In lines and cells tabs are expanded, codes of pictures
are replaced, and control characters that would move the cursor are left out. Output that is meant
for another program goes out as it is, but for terminal controls. Nothing that holds half of a
surrogate pair can be shown.
-/

namespace MachineConfig.Terminal

/-- A text laid out in lines. -/
def laidOut (cs : List Char) : String :=
  String.ofList (['\n'].intercalate ((Text.splitChars '\n' cs).map expandTabs) ++ ['\n'])

/-- How long the terminal control at the start of a text is: an escape, a bracket, parameters and a
letter. -/
def controlLength : List Char → Nat
  | '\x1B' :: '[' :: cs =>
    let parameters := cs.takeWhile fun c => c.isDigit || c == ';' || c == '?'
    if (cs.drop parameters.length).head?.any Char.isAlpha then parameters.length + 3 else 0
  | _ => 0

/-- Leaves out terminal controls. -/
def dropControls : List Char → List Char
  | [] => []
  | c :: cs =>
    let n := controlLength (c :: cs)
    if n = 0 then c :: dropControls cs else dropControls (cs.drop (n - 1))
termination_by cs => cs.length
decreasing_by
  all_goals simp only [List.length_drop, List.length_cons]; omega

/-- A text for another program. -/
def verbatimText (s : String) : String := String.ofList (dropControls s.toList)

/-- What is shown of a piece of output. -/
def layOut : Console.Piece → Except MarkupFault String
  | .marked s => (shownText s).map laidOut
  | .plain s => .ok (laidOut ((replaceEmojis s.toList).filter (!isHidden ·)))
  | .table t => (tableLines t).map fun lines =>
    String.join (lines.map fun line => String.ofList (line ++ ['\n']))
  | .verbatim s => .ok (verbatimText s)

/-- A piece of output written out. -/
def write (piece : Console.Piece) : Except Console.Fault String := do
  let text ← (layOut piece).mapError (.markup ·.message)
  if Text.isEncodable text then return text else throw .unencodable

end Terminal

/-- The console of a terminal. -/
def terminal : Console := { escape := Terminal.escape, write := Terminal.write }

end MachineConfig
