import MachineConfig.Text.CodePoint
import MachineConfig.Text.Printable

/-!
Quoted text, as a text reads inside a displayed list: between single quotes, or between double
quotes when it holds a single quote and no double one, with a backslash before the quote, before
a backslash and in front of the code of every character that is not printable.
-/

namespace MachineConfig.Text

/-- `n` in lower-case hexadecimal, in at least `width` digits. -/
def hex (width n : Nat) : String :=
  let digits := Nat.toDigits 16 n
  String.ofList (List.replicate (width - digits.length) '0' ++ digits)

/-- One code point between quotes of the kind `quote`. -/
def quotedCode (quote : Char) (code : Nat) : String :=
  let c := Char.ofNat code
  if c = quote ∨ c = '\\' then String.ofList ['\\', c]
  else if c = '\n' then "\\n"
  else if c = '\r' then "\\r"
  else if c = '\t' then "\\t"
  else if isCharacter code && isPrintable c then c.toString
  else if code < 0x100 then "\\x" ++ hex 2 code
  else if code < 0x10000 then "\\u" ++ hex 4 code
  else "\\U" ++ hex 8 code

def quoted (s : String) : String :=
  let quote := if '\'' ∈ s.toList ∧ '"' ∉ s.toList then '"' else '\''
  quote.toString ++ String.join ((codes s.toList).map (quotedCode quote)) ++ quote.toString

end MachineConfig.Text
