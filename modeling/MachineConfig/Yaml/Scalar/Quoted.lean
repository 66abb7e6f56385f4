import MachineConfig.Decimal.Notation
import MachineConfig.Text.CodePoint
import MachineConfig.Yaml.Scalar.Plain

/-!
Quoted scalars. Between single quotes only a doubled quote is special; between double quotes a
backslash starts an escape. Line breaks fold as in plain scalars, whatever the indentation.
-/

namespace MachineConfig.Yaml.Scalar

/-- Part of a scalar: the text that it counts as and how many characters it takes. -/
abbrev Part := List Char × Nat

/-- Indentation and empty lines after a line break; a document mark may not come. -/
def quotedBreaks (cs : List Char) : Except Flaw Part :=
  if atDocumentMark cs then .error .malformed
  else
    let n := (cs.takeWhile fun c => c == ' ' || c == '\t').length
    match _h : cs.drop n with
    | [] => .ok ([], n)
    | c :: rest =>
      if isBreak c then do
        let (breaks, k) ← quotedBreaks rest
        .ok (keptBreak c :: breaks, n + 1 + k)
      else .ok ([], n)
termination_by cs.length
decreasing_by
  have := congrArg List.length _h
  simp only [List.length_drop, List.length_cons] at this
  omega

/-- A run of blanks, or a line break with all that folds into it. -/
def quotedGap (cs : List Char) : Except Flaw Part :=
  let blanks := cs.takeWhile fun c => c == ' ' || c == '\t'
  match cs.drop blanks.length with
  | [] => .error .unfinished
  | c :: rest =>
    if isBreak c then do
      let (breaks, k) ← quotedBreaks rest
      .ok (folded (keptBreak c) breaks, blanks.length + 1 + k)
    else .ok (blanks, blanks.length)

/-- The character that one escaped letter stands for. -/
def escapedLetter? (c : Char) : Option Char :=
  match c with
  | '0' => some '\x00' | 'a' => some '\x07' | 'b' => some '\x08' | 't' => some '\t'
  | '\t' => some '\t' | 'n' => some '\n' | 'v' => some '\x0B' | 'f' => some '\x0C'
  | 'r' => some '\r' | 'e' => some '\x1B' | ' ' => some ' ' | '"' => some '"'
  | '\\' => some '\\' | '/' => some '/' | 'N' => some '\x85' | '_' => some '\xA0'
  | 'L' => some '\u2028' | 'P' => some '\u2029'
  | _ => none

def isHexDigit (c : Char) : Bool :=
  c.isDigit || ('a' ≤ c && c ≤ 'f') || ('A' ≤ c && c ≤ 'F')

/-- A character by its code, written in `width` hexadecimal digits. -/
def escapedCode (width : Nat) (cs : List Char) : Except Flaw Part :=
  let digits := (cs.take width).takeWhile isHexDigit
  if digits.length < width then
    .error (if digits.length = cs.length then .unfinished else .malformed)
  else
    let code := Decimal.numeral 16 digits
    if code > 0x7FFFFFFF then .error .overlargeCharacter
    else if code > 0x10FFFF then .error .impossibleScalar
    else .ok (Text.spell code, width)

/-- What follows a backslash. An escaped line break leaves only the empty lines after it. -/
def escaped (cs : List Char) : Except Flaw Part :=
  match cs with
  | [] => .error .unfinished
  | c :: rest => do
    let (text, n) ←
      match escapedLetter? c with
      | some ch => Except.ok ([ch], 0)
      | none =>
        if c = 'x' then escapedCode 2 rest
        else if c = 'u' then escapedCode 4 rest
        else if c = 'U' then escapedCode 8 rest
        else if isBreak c then quotedBreaks rest
        else .error .malformed
    .ok (text, n + 1)

/-- Reads what stands after the opening quote, up to and with the closing one. -/
def readQuoted (quote : Char) (cs : List Char) : Except Flaw Part :=
  match cs with
  | [] => .error .unfinished
  | c :: rest =>
    let goOn (part : List Char) (n : Nat) : Except Flaw Part := do
      let (text, k) ← readQuoted quote (rest.drop n)
      .ok (part ++ text, n + 1 + k)
    if c = quote then
      if quote = '\'' ∧ rest.head? = some '\'' then goOn ['\''] 1 else .ok ([], 1)
    else if quote = '"' ∧ c = '\\' then do
      let (text, n) ← escaped rest
      goOn text n
    else if isSpace c then do
      let (text, n) ← quotedGap (c :: rest)
      goOn text (n - 1)
    else goOn [c] 0
termination_by cs.length
decreasing_by
  simp only [List.length_drop, List.length_cons]
  omega

end MachineConfig.Yaml.Scalar
