import MachineConfig.Text.Search
import MachineConfig.Value
import MachineConfig.Yaml.Node

/-!
What a plain scalar means. Its form decides: nulls, booleans, integers in several bases, decimals,
dates and moments; any other is text. Underscores in numbers do not count, and colons separate
places of base sixty.
-/

namespace MachineConfig.Yaml

def isDigitOrUnderscore (c : Char) : Bool := c.isDigit || c == '_'

/-- Splits off a sign; the flag holds for a minus. -/
def splitSign : List Char → Bool × List Char
  | '-' :: cs => (true, cs)
  | '+' :: cs => (false, cs)
  | cs => (false, cs)

def dropUnderscores (cs : List Char) : List Char := cs.filter (· ≠ '_')

/-- One or two digits, the first of two below six: a place of base sixty. -/
def isSixtieth : List Char → Bool
  | [c] => c.isDigit
  | [c, d] => c.isDigit && c ≤ '5' && d.isDigit
  | _ => false

/-- The number of `first` sixties of all these places, and what the places themselves are worth. -/
def sexagesimal (first : Nat) (places : List (List Char)) : Nat :=
  places.foldl (fun n place => n * 60 + Decimal.numeral 10 place) first

/-- An integer in a base, from digits with underscores; there has to be a digit. -/
def inBase (base : Nat) (cs : List Char) : Except Flaw Nat :=
  let digits := dropUnderscores cs
  if digits.isEmpty then .error .impossibleScalar
  else if base = 10 ∧ digits.length > Decimal.digitLimit then .error .impossibleScalar
  else .ok (Decimal.numeral base digits)

/-- An unsigned integer: binary after `0b`, hexadecimal after `0x`, octal after another zero. -/
def naturalOf? (cs : List Char) : Option (Except Flaw Nat) :=
  match cs with
  | ['0'] => some (.ok 0)
  | '0' :: 'b' :: rest =>
    if !rest.isEmpty && rest.all (· ∈ ['0', '1', '_']) then some (inBase 2 rest) else none
  | '0' :: 'x' :: rest =>
    if !rest.isEmpty && rest.all (fun c => Scalar.isHexDigit c || c == '_') then
      some (inBase 16 rest)
    else none
  | '0' :: rest =>
    if rest.all (fun c => ('0' ≤ c && c ≤ '7') || c == '_') then some (inBase 8 ('0' :: rest))
    else none
  | c :: _ =>
    if !c.isDigit then none
    else if cs.all isDigitOrUnderscore then some (inBase 10 cs)
    else match Text.splitChars ':' cs with
      | first :: second :: rest =>
        if first.all isDigitOrUnderscore && (second :: rest).all isSixtieth then
          some ((inBase 10 first).map (sexagesimal · (second :: rest)))
        else none
      | _ => none
  | [] => none

/-- The exponent of a decimal: a letter, a sign, and digits. -/
def isExponent : List Char → Bool
  | e :: sign :: digits =>
    (e == 'e' || e == 'E') && (sign == '+' || sign == '-') && !digits.isEmpty &&
      digits.all Char.isDigit
  | _ => false

/-- Digits after the point, and perhaps an exponent. -/
def isFraction (cs : List Char) : Bool :=
  let rest := cs.dropWhile isDigitOrUnderscore
  rest.isEmpty || isExponent rest

/-- Adds places of base sixty to `sum`, the lowest first. The lowest counts `unit`, and no place may
count more than the doubles reach. -/
def addPlaces (sum : Float) (unit : Nat) : List (List Char) → Except Flaw Float
  | [] => .ok sum
  | place :: places =>
    let worth := Decimal.nearestFloat unit 0
    if worth.isInf then .error .overlargePlace
    else addPlaces (sum + Decimal.readUnsigned place * worth) (unit * 60) places

/-- Places of base sixty, the last with a point and a fraction. -/
def sexagesimalFloat? (cs : List Char) : Option (Except Flaw Float) :=
  match (Text.splitChars ':' cs).reverse with
  | last :: middle =>
    let (whole, fraction) := last.span (· ≠ '.')
    match middle.reverse, fraction with
    | first :: places, '.' :: digits =>
      if first.head?.any Char.isDigit && first.all isDigitOrUnderscore &&
          (places ++ [whole]).all isSixtieth && digits.all isDigitOrUnderscore then
        some (addPlaces 0 1 (dropUnderscores first :: places ++ [dropUnderscores last]).reverse)
      else none
    | _, _ => none
  | [] => none

/-- An unsigned decimal: it has a point, and an exponent has a sign. -/
def decimalOf? (cs : List Char) : Option (Except Flaw Float) :=
  match cs.span isDigitOrUnderscore with
  | (c :: _, '.' :: rest) =>
    if c.isDigit && isFraction rest then some (.ok (Decimal.readUnsigned (dropUnderscores cs)))
    else none
  | _ => sexagesimalFloat? cs

/-- A decimal that starts with its point; it takes no sign. -/
def pointDecimal? : List Char → Option Float
  | '.' :: c :: rest =>
    if c.isDigit && isFraction rest then
      some (Decimal.readUnsigned ('0' :: dropUnderscores ('.' :: c :: rest)))
    else none
  | _ => none

def infinityWords : List (List Char) := [".inf".toList, ".Inf".toList, ".INF".toList]

def nanWords : List (List Char) := [".nan".toList, ".NaN".toList, ".NAN".toList]

/-- A decimal, an infinity or a not-a-number. -/
def floatOf? (cs : List Char) : Option (Except Flaw Float) :=
  let (negative, rest) := splitSign cs
  if cs ∈ nanWords then some (.ok (0 / 0))
  else
    let magnitude := if rest ∈ infinityWords then some (.ok (1 / 0)) else decimalOf? rest
    match magnitude with
    | some reading => some (reading.map fun x => if negative then -x else x)
    | none => (pointDecimal? cs).map .ok

def trueWords : List String := ["yes", "Yes", "YES", "true", "True", "TRUE", "on", "On", "ON"]

def falseWords : List String := ["no", "No", "NO", "false", "False", "FALSE", "off", "Off", "OFF"]

def nullWords : List String := ["", "~", "null", "Null", "NULL"]

/-- Splits off `n` digits and what has to come after them. -/
def digits? (least most : Nat) (cs : List Char) : Option (Nat × List Char) :=
  let digits := (cs.take most).takeWhile Char.isDigit
  if least ≤ digits.length then some (Decimal.numeral 10 digits, cs.drop digits.length) else none

def expect? (c : Char) : List Char → Option (List Char)
  | d :: cs => if d = c then some cs else none
  | [] => none

/-- Splits off a year, a month and a day; months and days may have one digit if `loose` holds. -/
def date? (loose : Bool) (cs : List Char) : Option (Date × List Char) := do
  let least := if loose then 1 else 2
  let (year, cs) ← digits? 4 4 cs
  let (month, cs) ← digits? least 2 (← expect? '-' cs)
  let (day, cs) ← digits? least 2 (← expect? '-' cs)
  return (⟨year, month, day⟩, cs)

/-- The end of a moment: nothing, `Z`, or a signed offset of hours and perhaps minutes. -/
def offset? (cs : List Char) : Option (Option Int) :=
  match cs.dropWhile (fun c => c == ' ' || c == '\t') with
  | [] => if cs.isEmpty then some none else none
  | ['Z'] => some (some 0)
  | sign :: rest => do
    if sign ≠ '+' ∧ sign ≠ '-' then none
    let (hours, rest) ← digits? 1 2 rest
    let minutes ← match rest with
      | [] => some 0
      | _ => do
        let (minutes, rest) ← digits? 2 2 (← expect? ':' rest)
        if rest.isEmpty then some minutes else none
    let offset : Int := (hours * 60 + minutes : Nat)
    return some (if sign = '-' then -offset else offset)

/-- A date with a time of day after `T` or blanks. -/
def moment? (cs : List Char) : Option Moment := do
  let (date, cs) ← date? true cs
  let cs ← match cs with
    | c :: rest =>
      if c = 'T' ∨ c = 't' then some rest
      else if c = ' ' ∨ c = '\t' then some (rest.dropWhile fun c => c == ' ' || c == '\t')
      else none
    | [] => none
  let (hour, cs) ← digits? 1 2 cs
  let (minute, cs) ← digits? 2 2 (← expect? ':' cs)
  let (second, cs) ← digits? 2 2 (← expect? ':' cs)
  let (fraction, cs) := match cs with
    | '.' :: rest => rest.span Char.isDigit
    | _ => ([], cs)
  let micro := Decimal.numeral 10 ((fraction ++ List.replicate 6 '0').take 6)
  let offset ← offset? cs
  return { date, hour, minute, second, micro, offset }

/-- A date by itself. -/
def wholeDate? (cs : List Char) : Option Date :=
  match date? false cs with
  | some (date, []) => some date
  | _ => none

/-- The value of a plain scalar. The marks `<<` and `=` mean something only as keys. -/
def plainValue (text : String) : Except Flaw Value :=
  let cs := text.toList
  let (negative, rest) := splitSign cs
  if text ∈ nullWords then .ok .null
  else if text ∈ trueWords then .ok (.bool true)
  else if text ∈ falseWords then .ok (.bool false)
  else if text = "<<" ∨ text = "=" then .error .malformed
  else if let some n := naturalOf? rest then
    n.map fun n => .int (if negative then -n else n)
  else if let some reading := floatOf? cs then reading.map .float
  else if let some d := wholeDate? cs then
    if d.isValid then .ok (.date d) else .error .impossibleScalar
  else if let some m := moment? cs then
    if m.isValid then .ok (.moment m) else .error .impossibleScalar
  else .ok (.string text)

end MachineConfig.Yaml
