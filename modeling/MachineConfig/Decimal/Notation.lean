import MachineConfig.Decimal.Shortest

/-!
How numbers are written. Decimals whose first digit stands at the places 10⁻⁴ to 10¹⁵ are written
positionally, with at least one digit after the point; all others with an exponent of at least two
digits. Reading rounds to the nearest double.
-/

namespace MachineConfig.Decimal

/-- Digits with the point in its place. -/
def Digits.positional (d : Digits) : String :=
  let n := d.point.toNat
  let zeros (k : Nat) := List.replicate k '0'
  let whole := d.digits.take n ++ zeros (n - d.digits.length)
  let rest := zeros (-d.point).toNat ++ d.digits.drop n
  let orZero (digits : List Char) := if digits.isEmpty then ['0'] else digits
  String.ofList (orZero whole ++ '.' :: orZero rest)

/-- Digits with an exponent. -/
def Digits.scientific (d : Digits) : String :=
  let exponent := d.point - 1
  let power := Nat.toDigits 10 exponent.natAbs
  let mantissa := match d.digits with
    | [] => ['0']
    | [c] => [c]
    | c :: rest => c :: '.' :: rest
  String.ofList (mantissa ++ 'e' :: (if exponent < 0 then '-' else '+') ::
    (List.replicate (2 - power.length) '0' ++ power))

def Digits.toText (d : Digits) : String :=
  if -4 < d.point ∧ d.point ≤ 16 then d.positional else d.scientific

/-- The text of a double. -/
def ofFloat (x : Float) : String :=
  let (negative, magnitude) := Magnitude.ofFloat x
  let sign := if negative then "-" else ""
  match magnitude with
  | .zero => sign ++ "0.0"
  | .infinite => sign ++ "inf"
  | .notANumber => "nan"
  | .finite digits => sign ++ digits.toText

/-- Whole numbers of more decimal digits are neither read nor written. -/
def digitLimit : Nat := 4300

/-- The number that digits stand for in a base; characters that are no digits of it count as
zero. -/
def numeral (base : Nat) (digits : List Char) : Nat :=
  digits.foldl (fun n c => n * base + digitValue c) 0
where
  digitValue (c : Char) : Nat :=
    if c.isDigit then c.toNat - '0'.toNat
    else if 'a' ≤ c ∧ c ≤ 'f' then c.toNat - 'a'.toNat + 10
    else if 'A' ≤ c ∧ c ≤ 'F' then c.toNat - 'A'.toNat + 10
    else 0

/-- The double nearest to `mantissa * 10 ^ exponent`. Beyond the range of doubles the exponent
does not matter any more. -/
def nearestFloat (mantissa : Nat) (exponent : Int) : Float :=
  let size : Int := exponent + (Nat.toDigits 10 mantissa).length
  if mantissa = 0 ∨ size < -400 then 0
  else if size > 400 then 1 / 0
  else Float.ofScientific mantissa (exponent < 0) exponent.natAbs

/-- Reads an unsigned decimal: digits, perhaps a point and more digits, perhaps an exponent. -/
def readUnsigned (cs : List Char) : Float :=
  let (whole, rest) := cs.span Char.isDigit
  let (fraction, rest) := match rest with
    | '.' :: r => r.span Char.isDigit
    | r => ([], r)
  let exponent : Int := match rest with
    | _ :: '-' :: e => -(numeral 10 e : Int)
    | _ :: '+' :: e => numeral 10 e
    | _ :: e => numeral 10 e
    | [] => 0
  nearestFloat (numeral 10 (whole ++ fraction)) (exponent - fraction.length)

end MachineConfig.Decimal
