/-!
The shortest decimal of a double. A double stands for every real number that rounds to it; among
the decimals in that interval the ones with the fewest digits are taken, and of those the one
nearest to the double. Of two that are equally near, the one with the even last digit is taken.
-/

namespace MachineConfig.Decimal

/-- A positive fraction `num / den` and the interval from `low / den` to `high / den` around it,
whose ends belong to it if `closed` holds. -/
structure Interval where
  num : Nat
  low : Nat
  high : Nat
  den : Nat
  closed : Bool

/-- The numbers that round to `mantissa * 2 ^ exponent`; below a power of two, `lowest` apart,
doubles lie twice as close as above it. -/
def Interval.ofBinary (mantissa : Nat) (exponent : Int) (lowest : Bool) : Interval :=
  let up := Nat.pow 2 (exponent - 2).toNat
  let below := if mantissa = Nat.pow 2 52 ∧ ¬lowest then 1 else 2
  { num := 4 * mantissa * up, low := (4 * mantissa - below) * up, high := (4 * mantissa + 2) * up
    den := Nat.pow 2 (2 - exponent).toNat, closed := mantissa % 2 = 0 }

/-- The decimal `digits * 10 ^ scale` lies in the interval. -/
def Interval.holds (i : Interval) (digits : Nat) (scale : Int) : Bool :=
  let x := digits * Nat.pow 10 scale.toNat * i.den
  let unit := Nat.pow 10 (-scale).toNat
  if i.closed then i.low * unit ≤ x && x ≤ i.high * unit
  else i.low * unit < x && x < i.high * unit

/-- How many decimal digits stand before the point, negative if zeros follow it. -/
def Interval.point (i : Interval) : Int :=
  let guess : Int := (Nat.toDigits 10 i.num).length - (Nat.toDigits 10 i.den).length
  if i.num * Nat.pow 10 (-guess).toNat < i.den * Nat.pow 10 guess.toNat then guess else guess + 1

/-- The quotient rounded to the nearest number, and to the even one of two that are equally
near. -/
def roundedQuotient (num den : Nat) : Nat :=
  let floor := num / den
  let twice := 2 * (num % den)
  if twice < den ∨ twice = den ∧ floor % 2 = 0 then floor else floor + 1

/-- The nearer of the two neighbours on the grid of decimals with scale `scale` that lie in the
interval. -/
def Interval.nearest? (i : Interval) (scale : Int) : Option Nat :=
  let num := i.num * Nat.pow 10 (-scale).toNat
  let den := i.den * Nat.pow 10 scale.toNat
  let floor := num / den
  match i.holds floor scale, i.holds (floor + 1) scale with
  | true, true => some (roundedQuotient num den)
  | true, false => some floor
  | false, true => some (floor + 1)
  | false, false => none

/-- Decimal digits and the place of the point among them: `digits` as a fraction `0.digits`, times
ten to the power `point`. -/
structure Digits where
  digits : List Char
  point : Int

/-- Drops the zeros at the end. -/
def Digits.trimmed (d : Digits) : Digits :=
  { d with digits := (d.digits.reverse.dropWhile (· = '0')).reverse }

/-- The digits of a decimal `n * 10 ^ scale`. -/
def Digits.ofScaled (n : Nat) (scale : Int) : Digits :=
  let digits := Nat.toDigits 10 n
  Digits.trimmed ⟨digits, digits.length + scale⟩

/-- The shortest decimal in the interval; seventeen digits always suffice. -/
def Interval.shortest (i : Interval) : Digits :=
  let scaled (n : Nat) : Option Digits :=
    let scale := i.point - n
    (i.nearest? scale).map fun d => Digits.ofScaled d scale
  ((List.range' 1 17).findSome? scaled).getD ⟨['0'], 1⟩

/-- What a double is, apart from its sign. -/
inductive Magnitude where
  | zero
  | infinite
  | notANumber
  | finite (digits : Digits)

/-- Decodes a double: the sign bit, and the magnitude in decimal. -/
def Magnitude.ofFloat (x : Float) : Bool × Magnitude :=
  let bits : Nat := x.toBits.toNat
  let negative := bits / Nat.pow 2 63 = 1
  let exponent : Nat := bits / Nat.pow 2 52 % Nat.pow 2 11
  let fraction : Nat := bits % Nat.pow 2 52
  let magnitude :=
    if exponent = 0x7FF then if fraction = 0 then .infinite else .notANumber
    else if exponent = 0 ∧ fraction = 0 then .zero
    else if exponent = 0 then .finite (Interval.ofBinary fraction (-1074) true).shortest
    else
      let significand := fraction + Nat.pow 2 52
      .finite (Interval.ofBinary significand ((exponent : Int) - 1075) (exponent = 1)).shortest
  (negative, magnitude)

end MachineConfig.Decimal
