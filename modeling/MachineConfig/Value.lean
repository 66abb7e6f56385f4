import MachineConfig.Calendar
import MachineConfig.Decimal.Notation
import MachineConfig.Text.Casing
import MachineConfig.Text.Quoted

/-!
The values of a data file. A value in the place of a text is shown by one of two rules: `display`
spells null and the booleans with a capital, and `text`, which templates see, leaves null out and
spells booleans in lower case. Inside lists and maps both use `literal`.
-/

namespace MachineConfig

inductive Value where
  | null
  | bool (b : Bool)
  | int (n : Int)
  | float (x : Float)
  | string (s : String)
  | date (d : Date)
  | moment (m : Moment)
  | list (items : List Value)
  | map (entries : List (Value × Value))
  /-- A value of another kind, such as bytes, as it is written. -/
  | other (literal : String)
  deriving Inhabited

namespace Value

/-- An offset from universal time, in minutes, as a literal. -/
def offsetLiteral (n : Int) : String :=
  if n = 0 then "datetime.timezone.utc"
  else
    let seconds := n * 60
    let days := if seconds < 0 then "days=-1, " else ""
    s!"datetime.timezone(datetime.timedelta({days}seconds={Int.emod seconds 86400}))"

def dateLiteral (d : Date) : String :=
  s!"datetime.date({d.year}, {d.month}, {d.day})"

def momentLiteral (m : Moment) : String :=
  let seconds :=
    if m.micro ≠ 0 then s!", {m.second}, {m.micro}"
    else if m.second ≠ 0 then s!", {m.second}" else ""
  let offset := match m.offset with
    | none => ""
    | some n => ", tzinfo=" ++ offsetLiteral n
  s!"datetime.datetime({m.date.year}, {m.date.month}, {m.date.day}, {m.hour}, {m.minute}" ++
    seconds ++ offset ++ ")"

mutual

/-- A value as it reads inside a list or map. -/
def literal : Value → String
  | null => "None"
  | bool b => if b then "True" else "False"
  | int n => toString n
  | float x => Decimal.ofFloat x
  | string s => Text.quoted s
  | date d => dateLiteral d
  | moment m => momentLiteral m
  | list items => "[" ++ ", ".intercalate (literals items) ++ "]"
  | map entries => "\x7b" ++ ", ".intercalate (entryLiterals entries) ++ "\x7d"
  | other s => s

def literals : List Value → List String
  | [] => []
  | v :: vs => literal v :: literals vs

def entryLiterals : List (Value × Value) → List String
  | [] => []
  | e :: es => (literal e.1 ++ ": " ++ literal e.2) :: entryLiterals es

end

/-- A value by itself: texts, dates and moments are written without quotes. -/
def display : Value → String
  | string s => s
  | date d => d.toIso
  | moment m => m.toIso
  | v => v.literal

/-- What a template sees. -/
def text : Value → String
  | null => ""
  | bool b => if b then "true" else "false"
  | v => v.display

/-- The name that a key is filed under. -/
def keyName (key : Value) : String := Text.lower key.display

/-- The finite doubles that are whole numbers equal them, and the booleans equal 0 and 1. -/
def wholeNumber? : Value → Option Int
  | bool b => some (if b then 1 else 0)
  | int n => some n
  | float x =>
    match Decimal.Magnitude.ofFloat x with
    | (_, .zero) => some 0
    | (negative, .finite _) =>
      let bits : Nat := x.toBits.toNat
      let exponent : Nat := bits / Nat.pow 2 52 % Nat.pow 2 11
      let mantissa : Nat := bits % Nat.pow 2 52 + Nat.pow 2 52
      let scaled := mantissa * Nat.pow 2 (exponent - 1075)
      let divisor := Nat.pow 2 (1075 - exponent)
      if scaled % divisor = 0 then
        let n : Int := (scaled / divisor : Nat)
        some (if negative then -n else n)
      else none
    | _ => none
  | _ => none

/-- Two keys are one key of a map. Numbers are compared by value whatever their type, moments by
the instant that they name; all that is not a number is one key. -/
def sameKey (a b : Value) : Bool :=
  match a, b with
  | null, null => true
  | string s, string t => s == t
  | date d, date e => d == e
  | moment m, moment n => m.isSame n
  | float x, float y => x == y || (x.isNaN && y.isNaN)
  | other s, other t => s == t
  | a, b =>
    match a.wholeNumber?, b.wholeNumber? with
    | some m, some n => m == n
    | _, _ => false

/-- Sets a key in a list of entries: in place if it is there, at the end otherwise. -/
def setKey {α : Type} (key : Value) (value : α) : List (Value × α) → List (Value × α)
  | [] => [(key, value)]
  | e :: es => if sameKey e.1 key then (e.1, value) :: es else e :: setKey key value es

/-- One entry for each key: at the place where the key first comes, with the last value. -/
def distinctKeys {α : Type} (entries : List (Value × α)) : List (Value × α) :=
  entries.foldl (fun es e => setKey e.1 e.2 es) []

/-- The map with these entries. -/
def mapOf (entries : List (Value × Value)) : Value := map (distinctKeys entries)

end Value

end MachineConfig
