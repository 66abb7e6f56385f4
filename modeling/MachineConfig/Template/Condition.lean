import MachineConfig.Table
import MachineConfig.Template.Token
import MachineConfig.Text.Casing

/-!
Conditions: a name by itself, or a name compared with a quoted text. A name that is not defined
compares as the empty text.
-/

namespace MachineConfig.Template

inductive Condition where
  | equals (name literal : String)
  | differs (name literal : String)
  | truthy (name : String)
  deriving DecidableEq, Repr

def isQuote (c : Char) : Bool := c == '"' || c == '\''

/-- The text between two quotes, which need not be alike, and nothing after them. -/
def quotedLiteral? : List Char → Option (List Char)
  | q :: cs =>
    match cs.span (!isQuote ·) with
    | (literal, [_]) => if isQuote q then some literal else none
    | _ => none
  | [] => none

/-- A comparison, blanks being allowed around the operator. -/
def comparison? (cs : List Char) : Option Condition :=
  match cs.span isWordChar with
  | (c :: name, rest) =>
    if isNameStart c then
      let name := Text.lower (String.ofList (c :: name))
      let literal (rest : List Char) :=
        (quotedLiteral? (rest.dropWhile Text.isBlank)).map String.ofList
      match rest.dropWhile Text.isBlank with
      | '=' :: '=' :: rest => (literal rest).map (Condition.equals name)
      | '!' :: '=' :: rest => (literal rest).map (Condition.differs name)
      | _ => none
    else none
  | _ => none

namespace Condition

/-- What is no comparison asks for the name that its word characters spell. -/
def ofString (condition : String) : Condition :=
  let cs := Text.trim condition.toList
  (comparison? cs).getD (truthy (Text.lower (String.ofList (cs.filter isWordChar))))

/-- The empty text, `false` and `0` count as no. -/
def isTruthy (value : String) : Bool := value ∉ ["", "false", "0"]

def holds (vars : Vars) : Condition → Bool
  | equals name literal => vars.getD name "" = literal
  | differs name literal => vars.getD name "" ≠ literal
  | truthy name => isTruthy (vars.getD name "")

end Condition

/-- Whether a block's condition holds under a set of variables. -/
def conditionHolds (vars : Vars) (condition : String) : Bool :=
  (Condition.ofString condition).holds vars

end MachineConfig.Template
