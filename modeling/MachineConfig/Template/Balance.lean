import MachineConfig.Text.Search

/-!
A quick check of a document's tags. It compares how often blocks are opened and closed and looks
for a tag that is never closed; blocks that are nested wrongly can pass.
-/

namespace MachineConfig.Template

/-- What the check finds. -/
inductive Fault where
  | unmatched (keyword : String) (opens closes : Nat)
  | unclosed
  deriving DecidableEq, Repr

def Fault.message : Fault → String
  | unmatched keyword opens closes =>
    "Unmatched \x7b\x7b#" ++ keyword ++ "\x7d\x7d/\x7b\x7b/" ++ keyword ++
      s!"\x7d\x7d blocks: {opens} opens, {closes} closes"
  | unclosed => "Unclosed \x7b\x7b tag found"

mutual

/-- Some `{{` has no `}}` after it, `}}` being looked for from left to right. -/
def hasUnclosedTag : List Char → Bool
  | [] => false
  | '{' :: '{' :: cs => isNeverClosed cs
  | _ :: cs => hasUnclosedTag cs

/-- Inside a tag: there is no `}}`, or there is an unclosed tag after the first. -/
def isNeverClosed : List Char → Bool
  | [] => true
  | '}' :: '}' :: cs => hasUnclosedTag cs
  | _ :: cs => isNeverClosed cs

end

/-- Opening and closing tags of one kind, if their numbers differ. -/
def unmatched? (document : List Char) (keyword : String) : Option Fault :=
  let opens := Text.count ("\x7b\x7b#" ++ keyword ++ " ") document
  let closes := Text.count ("\x7b\x7b/" ++ keyword ++ "\x7d\x7d") document
  if opens = closes then none else some (.unmatched keyword opens closes)

/-- The faults of a document; none if it is balanced. -/
def faults (document : String) : List Fault :=
  let cs := document.toList
  ["if", "unless", "each"].filterMap (unmatched? cs) ++
    if hasUnclosedTag cs then [.unclosed] else []

end MachineConfig.Template
