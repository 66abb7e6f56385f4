import MachineConfig.Variables.File

/-!
Numbers that are too long to be written. What a section of a variables file holds becomes text: its
names, and the variables, records or field names under them. A section where one of these is or
holds a whole number with too many digits is refused for that alone.
-/

namespace MachineConfig

namespace Value

mutual

/-- A value is or holds a whole number with too many digits. -/
def isOverlong : Value → Bool
  | int n => Nat.pow 10 Decimal.digitLimit ≤ n.natAbs
  | list items => anyOverlong items
  | map entries => anyEntryOverlong entries
  | _ => false

def anyOverlong : List Value → Bool
  | [] => false
  | v :: vs => isOverlong v || anyOverlong vs

def anyEntryOverlong : List (Value × Value) → Bool
  | [] => false
  | e :: es => isOverlong e.1 || isOverlong e.2 || anyEntryOverlong es

end

/-- The keys of a mapping, and `parts` of what it holds under them. -/
def keysWith (parts : Value → List Value) : Value → List Value
  | map entries => entries.flatMap fun e => e.1 :: parts e.2
  | _ => []

def items : Value → List Value
  | list items => items
  | _ => []

end Value

namespace Variables

/-- What becomes text when the section `name` is read. -/
def written (name : String) : Value → List Value :=
  if name = "vars" then Value.keysWith ([·])
  else if name = "machine_types" then Value.keysWith (Value.keysWith ([·]))
  else if name ∈ File.sections then Value.keysWith Value.items
  else fun _ => []

/-- The names of the sections with a number that is too long to be written. -/
def overlongSections (sections : Table String Value) : List String :=
  (sections.entries.filter fun e => (written e.1 e.2).any Value.isOverlong).map Prod.fst

/-- Reads a file's sections. In one with an overlong number nothing else is looked at. -/
def File.ofWritten (sections : Table String Value) : Except (List Issue) File :=
  let reading := ofSections sections
  match overlongSections sections with
  | [] => reading
  | overlong =>
    let issues := match reading with
      | .ok _ => []
      | .error issues => issues.filter fun i => i.location.head?.all (· ∉ overlong)
    .error (overlong.map (⟨[·], .overlongNumber⟩) ++ issues)

end Variables

end MachineConfig
