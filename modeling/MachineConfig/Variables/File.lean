import MachineConfig.Arrays.Registry
import MachineConfig.Text.Blank

/-!
Variables files. A file has up to four sections: `vars`, overlays per machine type, arrays, and
the schemas of arrays. Names count in lower case, and what a template will see is text. A file
that has other sections, or a section or member of the wrong shape, is refused with all that is
wrong in it.
-/

namespace MachineConfig.Variables

/-- What can be wrong at a place in a file. -/
inductive Defect where
  | unknownSection
  | notMapping
  | notList
  /-- It has to become text and holds a number that is too long for that. -/
  | overlongNumber
  deriving DecidableEq, Repr

/-- A defect and the names that lead to it. -/
structure Issue where
  location : List String
  defect : Defect
  deriving DecidableEq, Repr

/-- The content of a variables file. -/
structure File where
  vars : Vars := .empty
  machineTypes : Table String Vars := .empty
  arrays : Table String (List Arrays.Notation) := .empty
  schemas : Table String (List String) := .empty
  deriving DecidableEq, Inhabited

/-- The members of a mapping under their lower-case names; of two that meet under one name the
later counts. -/
def members {α : Type} (entries : List (Value × α)) : Table String α :=
  Table.ofList (entries.map fun e => (e.1.keyName, e.2))

/-- A mapping's members, none if the value is null. -/
def mapping : Value → Except Defect (Table String Value)
  | .null => .ok .empty
  | .map entries => .ok (members entries)
  | _ => .error .notMapping

/-- Variables, as templates see them. -/
def definitions (v : Value) : Except Defect Vars :=
  (mapping v).map (·.map Value.text)

/-- The records of an array, none if the value is null. -/
def records : Value → Except Defect (List Arrays.Notation)
  | .null => .ok []
  | .list items => .ok (items.map (Arrays.Notation.ofValue Value.text))
  | _ => .error .notList

/-- The field names of a schema: a list, or one text with `|` between them. -/
def fieldNames : Value → Except Defect (List String)
  | .string s => .ok ((Text.splitAt '|' s).map fieldName)
  | .list items => .ok (items.map fun v => fieldName v.display)
  | _ => .error .notList
where
  fieldName (s : String) : String := Text.lower (Text.strip s)

/-- What reading gave, and the issues that it met. -/
structure Reading (α : Type) where
  result : α
  issues : List Issue

/-- Reads a section, `fallback` standing in for one that cannot be read. -/
def readSection {α : Type} (name : String) (fallback : α) (read : Value → Except Defect α)
    (v : Value) : Reading α :=
  match read v with
  | .ok result => ⟨result, []⟩
  | .error defect => ⟨fallback, [⟨[name], defect⟩]⟩

/-- Reads every member of a section, leaving out those that cannot be read. -/
def readMembers {α : Type} (name : String) (read : Value → Except Defect α) (v : Value) :
    Reading (Table String α) :=
  let members := readSection name .empty mapping v
  let results := members.result.entries.map fun e => (e.1, read e.2)
  { result := Table.ofList <| results.filterMap fun
      | (key, .ok result) => some (key, result)
      | (_, .error _) => none
    issues := members.issues ++ results.filterMap fun
      | (_, .ok _) => none
      | (key, .error defect) => some ⟨[name, key], defect⟩ }

namespace File

def sections : List String := ["vars", "machine_types", "arrays", "schemas"]

/-- Reads a file's sections. An absent section is empty. -/
def ofSections (sections : Table String Value) : Except (List Issue) File :=
  let content (name : String) := sections.getD name (.map [])
  let vars := readSection "vars" .empty definitions (content "vars")
  let machineTypes := readMembers "machine_types" definitions (content "machine_types")
  let arrays := readMembers "arrays" records (content "arrays")
  let schemas := readMembers "schemas" fieldNames (content "schemas")
  let unknown := (sections.keys.filter (· ∉ File.sections)).map fun name =>
    ⟨[name], .unknownSection⟩
  let issues := vars.issues ++ machineTypes.issues ++ arrays.issues ++ schemas.issues ++ unknown
  if issues.isEmpty then
    .ok ⟨vars.result, machineTypes.result, arrays.result, schemas.result⟩
  else .error issues

/-- Lays the file `top` over the file `base`. Overlays of one machine type are merged name by
name; arrays and schemas are replaced whole. The variables of the two files are layers of their
own, so those of `base` stay. -/
def merge (base top : File) : File :=
  { vars := base.vars
    machineTypes := top.machineTypes.entries.foldl
      (fun types e => types.insert e.1 ((types.getD e.1 .empty).overlay e.2)) base.machineTypes
    arrays := base.arrays.overlay top.arrays
    schemas := base.schemas.overlay top.schemas }

/-- The arrays of a file with their schemas. -/
def registry (f : File) : Arrays.Registry :=
  .build f.arrays.entries f.schemas.entries Arrays.hostSchema

end File

end MachineConfig.Variables
