import MachineConfig.Table
import MachineConfig.Text.Search
import MachineConfig.Value

/-!
Records of an array. A record is written as one text with `|` between its values, as a list, or
as a map from field names; a schema gives the field names of the values in order.
-/

namespace MachineConfig.Arrays

/-- How a record is written. -/
inductive Notation where
  | joined (text : String)
  | list (values : List String)
  | named (fields : Vars)
  deriving DecidableEq, Inhabited

/-- The notation of a value whose single values read as `shown` says. -/
def Notation.ofValue (shown : Value → String) : Value → Notation
  | .map entries => .named (Table.ofList (entries.map fun e => (e.1.keyName, shown e.2)))
  | .list items => .list (items.map shown)
  | v => .joined (shown v)

/-- A record: its values in order and, if it was written as a map, the names they stand under. -/
structure Record where
  values : List String
  named : Vars
  deriving DecidableEq, Inhabited

namespace Record

def ofNotation : Notation → Record
  | .joined text => ⟨Text.splitAt '|' text, .empty⟩
  | .list values => ⟨values, .empty⟩
  | .named fields => ⟨fields.values, fields⟩

/-- The values with `|` between them. -/
def raw (r : Record) : String := "|".intercalate r.values

/-- The values under the names of a schema. Values that are missing are empty; a record written
as a map keeps the fields that the schema does not name. -/
def fields (r : Record) (schema : List String) : Vars :=
  if r.named.isEmpty then
    Table.ofList (schema.zipIdx.map fun (name, i) => (name, r.values.getD i ""))
  else
    let bound := Table.ofList (schema.map fun name => (name, r.named.getD name ""))
    bound.insertAll (r.named.entries.filter (!bound.contains ·.1))

end Record

end MachineConfig.Arrays
