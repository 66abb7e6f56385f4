import MachineConfig.Arrays.Record

/-!
The arrays that loops run over, and the scope that a loop's body sees in each round.
-/

namespace MachineConfig.Arrays

/-- The field names of an array without a schema: those of a host to log in to. -/
def hostSchema : List String := ["name", "hostname", "user", "identity", "extra"]

/-- Arrays and their schemas, filed under lower-case names. -/
structure Registry where
  arrays : Table String (List Record) := .empty
  schemas : Table String (List String) := .empty
  defaultSchema : List String := hostSchema
  deriving Inhabited

namespace Registry

/-- Files arrays and schemas; of two names that differ in case only the later counts. -/
def build (arrays : List (String × List Notation)) (schemas : List (String × List String))
    (defaultSchema : List String) : Registry :=
  { arrays := Table.ofList (arrays.map fun a => (Text.lower a.1, a.2.map Record.ofNotation))
    schemas := Table.ofList (schemas.map fun s => (Text.lower s.1, s.2.map Text.lower))
    defaultSchema }

/-- The records of an array; an unknown array has none. -/
def get (r : Registry) (name : String) : List Record := r.arrays.getD (Text.lower name) []

def contains (r : Registry) (name : String) : Bool := r.arrays.contains (Text.lower name)

def schemaFor (r : Registry) (name : String) : List String :=
  r.schemas.getD (Text.lower name) r.defaultSchema

def hasSchema (r : Registry) (name : String) : Bool := r.schemas.contains (Text.lower name)

def names (r : Registry) : List String := r.arrays.sorted.map (·.1)

/-- The scope of a record: its fields, the record itself as `this`, the number `label` of the
round, and marks for the first and the last round. -/
def scope (r : Registry) (name : String) (record : Record) (label : Int) (last : Bool) :
    Vars :=
  (record.fields (r.schemaFor name)).insertAll [
    ("this", record.raw),
    ("@index", toString label),
    ("@first", if label = 0 then "true" else ""),
    ("@last", if last then "true" else "")]

/-- The scope of the round with this index; negative indices count from the end. -/
def bind? (r : Registry) (name : String) (index : Int) : Option Vars :=
  let records := r.get name
  let position := if index < 0 then index + records.length else index
  if position < 0 then none
  else records[position.toNat]?.map fun record =>
    r.scope name record index (index = records.length - 1)

/-- The scopes of all rounds over an array, the first round first. -/
def scopes (r : Registry) (name : String) : List Vars :=
  let records := r.get name
  records.zipIdx.map fun (record, i) => r.scope name record i (i + 1 = records.length)

end Registry

end MachineConfig.Arrays
