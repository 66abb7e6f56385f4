import MachineConfig.Store.Basic
import MachineConfig.Variables.Overlong

/-!
Reading variables files. A file that is missing, or holds no document, is an empty file. How the
content of a file becomes a value is left to a loader.
-/

namespace MachineConfig.Variables

/-- Why a loader gives no value. -/
inductive LoadFault where
  /-- The content does not parse. -/
  | notYaml
  /-- The bytes are not well-formed UTF-8. -/
  | undecodable
  /-- Loading breaks off with another error. -/
  | raised (error : String)
  deriving DecidableEq, Repr

/-- Reads the content of a data file; one that holds no document is null. -/
abbrev Loader := ByteArray → Except LoadFault Value

/-- The named sections of a mapping. -/
def sections? (entries : List (Value × Value)) : Option (Table String Value) :=
  (entries.mapM namedEntry?).map Table.ofList
where
  namedEntry? : Value × Value → Option (String × Value)
    | (.string name, v) => some (name, v)
    | _ => none

/-- The failure that a fault in the variables file at `file` comes to. -/
def LoadFault.failure (file : Path) : LoadFault → Failure
  | notYaml => .variablesFile file .notYaml
  | undecodable => .host .undecodable
  | raised error => .unloadable error

/-- The variables file that the content of `file` gives. -/
def File.ofContent (load : Loader) (file : Path) (content : ByteArray) : Except Failure File :=
  match load content with
  | .error fault => .error (fault.failure file)
  | .ok .null => .ok {}
  | .ok (.map entries) =>
    match sections? entries with
    | none => .error .unnamedSection
    | some sections => (File.ofWritten sections).mapError fun issues =>
      .variablesFile file (.shape issues)
  | .ok _ => .error (.variablesFile file .notMapping)

/-- The variables file at a path. -/
def File.load (load : Loader) (store : Store) (file : Path) : Except Failure File := do
  if ← (store.contains file).mapError Failure.host then
    File.ofContent load file (← (store.read file).mapError Failure.host)
  else return {}

end MachineConfig.Variables
