import MachineConfig.Table
import MachineConfig.Text.Casing

/-!
What the environment says: the root directory, the machine type, whether to log in detail, and a
layer of variables.
-/

namespace MachineConfig.Environment

/-- Names the root directory. -/
def rootName : String := "DOTPLATE_DIR"

/-- Names the machine type. -/
def machineTypeName : String := "DOTPLATE_MACHINE_TYPE"

/-- Asks for detailed logging. -/
def debugName : String := "DOTPLATE_DEBUG"

/-- What the names of entries that set variables start with. -/
def variableStart : String := "DOTPLATE_TMPL_"

/-- The value of an entry, unless it is empty. -/
def nonempty? (environ : Vars) (name : String) : Option String :=
  (environ.get? name).filter (!·.isEmpty)

/-- The variable that an entry sets. -/
def variableName? (name : String) : Option String :=
  let start := variableStart.toList
  let cs := name.toList
  if start.isPrefixOf cs && start.length < cs.length then
    some (Text.lower (String.ofList (cs.drop start.length)))
  else none

/-- The variables that the environment sets. -/
def layer (environ : Vars) : Vars :=
  Table.ofList (environ.entries.filterMap fun e => (variableName? e.1).map (·, e.2))

end MachineConfig.Environment
