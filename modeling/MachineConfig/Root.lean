import MachineConfig.Failure
import MachineConfig.Layers.Environment
import MachineConfig.Layout

/-!
Finding the root directory: the one that is given, else the one that the environment names, else
`.dotplate` in the home directory. A leading `~` stands for the home directory of the process.
-/

namespace MachineConfig

/-- The environment names the home directory under this name. -/
def homeName : String := "HOME"

/-- Replaces a leading `~`. -/
def expandHome (process : Vars) (p : Path) : Except Failure Path :=
  match p.expandHome? (process.get? homeName) with
  | some path => .ok path
  | none => .error .unknownHome

/-- The home directory of the process. -/
def processHome (process : Vars) : Except Failure Path := expandHome process (Path.ofText "~")

/-- The root directory, `root` being the one that is given. -/
def findRoot (root : Option Path) (environ process : Vars) : Except Failure Path := do
  let named := (Environment.nonempty? environ Environment.rootName).map Path.ofText
  let root ← match root <|> named with
    | some root => pure root
    | none => do pure ((← processHome process).child ".dotplate")
  expandHome process root

end MachineConfig
