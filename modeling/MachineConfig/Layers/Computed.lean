import MachineConfig.Table

/-!
Computed defaults: directories that a variables file leaves empty lie in the workspace.
-/

namespace MachineConfig

/-- The variables that are computed, with their places in the workspace. -/
def computedDirectories : List (String × String) :=
  [("projects_dir", "projects"), ("notes_dir", "notes"), ("scripts_dir", "scripts")]

/-- Fills in the computed directories that are defined and empty. -/
def withComputedDefaults (defaults auto : Vars) : Vars :=
  let workspace := auto.getD "workspace" ""
  if workspace.isEmpty then defaults
  else computedDirectories.foldl
    (fun vars d =>
      if vars.get? d.1 = some "" then vars.insert d.1 (workspace ++ "/" ++ d.2) else vars)
    defaults

end MachineConfig
