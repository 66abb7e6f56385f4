import MachineConfig.Event
import MachineConfig.Layers.Auto
import MachineConfig.Layers.Computed
import MachineConfig.Layout
import MachineConfig.Template.Evaluate
import MachineConfig.Variables.Loading

/-!
The sources of variables put together: the facts of the machine, the two variables files of a root
directory and the environment.
-/

namespace MachineConfig

/-- The layers of a root directory and its arrays. -/
structure Sources where
  layers : Layers
  registry : Arrays.Registry

namespace Sources

/-- Puts facts, files and environment together. The computed defaults see the facts as they are
given. -/
def ofFiles (auto : Vars) (defaults top : Variables.File) (environ : Vars) : Sources :=
  let combined := defaults.merge top
  { layers := Layers.normalize
      { auto
        default := withComputedDefaults defaults.vars auto
        machineTypes := combined.machineTypes
        localOverride := top.vars
        environment := Environment.layer environ }
    registry := combined.registry }

/-- Reads the variables files of a root directory, the defaults first. -/
def load (read : Variables.Loader) (store : Store) (l : Layout) (auto environ : Vars) :
    List Event × Except Failure Sources :=
  match Variables.File.load read store l.defaultsFile with
  | .error cause => ([], .error cause)
  | .ok defaults =>
    let events := if (store.entry? l.defaultsFile).isSome then []
      else [.noVariablesFile l.defaultsFile]
    (events, do
      let top ← Variables.File.load read store l.localFile
      return ofFiles auto defaults top environ)

/-- The variables that templates see. -/
def effective (s : Sources) (machineType : Option String) : Vars := s.layers.merged machineType

/-- What templates are rendered with. -/
def renderer (s : Sources) (machineType : Option String) : Template.Renderer :=
  { vars := s.effective machineType, registry := s.registry }

end Sources

end MachineConfig
