import MachineConfig.Table
import MachineConfig.Value

/-!
Layers of variables. Five layers are laid over one another, the host's facts lowest and the
environment highest; of the overlays per machine type one is chosen. The highest layer that
defines a name gives its value, and an empty text is a definition.
-/

namespace MachineConfig

/-- The layers, lowest first. -/
inductive Role where
  | auto
  | default
  | machineType
  | localOverride
  | environment
  deriving DecidableEq, Repr

def Role.label : Role → String
  | auto => "auto"
  | default => "default"
  | machineType => "machine-type"
  | localOverride => "local-override"
  | environment => "environment"

/-- The layers of one rendering, all names in lower case. -/
structure Layers where
  auto : Vars := .empty
  default : Vars := .empty
  machineTypes : Table String Vars := .empty
  localOverride : Vars := .empty
  environment : Vars := .empty
  deriving DecidableEq, Inhabited

/-- Brings names to lower case. -/
def lowerNames {α : Type} (t : Table String α) : Table String α := t.mapKeys Text.lower

namespace Layers

/-- Layers from tables with names in any case. -/
def normalize (l : Layers) : Layers :=
  { auto := lowerNames l.auto
    default := lowerNames l.default
    machineTypes := lowerNames (l.machineTypes.map lowerNames)
    localOverride := lowerNames l.localOverride
    environment := lowerNames l.environment }

/-- The machine type that the default layer gives, or else the host's facts. -/
def selectedMachineType (l : Layers) : String :=
  l.default.getD "machine_type" (l.auto.getD "machine_type" "")

/-- The layers that count, lowest first, for a machine type that is given or selected. -/
def overlays (l : Layers) (machineType : Option String) : List (Role × Vars) :=
  let type := Text.lower (machineType.getD l.selectedMachineType)
  [(.auto, l.auto), (.default, l.default), (.machineType, l.machineTypes.getD type .empty),
    (.localOverride, l.localOverride), (.environment, l.environment)]

/-- The variables that result. -/
def merged (l : Layers) (machineType : Option String) : Vars :=
  (l.overlays machineType).foldl (fun vars o => vars.overlay o.2) .empty

/-- The layer that each variable comes from. -/
def sources (l : Layers) (machineType : Option String) : Table String Role :=
  (l.overlays machineType).foldl
    (fun sources o => sources.insertAll (o.2.keys.map fun name => (name, o.1))) .empty

end Layers

end MachineConfig
