import MachineConfig.Calendar
import MachineConfig.Layers.Environment
import MachineConfig.Text.Search

/-!
The machine: what it says of itself, and what operating system and processor that means.
-/

namespace MachineConfig

structure Host where
  hostname : String
  /-- The fully qualified name. -/
  domainName : String
  system : String
  machine : String
  userId : Option Nat
  accountName : Option String
  /-- What the running kernel says of itself, empty if that cannot be read. -/
  kernel : String := ""
  /-- The control groups of the first process, empty if they cannot be read. -/
  controlGroups : String := ""
  /-- The mark of a container runtime is there. -/
  hasContainerMark : Bool := false
  now : Moment
  deriving Inhabited

/-- Stands for what is not known. -/
def unknownLabel : String := "unknown"

namespace Host

/-- What a virtual machine of the Lima kind sets in its environment. -/
def limaName : String := "LIMA_INSTANCE"

/-- The operating system of a machine whose kernel is of the kind `system`. -/
def operatingSystem (h : Host) (system hostname : String) (environ : Vars) : String :=
  if system = "Darwin" then "macos"
  else if system = "Windows" then "windows"
  else if system ≠ "Linux" then unknownLabel
  else if Text.occursIn "microsoft" (Text.lower h.kernel) then "wsl"
  else if h.hasContainerMark || Text.occursIn "docker" h.controlGroups then "docker"
  else if "lima-".toList.isPrefixOf hostname.toList ||
      (Environment.nonempty? environ limaName).isSome then "lima"
  else "linux"

/-- The name of a processor: the common ones have one name each. -/
def architecture (machine : String) : String :=
  let name := Text.lower machine
  if name ∈ ["x86_64", "amd64"] then "amd64"
  else if name ∈ ["arm64", "aarch64"] then "arm64"
  else machine

/-- The part of a host name before the first dot. -/
def shortName (h : Host) : String :=
  String.ofList (h.hostname.toList.takeWhile (· ≠ '.'))

/-- The first of these texts that is not empty. -/
def firstNonempty (texts : List String) (fallback : String) : String :=
  (texts.find? (!·.isEmpty)).getD fallback

end Host

end MachineConfig
