import MachineConfig.Host
import MachineConfig.Layers.Basic
import MachineConfig.Root
import MachineConfig.Store.Basic

/-!
The layer of facts that are found out on the machine, among them whether it is a machine for work
or a personal one.
-/

namespace MachineConfig

/-- Parts of the host name of a machine for work. -/
def workHints : List String := ["work", "corp", "office"]

/-- Parts of the host name of a personal machine. -/
def personalHints : List String := ["personal", "home", "macbook", "imac"]

/-- What the host name says of the machine type. -/
def machineTypeOfName? (hostname : String) : Option String :=
  let name := Text.lower hostname
  if workHints.any (Text.occursIn · name) then some "work"
  else if personalHints.any (Text.occursIn · name) then some "personal"
  else none

/-- What lies in the home directory says of the machine type. -/
def machineTypeOfHome (store : Store) (home : Path) : Except HostFault String := do
  if (← store.isDirectory (home.child "work")) then return "work"
  if (← store.isDirectory (home.child "corp")) then return "work"
  if (← store.isDirectory (home.child "personal")) then return "personal"
  if (← store.isFile (home.child ".personal-machine")) then return "personal"
  return unknownLabel

/-- The machine type: what the environment says, else the host name, else the home directory. -/
def machineType (hostname : String) (environ : Vars) (store : Store) (home : Path) :
    Except HostFault String :=
  match Environment.nonempty? environ Environment.machineTypeName <|>
    machineTypeOfName? hostname with
  | some type => .ok type
  | none => machineTypeOfHome store home

/-- The facts for a root directory. `environ` tells of the user, `process` only where the home
directory is if `environ` does not. -/
def autoVars (h : Host) (store : Store) (root : Path) (environ process : Vars) :
    Except Failure Vars := do
  let home ← match Environment.nonempty? environ homeName with
    | some home => .ok (Path.ofText home)
    | none => processHome process
  let hostname := Host.firstNonempty [h.shortName] unknownLabel
  let type ← (machineType hostname environ store home).mapError Failure.host
  let date := h.now.date
  let day := s!"{date.year}-{padded 2 date.month}-{padded 2 date.day}"
  return Table.ofList [
    ("hostname", hostname),
    ("hostname_full", Host.firstNonempty [h.domainName, h.hostname] unknownLabel),
    ("os", h.operatingSystem h.system hostname environ),
    ("os_family", h.system),
    ("arch", Host.architecture h.machine),
    ("user", (Environment.nonempty? environ "USER" <|> h.accountName).getD unknownLabel),
    ("uid", (h.userId.map toString).getD ""),
    ("home", home.text),
    ("workspace", (Environment.nonempty? environ "WORKSPACE").getD (home.child "workspace").text),
    ("dotplate_dir", root.text),
    ("machine_type", type),
    ("date", day),
    ("datetime", s!"{day} {h.now.time}"),
    ("year", toString date.year)]

end MachineConfig
