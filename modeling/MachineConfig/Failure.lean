import MachineConfig.Console
import MachineConfig.Path
import MachineConfig.Variables.File

/-!
Failures: why something that was asked for is not done. The machine's own refusals have no text
of their own here; whoever shows a failure says how they read.
-/

namespace MachineConfig

/-- Why the content of a file does not come through. -/
inductive HostFault where
  /-- The file system refuses to read, write or create something. -/
  | inaccessible
  /-- A file that should hold text is not well-formed UTF-8. -/
  | undecodable
  /-- A path holds a character that no name can have. -/
  | unnameable
  /-- A text that is to be written holds half of a surrogate pair. -/
  | unencodable
  deriving DecidableEq, Repr

/-- Why a variables file is refused. -/
inductive Variables.Fault where
  | notYaml
  | notMapping
  | shape (issues : List Variables.Issue)
  deriving DecidableEq

inductive Failure where
  | templateNotFound (template : Path)
  | alreadyInitialized (file : Path)
  | variablesFile (file : Path) (fault : Variables.Fault)
  /-- Reading a variables file breaks off with another error. -/
  | unloadable (error : String)
  /-- A section of a variables file has a name that is not a text. -/
  | unnamedSection
  | host (fault : HostFault)
  | unknownHome
  /-- A piece of output cannot be shown. -/
  | display (fault : Console.Fault)
  deriving DecidableEq

namespace Failure

/-- The status with which the program ends. -/
def exitCode : Failure → Nat
  | variablesFile .. => 2
  | _ => 1

/-- The program itself found the fault and reports it as an error of the user. -/
def isReported : Failure → Bool
  | templateNotFound _ | alreadyInitialized _ | variablesFile .. => true
  | _ => false

/-- Where many files are worked through, only this one is given up and the others go on. -/
def isIsolated : Failure → Bool
  | host fault => fault = .inaccessible || fault = .undecodable
  | cause => cause.isReported

def faultText : Variables.Fault → String
  | .notYaml => "not well-formed"
  | .notMapping => "top level must be a mapping"
  | .shape issues => ", ".intercalate (issues.map fun i => ".".intercalate i.location)

/-- The text of a failure, where the machine's refusals read as `hostText` says. -/
def message (hostText : HostFault → String) : Failure → String
  | templateNotFound template => s!"Template not found: {template.text}"
  | alreadyInitialized file => s!"{file.text} already exists (use --force to overwrite)"
  | variablesFile file fault => s!"Invalid variables file {file.text}: {faultText fault}"
  | unloadable error => error
  | unnamedSection => "a section has no name"
  | host fault => hostText fault
  | unknownHome => "Could not determine home directory."
  | display (.markup message) => message
  | display .unencodable => hostText .unencodable

end Failure

end MachineConfig
