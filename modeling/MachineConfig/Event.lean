import MachineConfig.Failure

/-!
Events: what is told of the work as it goes on, each with a level.
-/

namespace MachineConfig

inductive Level where
  | info
  | warning
  | error
  deriving DecidableEq, Repr

def Level.label : Level → String
  | info => "INFO"
  | warning => "WARNING"
  | error => "ERROR"

inductive Event where
  /-- A warning that rendering gave. -/
  | templateWarning (text : String)
  | unresolved (template : Path) (tags : List String)
  | wouldWrite (output : Path)
  | rendered (template output : Path)
  | renderFailed (template : Path) (cause : Failure)
  | noVariablesFile (file : Path)
  deriving DecidableEq

namespace Event

def level : Event → Level
  | templateWarning _ | unresolved .. | noVariablesFile _ => .warning
  | wouldWrite _ | rendered .. => .info
  | renderFailed .. => .error

/-- The text of an event, where the machine's refusals read as `hostText` says. -/
def message (hostText : HostFault → String) : Event → String
  | templateWarning text => text
  | unresolved template tags =>
    s!"Unresolved variables in {template.name}: " ++ ", ".intercalate tags
  | wouldWrite output => s!"Would write to: {output.text}"
  | rendered template output => s!"Rendered: {template.name} → {output.text}"
  | renderFailed template cause =>
    s!"Failed to render {template.name}: " ++ cause.message hostText
  | noVariablesFile file => s!"Variables file not found: {file.text}"

end Event

end MachineConfig
