import MachineConfig.Layout
import MachineConfig.Store.Basic

/-!
The templates of a root directory, and whether their generated files are newer than they are.
Whatever lies in the place of a generated file counts as one, and a directory changes whenever
something is written in it.
-/

namespace MachineConfig.Generated

/-- The templates, in the order in which their directory lists them. -/
def templates (l : Layout) (store : Store) : Except HostFault (List Path) :=
  (store.fileNames l.templatesDir).map fun names =>
    (names.filter l.isTemplateName).map l.templatesDir.child

/-- The generated file is there and was changed after the template. -/
def isUpToDate (store : Store) (template output : Path) : Bool :=
  match store.time? template, store.time? output with
  | some changed, some written => changed < written
  | _, _ => false

/-- How a generated file stands to its template. -/
inductive State where
  | rendered
  | stale
  | notRendered
  deriving DecidableEq, Repr

def State.label : State → String
  | rendered => "rendered"
  | stale => "stale"
  | notRendered => "not rendered"

/-- A template with its generated file. -/
structure Status where
  template : Path
  output : Path
  state : State
  deriving DecidableEq

def stateOf (store : Store) (template output : Path) : State :=
  if (store.entry? output).isNone then .notRendered
  else if isUpToDate store template output then .rendered
  else .stale

/-- How things stand with every template. -/
def statuses (l : Layout) (store : Store) : Except HostFault (List Status) :=
  (templates l store).map fun templates => templates.map fun template =>
    let output := l.output template
    ⟨template, output, stateOf store template output⟩

end MachineConfig.Generated
