import MachineConfig.Console
import MachineConfig.Layers.Sources
import MachineConfig.Outcome

/-!
What a command works with and what it answers.
-/

namespace MachineConfig.Command

/-- The machine, the environment and the file tree that a command finds, with the loader of
variables files and the console that it works with. -/
structure Session where
  host : Host
  environ : Vars
  store : Store
  now : Int
  /-- How the machine's refusals read. -/
  hostText : HostFault → String
  load : Variables.Loader
  console : Console

structure Response where
  exitCode : Nat := 0
  output : String := ""
  /-- What is reported as an error. -/
  failure : Option Failure := none

namespace Response

/-- The answer of a command that reports no error. -/
def ofOutput (exitCode : Nat) (output : String) : Response :=
  { exitCode := exitCode, output := output }

/-- The answer of a command that ends with an error. -/
def ofFailure (cause : Failure) : Response := { exitCode := cause.exitCode, failure := some cause }

/-- How an error reads. -/
def report (hostText : HostFault → String) (cause : Failure) : String :=
  (if cause.isReported then "Error: " else "Unexpected error: ") ++ cause.message hostText

end Response

/-- What a command came to: its answer, or a failure that it does not expect. -/
abbrev Result := Outcome Response

namespace Session

/-- Shows pieces of output, if all of them can be shown. -/
def say (s : Session) (pieces : List Console.Piece) (store : Store) : Outcome String :=
  { result := (s.console.writeAll pieces).mapError Failure.display, store }

/-- Gives an answer that leaves the file tree as it is. -/
def answer (s : Session) (pieces : List Console.Piece) (exitCode : Nat := 0) : Result :=
  (s.say pieces s.store).map (Response.ofOutput exitCode)

/-- Goes on with something that looks at the file tree. -/
def withLook {α : Type} (s : Session) (look : Except HostFault α) (next : α → Result) : Result :=
  match look with
  | .ok a => next a
  | .error fault => { result := .error (.host fault), store := s.store }

/-- Goes on with the variables and arrays of a root directory, unless they cannot be read. A fault
in a variables file is reported. -/
def withSources (s : Session) (l : Layout) (next : Sources → Result) : Result :=
  match autoVars s.host s.store l.root s.environ s.environ with
  | .error cause => { result := .error cause, store := s.store }
  | .ok auto =>
    match Sources.load s.load s.store l auto s.environ with
    | (events, .ok sources) =>
      let r := next sources
      { r with events := events ++ r.events }
    | (events, .error cause) =>
      let result := if cause.isReported then .ok (.ofFailure cause) else .error cause
      { result, events, store := s.store }

/-- The template that a name on the command line means: the file of this path if there is one,
else a template of the root directory, with its extension or without. -/
def findTemplate (s : Session) (l : Layout) (name : String) : Except HostFault Path := do
  let given := Path.ofText name
  if given.isAbsolute then return given
  if ← s.store.contains given then return given
  let plain := l.templatesDir.child name
  if ← s.store.contains plain then return plain
  if l.isTemplateName name then return plain
  let extended := l.templatesDir.child (name ++ l.extension)
  return if ← s.store.contains extended then extended else plain

end Session

end MachineConfig.Command
