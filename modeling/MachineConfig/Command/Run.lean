import MachineConfig.Command.Inspect
import MachineConfig.Command.Render
import MachineConfig.Command.Request
import MachineConfig.Setup.LocalFile

/-!
Running the program: from a command line to an answer.
-/

namespace MachineConfig.Command

def version : String := "0.1.0"

/-- Sets up this machine. Every failure is reported. -/
def runInit (s : Session) (l : Layout) (force : Bool) : Result :=
  let hostname := Host.firstNonempty [s.host.shortName] Setup.namelessMachine
  match Setup.scaffold s.store s.now l hostname force with
  | (store, .error cause) => { result := .ok (.ofFailure cause), store }
  | (store, .ok file) =>
    let pieces := [.verbatim s!"Created {file.text}\n",
      .verbatim "Edit it, then run 'dotplate render' to apply.\n"]
    match s.console.writeAll pieces with
    | .ok output => { result := .ok (.ofOutput 0 output), store }
    | .error fault => { result := .ok (.ofFailure (.display fault)), store }

def runAction (s : Session) (l : Layout) : Action → Result
  | .render templates dryRun force print => runRender s l templates dryRun force print
  | .vars namesOnly => runVars s l namesOnly
  | .list => runList s l
  | .check templates => runCheck s l templates
  | .diff verbose => runDiff s l verbose
  | .arrays => runArrays s l
  | .init force => runInit s l force

/-- From which level on events are shown. -/
inductive Verbosity where
  | debug
  | info
  | warning
  deriving DecidableEq, Repr

/-- The environment asks for everything, the command line for what is written. -/
def verbosity (environ : Vars) (verbose : Bool) : Verbosity :=
  if (Environment.nonempty? environ Environment.debugName).isSome then .debug
  else if verbose then .info
  else .warning

/-- What running the program comes to. -/
inductive Run where
  | misused (message : String)
  /-- The program ends before it does anything. -/
  | failed (cause : Failure)
  | help
  /-- The text is shown and nothing else is done. -/
  | said (text : String)
  | ran (verbosity : Verbosity) (result : Result)

/-- Shows a page. -/
def Page.run : Page → Run
  | help => .help
  | version => .said s!"dotplate {Command.version}\n"

/-- Runs the program. -/
def run (read : Reader) (s : Session) (arguments : List String) : Run :=
  match read s.environ s.store arguments with
  | .misused message => .misused message
  | .failed cause => .failed cause
  | .shown page => page.run
  | .act root verbose action =>
    .ran (verbosity s.environ verbose) <| match findRoot root s.environ s.environ with
      | .error cause => { result := .error cause, store := s.store }
      | .ok root => runAction s { root } action

end MachineConfig.Command
