import MachineConfig.Failure
import MachineConfig.Store.Basic

/-!
What a command line can ask for. How it is read is left to a reader, which sees the environment and
may look at the file tree.
-/

namespace MachineConfig.Command

/-- The commands with their options. -/
inductive Action where
  | render (templates : List String) (dryRun force print : Bool)
  | vars (namesOnly : Bool)
  | list
  | check (templates : List String)
  | diff (verbose : Bool)
  | arrays
  | init (force : Bool)
  deriving DecidableEq, Repr

/-- What can be shown instead of doing anything. -/
inductive Page where
  | help
  | version
  deriving DecidableEq, Repr

/-- What a command line comes to. -/
inductive Request where
  /-- It is not understood. -/
  | misused (message : String)
  /-- Reading it fails. -/
  | failed (cause : Failure)
  | shown (page : Page)
  | act (root : Option Path) (verbose : Bool) (action : Action)

/-- Reads the arguments of a command line. -/
abbrev Reader := Vars → Store → List String → Request

end MachineConfig.Command
