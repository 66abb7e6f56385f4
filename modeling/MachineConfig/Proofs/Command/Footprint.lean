import MachineConfig.Command.Arguments
import MachineConfig.Proofs.Command.FootprintLemmas
import MachineConfig.Terminal
import MachineConfig.Yaml.Loader

/-!
What runs of the program change in the file tree. Each may be called from another directory, with
any arguments, and may succeed or fail: the files that are not as they were are generated files of
templates, the local variables file and the list of ignored files; what only looks changes nothing
at all (`afterAll_footprint`).
-/

namespace MachineConfig

open Store

namespace Store

/-- The tree as it is seen from a directory. -/
def seenFrom (s : Store) (directory : Path) : Store := { s with workingDirectory := directory }

theorem seenFrom_seenFrom_eq {s : Store} {directory : Path} (h : s.workingDirectory = directory)
    (other : Path) : (s.seenFrom other).seenFrom directory = s := by
  rw [← h]
  rfl

theorem WritesOnly.seenFrom {touched : Path → Prop} {s t : Store} (h : WritesOnly touched s t)
    (directory : Path) : WritesOnly touched (s.seenFrom directory) (t.seenFrom directory) :=
  ⟨⟨rfl, h.directories.directory⟩, h.file, h.untouched⟩

end Store

namespace Command

open Generated Setup

/-- The file tree that a run leaves. -/
def Run.store (r : Run) (before : Store) : Store :=
  match r with
  | .ran _ result => result.store
  | _ => before

/-- The actions that only look at the file tree. -/
def Action.onlyLooks : Action → Bool
  | .render _ dryRun _ print => dryRun || print
  | .init _ => false
  | _ => true

/-- The places of the files that an action may write. -/
def Action.places (l : Layout) : Action → Store → Path → Prop
  | .render names _ _ _ => IsOutput l (MayRender l names)
  | .init _ => IsSetUp l
  | _ => fun _ _ => False

/-- What only looks leaves the tree as it is. -/
theorem store_runAction (s : Session) (l : Layout) {action : Action} (h : action.onlyLooks) :
    (runAction s l action).store = s.store := by
  cases action with
  | render names dryRun force print => exact store_runRender s l names force h
  | vars namesOnly => exact store_runVars s l namesOnly
  | list => exact store_runList s l
  | check names => exact store_runCheck s l names
  | diff verbose => exact store_runDiff s l verbose
  | arrays => exact store_runArrays s l
  | init => cases h

theorem runAction_writes (s : Session) (l : Layout) {action : Action}
    (h : action.onlyLooks = false) :
    Writes (action.places l) s.store (runAction s l action).store := by
  cases action with
  | render names dryRun force print =>
    obtain ⟨rfl, rfl⟩ : dryRun = false ∧ print = false := by simpa [Action.onlyLooks] using h
    exact runRender_writes s l names force
  | init force =>
    have hwrites := scaffold_writes s.store s.now l
      (Host.firstNonempty [s.host.shortName] namelessMachine) force
    simp only [runAction, runInit]
    split
    · next t cause hscaffold => rwa [hscaffold] at hwrites
    · next t file hscaffold =>
      rw [hscaffold] at hwrites
      split <;> exact hwrites
  | vars | list | check | diff | arrays => cases h

/-- Running the program leaves the tree as it is, or does what an action does in the root directory
that is found. -/
theorem store_run (read : Reader) (s : Session) (arguments : List String) :
    (run read s arguments).store s.store = s.store ∨ ∃ root verbose action directory,
      read s.environ s.store arguments = .act root verbose action ∧
        findRoot root s.environ s.environ = .ok directory ∧
        (run read s arguments).store s.store =
          (runAction s { root := directory } action).store := by
  rw [run]
  cases hread : read s.environ s.store arguments with
  | misused message => exact .inl rfl
  | failed cause => exact .inl rfl
  | shown page => cases page <;> exact .inl rfl
  | act root verbose action =>
    dsimp only
    cases hroot : findRoot root s.environ s.environ with
    | error cause => exact .inl rfl
    | ok directory => exact .inr ⟨root, verbose, action, directory, rfl, hroot, rfl⟩

/-- A call of the program: the directory it is called in, its arguments, what it finds besides the
file tree, and what it works with. -/
structure Call where
  workingDirectory : Path
  arguments : List String
  host : Host
  environ : Vars
  now : Int
  hostText : HostFault → String
  read : Reader
  load : Variables.Loader
  console : Console

namespace Call

def session (c : Call) (s : Store) : Session where
  host := c.host
  environ := c.environ
  store := s.seenFrom c.workingDirectory
  now := c.now
  hostText := c.hostText
  load := c.load
  console := c.console

/-- The tree after a call. -/
def after (c : Call) (s : Store) : Store :=
  ((run c.read (c.session s) c.arguments).store (s.seenFrom c.workingDirectory)).seenFrom
    s.workingDirectory

/-- The action that a call asks for in a tree, and the root directory that it is for. -/
def order? (c : Call) (s : Store) : Option (Layout × Action) :=
  match c.read c.environ (s.seenFrom c.workingDirectory) c.arguments with
  | .act root _ action =>
    match findRoot root c.environ c.environ with
    | .ok root => some ({ root }, action)
    | .error _ => none
  | _ => none

/-- What a call asks for only looks at the file tree, or it asks for nothing that is done. -/
def onlyLooks (c : Call) (s : Store) : Bool :=
  (c.order? s).all fun order => order.2.onlyLooks

/-- A call leaves the tree as it is, or does what its action does. -/
theorem after_cases (c : Call) (s : Store) : c.after s = s ∨ ∃ l action,
    c.order? s = some (l, action) ∧
      c.after s = (runAction (c.session s) l action).store.seenFrom s.workingDirectory := by
  rcases store_run c.read (c.session s) c.arguments with
    hsame | ⟨root, verbose, action, directory, hread, hroot, hrun⟩
  · have hback := congrArg (Store.seenFrom · s.workingDirectory) hsame
    exact .inl hback
  · have horder : c.order? s = some ({ root := directory }, action) := by
      change c.read c.environ (s.seenFrom c.workingDirectory) c.arguments = _ at hread
      change findRoot root c.environ c.environ = _ at hroot
      rw [order?, hread]
      simp only [hroot]
    exact .inr ⟨_, action, horder, congrArg (Store.seenFrom · s.workingDirectory) hrun⟩

end Call

/-- A call with the tree that it finds. -/
structure Turn where
  call : Call
  before : Store

namespace Turn

/-- The tree as it is seen from where the call is made. -/
def view (turn : Turn) (s : Store) : Store := s.seenFrom turn.call.workingDirectory

/-- The call may render this template file, which is one of the root directory of `l` or one that
an argument names. -/
def MayRender (turn : Turn) (l : Layout) (s : Store) (template : Path) : Prop :=
  ∃ names force, turn.call.order? turn.before = some (l, .render names false force false) ∧
    Command.MayRender l names (turn.view s) template ∧
    ((turn.view s).regularFile? template).isSome

/-- The places of the files that the call may write. -/
def places (turn : Turn) (s : Store) (location : Path) : Prop :=
  ∃ l action, turn.call.order? turn.before = some (l, action) ∧ action.onlyLooks = false ∧
    action.places l (turn.view s) location

theorem writes (turn : Turn) :
    Writes turn.places turn.before (turn.call.after turn.before) := by
  obtain ⟨c, s⟩ := turn
  rcases c.after_cases s with hsame | ⟨l, action, horder, hafter⟩
  · change Writes _ s (c.after s)
    rw [hsame]
    exact .refl _ s
  change Writes _ s (c.after s)
  rw [hafter]
  cases hlooks : action.onlyLooks with
  | true =>
    rw [store_runAction _ l hlooks]
    exact .refl _ s
  | false =>
    have hwrites := runAction_writes (c.session s) l hlooks
    have hback := seenFrom_seenFrom_eq hwrites.directories.workingDirectory s.workingDirectory
    exact (hwrites.seenFrom s.workingDirectory).mono fun location hplaces =>
      ⟨l, action, horder, hlooks, hback.symm ▸ hplaces⟩

end Turn

end Command

end MachineConfig
