import MachineConfig.Command.Request
import MachineConfig.Layers.Environment

/-!
A reader of command lines. Options of the whole program stand before the name of a command; those of
a command may stand between its arguments. `--` ends the options, and flags of one letter may be
joined. The root directory, which the environment may give too, is looked at before the command.
-/

namespace MachineConfig.Command

/-- Why a command line is not understood. -/
inductive UsageError where
  | missingCommand
  | unknownCommand (name : String)
  | unknownOption (argument : String)
  | missingValue (option : String)
  | unexpectedValue (option : String)
  | unexpectedArgument (argument : String)
  | unreadableRoot (root : String)
  deriving DecidableEq, Repr

/-- An option: its long name, perhaps a letter, and whether a value follows it. -/
structure Switch where
  name : String
  letter : Option Char := none
  takesValue : Bool := false
  deriving DecidableEq, Repr

/-- Options that were read: their names with their values, empty for flags. -/
abbrev Settings := List (String × String)

/-- Options read from one argument, and the one that still waits for its value. -/
structure Reading where
  settings : Settings
  waiting : Option String := none
  deriving DecidableEq

/-- Splits a text at the first equals sign. -/
def splitValue (cs : List Char) : List Char × Option (List Char) :=
  match cs.dropWhile (· ≠ '=') with
  | _ :: value => (cs.takeWhile (· ≠ '='), some value)
  | [] => (cs, none)

/-- Reads what follows two dashes. -/
def readLong (switches : List Switch) (cs : List Char) : Except UsageError Reading :=
  let (name, value) := splitValue cs
  match switches.find? fun s => s.name.toList = name with
  | none => .error (.unknownOption (String.ofList cs))
  | some s =>
    match s.takesValue, value with
    | true, some value => .ok ⟨[(s.name, String.ofList value)], none⟩
    | true, none => .ok ⟨[], some s.name⟩
    | false, some _ => .error (.unexpectedValue s.name)
    | false, none => .ok ⟨[(s.name, "")], none⟩

/-- Reads letters that follow one dash. The rest after a letter that takes a value is its value. -/
def readLetters (switches : List Switch) : List Char → Except UsageError Reading
  | [] => .ok ⟨[], none⟩
  | c :: cs =>
    match switches.find? fun s => s.letter = some c with
    | none => .error (.unknownOption (String.ofList [c]))
    | some s =>
      if s.takesValue then
        if cs.isEmpty then .ok ⟨[], some s.name⟩
        else .ok ⟨[(s.name, String.ofList cs)], none⟩
      else do
        let more ← readLetters switches cs
        .ok { more with settings := (s.name, "") :: more.settings }

/-- Reads one argument, if it is an option. -/
def readSwitch? (switches : List Switch) (argument : String) :
    Option (Except UsageError Reading) :=
  match argument.toList with
  | '-' :: '-' :: cs => some (readLong switches cs)
  | '-' :: c :: cs => some (readLetters switches (c :: cs))
  | _ => none

/-- A command line, its options apart from its other arguments. -/
structure Line where
  settings : Settings := []
  arguments : List String := []
  deriving DecidableEq

/-- Separates options from arguments. If they are not `mixed`, the first argument ends the
options. -/
def separate (switches : List Switch) (mixed : Bool) : List String → Except UsageError Line
  | [] => .ok {}
  | "--" :: arguments => .ok { arguments }
  | argument :: rest =>
    match readSwitch? switches argument with
    | none =>
      if mixed then do
        let line ← separate switches mixed rest
        .ok { line with arguments := argument :: line.arguments }
      else .ok { arguments := argument :: rest }
    | some (.error e) => .error e
    | some (.ok ⟨settings, none⟩) => do
      let line ← separate switches mixed rest
      .ok { line with settings := settings ++ line.settings }
    | some (.ok ⟨settings, some name⟩) =>
      match rest with
      | [] => .error (.missingValue name)
      | value :: rest => do
        let line ← separate switches mixed rest
        .ok { line with settings := settings ++ (name, value) :: line.settings }

namespace Line

def has (l : Line) (name : String) : Bool := l.settings.any (·.1 = name)

/-- The value of an option, the last one if it is repeated. -/
def value? (l : Line) (name : String) : Option String := l.settings.reverse.lookup name

end Line

def helpSwitch : Switch := ⟨"help", none, false⟩

def programSwitches : List Switch :=
  [⟨"root", some 'r', true⟩, ⟨"verbose", some 'v', false⟩, ⟨"version", none, false⟩, helpSwitch]

/-- The page that options ask for, the first one if there are several. -/
def Line.page? (l : Line) : Option Page :=
  l.settings.findSome? fun s =>
    if s.1 = "version" then some .version
    else if s.1 = helpSwitch.name then some .help
    else none

/-- A command: its options, whether it takes arguments, and the action that they make. -/
structure Spec where
  name : String
  switches : List Switch := []
  takesArguments : Bool := false
  action : Line → Action

def specs : List Spec := [
  { name := "render", takesArguments := true
    switches := [⟨"dry-run", none, false⟩, ⟨"force", some 'f', false⟩, ⟨"stdout", none, false⟩]
    action := fun l => .render l.arguments (l.has "dry-run") (l.has "force") (l.has "stdout") },
  { name := "vars", switches := [⟨"names-only", none, false⟩]
    action := fun l => .vars (l.has "names-only") },
  { name := "list", action := fun _ => .list },
  { name := "check", takesArguments := true, action := fun l => .check l.arguments },
  { name := "diff", switches := [⟨"verbose", some 'v', false⟩]
    action := fun l => .diff (l.has "verbose") },
  { name := "arrays", action := fun _ => .arrays },
  { name := "init", switches := [⟨"force", none, false⟩]
    action := fun l => .init (l.has "force") }]

/-- What a command with these arguments asks for. -/
def Spec.read (s : Spec) (arguments : List String) : Except UsageError (Page ⊕ Action) := do
  let line ← separate (helpSwitch :: s.switches) true arguments
  if let some page := line.page? then return .inl page
  match s.takesArguments, line.arguments with
  | false, argument :: _ => throw (.unexpectedArgument argument)
  | _, _ => return .inr (s.action line)

/-- What a command and its arguments ask for. In the place of a command there may be options of the
program, and of these the ones that ask for a page count. -/
def readCommand : List String → Except UsageError (Page ⊕ Action)
  | [] => .error .missingCommand
  | name :: rest =>
    match specs.find? (·.name = name) with
    | some s => s.read rest
    | none => do
      let line ← separate programSwitches false (name :: rest)
      match line.page? with
      | some page => return .inl page
      | none => throw (.unknownCommand name)

/-- How an argument list is not understood. -/
def UsageError.message : UsageError → String
  | missingCommand => "Missing command."
  | unknownCommand name => s!"No such command '{name}'."
  | unknownOption option => s!"No such option: {option}"
  | missingValue option => s!"Option '--{option}' requires an argument."
  | unexpectedValue option => s!"Option '--{option}' does not take a value."
  | unexpectedArgument argument => s!"Got unexpected extra argument ({argument})"
  | unreadableRoot root => s!"Invalid value for '--root': '{root}' is not readable."

/-- The root directory that the command line gives, or else the environment. -/
def givenRoot? (environ : Vars) (line : Line) : Option String :=
  line.value? "root" <|> Environment.nonempty? environ Environment.rootName

/-- What the command in a line asks for, unless the root directory that is given cannot be used. -/
def Line.request (environ : Vars) (store : Store) (line : Line) : Except UsageError Request := do
  let given := givenRoot? environ line
  let root := given.map Path.ofText
  if root.any (Store.obstacle? · = some .unnameable) then return .failed (.host .unnameable)
  if root.any fun r => (store.regularFile? r).any (!·.isReadable) then
    throw (.unreadableRoot (given.getD ""))
  match ← readCommand line.arguments with
  | .inl page => return .shown page
  | .inr action => return .act root (line.has "verbose") action

/-- Reads a command line. Pages are shown whatever command follows. -/
def readArguments : Reader := fun environ store arguments =>
  let request : Except UsageError Request := do
    if arguments.isEmpty then throw .missingCommand
    let line ← separate programSwitches false arguments
    match line.page? with
    | some page => return .shown page
    | none => line.request environ store
  match request with
  | .ok request => request
  | .error e => .misused e.message

end MachineConfig.Command
