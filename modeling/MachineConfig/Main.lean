import MachineConfig.Command.Run
import MachineConfig.Command.Usage
import MachineConfig.Terminal
import MachineConfig.Yaml.Loader
import Std.Time.Zoned

/-!
The program. It looks at the machine and at the part of the file tree that a command may need, runs
the command on what it saw, writes what has changed and shows the answer.
-/

namespace MachineConfig.Main

/-- The text of a file of the running system, empty if it cannot be read. -/
def systemText (file : String) : IO String := do
  try return String.ofList (Text.ofChars (Text.decodeLossy (← IO.FS.readBinFile file)))
  catch _ => return ""

/-- A text as the running system can show it, halves of surrogate pairs replaced. -/
def systemString (text : String) : String :=
  String.ofList <| (Text.codes text.toList).map fun code =>
    if Text.isCharacter code then Char.ofNat code else '\uFFFD'

/-- A file's only line. -/
def systemLine (file : String) : IO String := return Text.strip (← systemText file)

/-- The environment of this process. -/
def environment : IO Vars := do
  let entries := Text.splitAt '\x00' (← systemText "/proc/self/environ")
  return Table.ofList <| entries.filterMap fun entry =>
    let cs := entry.toList
    if '=' ∈ cs then
      some (String.ofList (cs.takeWhile (· ≠ '=')),
        String.ofList ((cs.dropWhile (· ≠ '=')).drop 1))
    else none

/-- The user that this process runs for. -/
def userId : IO (Option Nat) := do
  let lines := Text.splitAt '\n' (← systemText "/proc/self/status")
  let line := lines.find? fun line => "Uid:".toList.isPrefixOf line.toList
  return line.bind fun line =>
    (String.ofList ((line.toList.drop 4).dropWhile Text.isBlank
      |>.takeWhile Char.isDigit)).toNat?

/-- The name of a user's account. -/
def accountName (user : Option Nat) : IO (Option String) := do
  let lines := (Text.splitAt '\n' (← systemText "/etc/passwd")).map (Text.splitAt ':')
  let account := lines.find? fun fields => (fields[2]?.bind String.toNat?) == user && user.isSome
  return account.bind List.head?

def now : IO Moment := do
  let t ← Std.Time.PlainDateTime.now
  return { date := ⟨t.year.toInt.toNat, t.month.toNat, t.day.toNat⟩
           hour := t.hour.toNat, minute := t.minute.toNat, second := t.second.toNat
           micro := 0, offset := none }

def host : IO Host := do
  let hostname ← systemLine "/proc/sys/kernel/hostname"
  let user ← userId
  let root ← IO.currentDir
  return { hostname, domainName := hostname
           system := ← systemLine "/proc/sys/kernel/ostype"
           machine := ← systemLine "/proc/sys/kernel/arch"
           userId := user
           accountName := ← accountName user
           kernel := ← systemText "/proc/version"
           controlGroups := ← systemText "/proc/1/cgroup"
           hasContainerMark := ← (root / "/.dockerenv").pathExists
           now := ← now }

/-- The content of a file and its permissions, as far as they matter: one that cannot be read has
none. -/
def contentOf (file : String) : IO (ByteArray × Nat) := do
  try return (← IO.FS.readBinFile file, 0o644)
  catch _ => return (.empty, 0)

/-- Takes in what lies at a location. -/
def see (store : Store) (location : Path) : IO Store := do
  let file := (← IO.currentDir) / systemString location.text
  if !(← file.pathExists) then return store
  let modified := (← file.metadata).modified
  let time : Int := modified.sec * 1000000000 + modified.nsec.toNat
  if ← file.isDir then return (store.put location .directory).touch time location
  let (content, mode) ← contentOf file.toString
  return store.put location (.file ⟨content, mode, time⟩)

/-- Takes in what lies on the way along a path and at its end. -/
def seePath (store : Store) (p : Path) : IO Store := do
  let mut store := store
  for n in List.range p.names.length do
    match store.locate { p with names := p.names.take (n + 1) } with
    | .ok location => store ← see store location
    | .error _ => return store
  return store

/-- Takes in what lies directly in a directory. -/
def seeDirectory (store : Store) (p : Path) : IO Store := do
  let mut store ← seePath store p
  match store.entry? p, store.locate p with
  | some .directory, .ok location =>
    for child in ← ((← IO.currentDir) / systemString location.text).readDir do
      let name := Text.ofString child.fileName
      store ← see store { location with names := location.names ++ [name] }
    return store
  | _, _ => return store

/-- The part of the file tree that the commands of a root directory look at, with the files that
the arguments may name. -/
def survey (l : Layout) (arguments : List String) (environ : Vars) : IO Store := do
  let here := Path.ofText (Text.ofString (← IO.currentDir).toString)
  let mut store ← seePath { workingDirectory := here } here
  let home := (processHome environ).toOption.getD here
  for name in ["work", "corp", "personal", ".personal-machine"] do
    store ← seePath store (home.child name)
  for file in [l.root, l.defaultsFile, l.localFile, l.ignoreFile] do
    store ← seePath store file
  store ← seeDirectory store l.templatesDir
  store ← seeDirectory store l.generatedDir
  for argument in arguments do
    store ← seePath store (Path.ofText argument)
    store ← seePath store (l.templatesDir.child argument)
    store ← seePath store (l.templatesDir.child (argument ++ l.extension))
  return store

/-- Writes what differs between two trees, directories before what lies in them. -/
def writeChanges (old new : Store) : IO Unit := do
  let here ← IO.currentDir
  let changes := new.entries.entries.filter fun e => old.entries.get? e.1 ≠ some e.2
  for (location, entry) in changes.mergeSort (·.1.names.length ≤ ·.1.names.length) do
    let file := here / systemString location.text
    match entry with
    | .directory => IO.FS.createDirAll file
    | .file data =>
      if ← file.pathExists then IO.FS.writeBinFile file data.content
      else
        let fresh := here / (systemString location.text ++ ".tmp")
        IO.FS.writeBinFile fresh data.content
        IO.FS.rename fresh file

def hostText : HostFault → String
  | .inaccessible => "A file or directory cannot be read or written."
  | .undecodable => "A file is not well-formed text."
  | .unnameable => "A path holds a character that no name can have."
  | .unencodable => "A text holds half of a surrogate pair and cannot be written."

/-- An event is shown from this level on. -/
def isShown (v : Command.Verbosity) (e : Event) : Bool :=
  v ≠ .warning || e.level ≠ .info

/-- Tells of a failure. -/
def report (cause : Failure) : IO Unit :=
  IO.eprintln (systemString (Command.Response.report hostText cause))

/-- Shows an answer and gives the status to end with. -/
def finish (v : Command.Verbosity) (old : Store) (result : Command.Result) : IO UInt32 := do
  for event in result.events.filter (isShown v) do
    IO.eprintln (systemString s!"{event.level.label}: {event.message hostText}")
  writeChanges old result.store
  match result.result with
  | .error cause =>
    report cause
    return 1
  | .ok response =>
    (← IO.getStdout).write (Text.utf8 response.output)
    if let some cause := response.failure then report cause
    return UInt32.ofNat response.exitCode

/-- The layout that a command line means, as far as it can be told. -/
def layoutOf (arguments : List String) (environ : Vars) : Layout :=
  let given := match Command.readArguments environ {} arguments with
    | .act root _ _ => root
    | _ => none
  { root := (findRoot given environ environ).toOption.getD {} }

def run (arguments : List String) : IO UInt32 := do
  let environ ← environment
  let arguments := arguments.map Text.ofString
  let store ← survey (layoutOf arguments environ) arguments environ
  let time ← Std.Time.Timestamp.now
  let session : Command.Session :=
    { host := ← host, environ, store, now := time.toNanosecondsSinceUnixEpoch.toInt, hostText
      load := Yaml.loader, console := terminal }
  match Command.run Command.readArguments session arguments with
  | .misused message =>
    IO.eprintln (systemString s!"Error: {message}")
    return 2
  | .failed cause =>
    report cause
    return 1
  | .help =>
    IO.println ("\n".intercalate Command.helpLines)
    return 0
  | .said text =>
    IO.print text
    return 0
  | .ran verbosity result => finish verbosity store result

end MachineConfig.Main

def main (arguments : List String) : IO UInt32 := MachineConfig.Main.run arguments
