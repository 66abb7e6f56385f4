import MachineConfig.Failure
import MachineConfig.Text.Utf8

/-!
File trees. A tree holds directories and files under locations, which are paths without `..`. The
root is always there, but nothing can be created in it; if it is not said where the working
directory lies, that too is always there. What a path leads to is found name by name, each name but
the last being that of a directory; no entry is a link to another, so a file has one location. To
ask what lies at a path is no fault where nothing can lie there, but a path or name that is too long
cannot even be asked about.

Everything has a time of its last change: a file when its bytes were written, a directory when a
name in it was created, renamed or removed. A directory lists its names in the order of the entries
of the tree, which may be any.
-/

namespace MachineConfig

/-- A file: its bytes, the nine bits of its permissions, and the time of its last change. -/
structure RegularFile where
  content : ByteArray
  mode : Nat := 0o644
  time : Int

namespace RegularFile

instance : DecidableEq RegularFile := fun f g =>
  decidable_of_iff (f.content.data = g.content.data ∧ f.mode = g.mode ∧ f.time = g.time) <| by
    cases f; cases g; simp [ByteArray.ext_iff]

/-- The owner may read it. -/
def isReadable (f : RegularFile) : Bool := f.mode &&& 0o400 ≠ 0

/-- The owner may write it. -/
def isWritable (f : RegularFile) : Bool := f.mode &&& 0o200 ≠ 0

end RegularFile

inductive Entry where
  | directory
  | file (data : RegularFile)
  deriving DecidableEq

structure Store where
  entries : Table Path Entry := .empty
  /-- The location that relative paths start from. -/
  workingDirectory : Path := {}
  /-- The times of directories; one that is not told of is as old as can be told. -/
  times : Table Path Int := .empty
  deriving DecidableEq, Inhabited

namespace Store

/-- What lies at a location. -/
def at? (s : Store) (location : Path) : Option Entry :=
  if location.names.isEmpty then some .directory else s.entries.get? location

/-- Why a path leads nowhere. -/
inductive Obstacle where
  /-- A directory on the way is not there. -/
  | missingDirectory
  /-- The path or a name in it is too long. -/
  | tooLong
  /-- It holds a character that no name can have. -/
  | unnameable
  deriving DecidableEq, Repr

/-- The fault of an action on a path that leads nowhere. -/
def Obstacle.fault : Obstacle → HostFault
  | missingDirectory | tooLong => .inaccessible
  | unnameable => .unnameable

/-- The most bytes that a name can have. -/
def nameLimit : Nat := 255

/-- The most bytes that a path can have. -/
def pathLimit : Nat := 4095

/-- Why a path leads nowhere, whatever the tree. -/
def obstacle? (p : Path) : Option Obstacle :=
  if p.names.any (!·.toList.all Text.isNameable) then some .unnameable
  else if pathLimit < Text.byteLength p.text then some .tooLong
  else none

/-- One name further from a location, which has to be a directory. -/
def step (s : Store) (location : Path) (name : String) : Except Obstacle Path :=
  if s.at? location ≠ some .directory then .error .missingDirectory
  else if nameLimit < Text.byteLength name then .error .tooLong
  else if name ≠ ".." then .ok { location with names := location.names ++ [name] }
  else if !location.names.isEmpty then .ok location.parent
  else if location.isAbsolute then .ok location
  else .error .missingDirectory

/-- The location that a path leads to, whether or not something lies there. -/
def locate (s : Store) (p : Path) : Except Obstacle Path :=
  match obstacle? p with
  | some obstacle => .error obstacle
  | none => p.names.foldlM s.step (if p.isAbsolute then ⟨.root, []⟩ else s.workingDirectory)

/-- What a path leads to. -/
def entry? (s : Store) (p : Path) : Option Entry := (s.locate p).toOption.bind s.at?

/-- What lies at a path, if that can be asked. -/
def look (s : Store) (p : Path) : Except HostFault (Option Entry) :=
  match s.locate p with
  | .ok location => .ok (s.at? location)
  | .error .tooLong => .error .inaccessible
  | .error _ => .ok none

def contains (s : Store) (p : Path) : Except HostFault Bool := (s.look p).map Option.isSome

def isDirectory (s : Store) (p : Path) : Except HostFault Bool :=
  (s.look p).map (· = some .directory)

def isFile (s : Store) (p : Path) : Except HostFault Bool :=
  (s.look p).map fun
    | some (.file _) => true
    | _ => false

def regularFile? (s : Store) (p : Path) : Option RegularFile :=
  match s.entry? p with
  | some (.file file) => some file
  | _ => none

/-- When what lies at a location was last changed. -/
def timeAt? (s : Store) (location : Path) : Option Int :=
  (s.at? location).map fun
    | .directory => s.times.getD location 0
    | .file file => file.time

/-- When what lies at a path was last changed. -/
def time? (s : Store) (p : Path) : Option Int := (s.locate p).toOption.bind s.timeAt?

/-- The name under which a directory lists an entry, if it is a file that lies in it. -/
def listedName? (directory : Path) : Path × Entry → Option String
  | (p, .file _) => if p.names ≠ [] ∧ p.parent = directory then some p.name else none
  | (_, .directory) => none

/-- The names of the files that lie in the directory at a location, as they are listed. -/
def namesIn (s : Store) (directory : Path) : List String :=
  s.entries.entries.filterMap (listedName? directory)

/-- The names of the files in a directory, none if there is no such directory. -/
def fileNames (s : Store) (directory : Path) : Except HostFault (List String) := do
  match ← s.look directory, s.locate directory with
  | some .directory, .ok location => return s.namesIn location
  | _, _ => return []

/-- The bytes of a file. -/
def read (s : Store) (p : Path) : Except HostFault ByteArray := do
  let location ← (s.locate p).mapError Obstacle.fault
  match s.at? location with
  | some (.file file) => if file.isReadable then return file.content else throw .inaccessible
  | _ => throw .inaccessible

/-- The text of a file, its line ends unified. -/
def readText (s : Store) (p : Path) : Except HostFault String := do
  match Text.readText? (← s.read p) with
  | some text => .ok text
  | none => .error .undecodable

/-- Puts an entry at a location. -/
def put (s : Store) (location : Path) (entry : Entry) : Store :=
  { s with entries := s.entries.insert location entry }

/-- Takes away what lies at a location. -/
def remove (s : Store) (location : Path) : Store := { s with entries := s.entries.erase location }

/-- Sets the time of a directory. -/
def touch (s : Store) (now : Int) (directory : Path) : Store :=
  { s with times := s.times.insert directory now }

/-- New entries can be created next to this location. -/
def allowsCreation (location : Path) : Bool := !(location.isAbsolute && location.names.length ≤ 1)

end Store

end MachineConfig
