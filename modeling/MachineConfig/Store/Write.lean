import MachineConfig.Store.Basic

/-!
Writing to a file tree. A file is replaced as a whole or not at all: the new content goes to a
temporary file in the same directory, which then takes the place of the old one. Each step may be
refused, and a text that holds half of a surrogate pair cannot be written; after a refusal the
temporary file is gone and the old content is untouched, but the directory has been written in.
-/

namespace MachineConfig.Store

/-- Creates an entry where nothing lies. -/
def create (s : Store) (now : Int) (location : Path) (entry : Entry) : Store :=
  (s.put location entry).touch now location.parent

/-- Takes an entry out of its directory. -/
def discard (s : Store) (now : Int) (location : Path) : Store :=
  (s.remove location).touch now location.parent

/-- Makes the directory at a path whose parent is there; it may exist already. -/
def makeDirectory (s : Store) (now : Int) (p : Path) : Store × Except HostFault Unit :=
  match s.locate p with
  | .error obstacle => (s, .error obstacle.fault)
  | .ok location =>
    match s.at? location with
    | some .directory => (s, .ok ())
    | some (.file _) => (s, .error .inaccessible)
    | none =>
      if allowsCreation location then
        ((s.create now location .directory).touch now location, .ok ())
      else (s, .error .inaccessible)

/-- Makes the directories on the way along these names, from the path `done` on. -/
def makeDirectoriesFrom (s : Store) (now : Int) (done : Path) :
    List String → Store × Except HostFault Unit
  | [] => (s, .ok ())
  | name :: names =>
    let p := { done with names := done.names ++ [name] }
    match s.makeDirectory now p with
    | (s, .ok ()) => s.makeDirectoriesFrom now p names
    | (s, .error fault) => (s, .error fault)

/-- Makes a directory with all directories above it that are missing. -/
def makeDirectories (s : Store) (now : Int) (p : Path) : Store × Except HostFault Unit :=
  match obstacle? p with
  | some obstacle => (s, .error obstacle.fault)
  | none => s.makeDirectoriesFrom now { p with names := [] } p.names

/-- Writes a file in place: an old file keeps its permissions. -/
def overwriteBytes (s : Store) (now : Int) (p : Path) (content : ByteArray) :
    Store × Except HostFault Unit :=
  match s.locate p with
  | .error obstacle => (s, .error obstacle.fault)
  | .ok location =>
    match s.at? location with
    | some .directory => (s, .error .inaccessible)
    | some (.file old) =>
      if old.isWritable then (s.put location (.file { old with content, time := now }), .ok ())
      else (s, .error .inaccessible)
    | none =>
      if allowsCreation location then
        (s.create now location (.file { content, time := now }), .ok ())
      else (s, .error .inaccessible)

/-- Writes a text in place. The file is emptied before a text that cannot be written is found
out. -/
def overwrite (s : Store) (now : Int) (p : Path) (text : String) : Store × Except HostFault Unit :=
  if Text.isEncodable text then s.overwriteBytes now p (Text.utf8 text)
  else match s.overwriteBytes now p .empty with
  | (s, .ok ()) => (s, .error .unencodable)
  | (s, .error fault) => (s, .error fault)

/-- The steps of replacing a file. -/
inductive ReplaceStep where
  | makeParents
  | inspect
  | createTemporary
  | fill
  | setMode
  | rename
  deriving DecidableEq, Repr

/-- The length of the longest last name in the tree. -/
def longestName (s : Store) : Nat :=
  s.entries.keys.foldl (fun n p => max n p.name.length) 0

/-- A name for a temporary file beside `name`. It stands for one that is free, so it is longer
than every name in the tree. -/
def temporaryName (s : Store) (name : String) : String :=
  "." ++ name ++ "." ++ String.ofList (List.replicate (s.longestName + 1) '_') ++ ".tmp"

/-- How many more bytes than a name the names of temporary files beside it have. -/
def temporaryMargin : Nat := 14

/-- A temporary file can be named after this name. -/
def allowsTemporary (name : String) : Bool := Text.byteLength name + temporaryMargin ≤ nameLimit

/-- The permissions that a replaced file will have: those of the old one. -/
def modeFor (s : Store) (p : Path) : Except HostFault Nat := do
  match ← s.look p with
  | some (.file old) => return old.mode &&& 0o777
  | _ => return 0o644

/-- Where the temporary file beside a path lies. -/
def temporaryLocation (s : Store) (p : Path) : Except HostFault Path := do
  let directory ← (s.locate p.parent).mapError Obstacle.fault
  if !p.name.toList.all Text.isNameable then throw .unnameable
  if s.at? directory ≠ some .directory || !allowsTemporary p.name then throw .inaccessible
  let location := { directory with names := directory.names ++ [s.temporaryName p.name] }
  if allowsCreation location then return location else throw .inaccessible

/-- Moves the temporary file at `source` to where a path leads, in the same directory; a directory
is not replaced. -/
def renameTo (s : Store) (now : Int) (source p : Path) : Store × Except HostFault Unit :=
  match s.locate p, s.at? source with
  | .ok location, some entry =>
    if s.at? location = some .directory then (s, .error .inaccessible)
    else ((s.discard now source).put location entry, .ok ())
  | _, _ => (s, .error .inaccessible)

/-- Replaces a file in a tree where the steps that satisfy `fails` are refused. -/
def replaceUnder (fails : ReplaceStep → Bool) (s : Store) (now : Int) (p : Path) (text : String) :
    Store × Except HostFault Unit :=
  let refused (s : Store) := (s, Except.error HostFault.inaccessible)
  if fails .makeParents then refused s
  else match s.makeDirectories now p.parent with
  | (s, .error fault) => (s, .error fault)
  | (s, .ok ()) =>
    if fails .inspect then refused s
    else match s.modeFor p with
    | .error fault => (s, .error fault)
    | .ok mode =>
      if fails .createTemporary then refused s
      else match s.temporaryLocation p with
      | .error fault => (s, .error fault)
      | .ok location =>
        let created := s.create now location (.file ⟨.empty, 0o600, now⟩)
        if fails .fill then refused (created.discard now location)
        else if !Text.isEncodable text then (created.discard now location, .error .unencodable)
        else
          let filled := created.put location (.file ⟨Text.utf8 text, 0o600, now⟩)
          if fails .setMode then refused (filled.discard now location)
          else
            let ready := filled.put location (.file ⟨Text.utf8 text, mode, now⟩)
            if fails .rename then refused (ready.discard now location)
            else match ready.renameTo now location p with
            | (s, .ok ()) => (s, .ok ())
            | (s, .error fault) => (s.discard now location, .error fault)

/-- Replaces a file, making the directories above it that are missing. -/
def replace (s : Store) (now : Int) (p : Path) (text : String) : Store × Except HostFault Unit :=
  s.replaceUnder (fun _ => false) now p text

end MachineConfig.Store
