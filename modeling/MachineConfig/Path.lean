import MachineConfig.Text.Search

/-!
Paths: an anchor and the names after it. Reading a path drops empty names and `.`, and keeps `..`
because what it leads to depends on the file tree. `ofText (text p) = p` for the paths that
reading gives.
-/

namespace MachineConfig

/-- Where a path starts: at the working directory, at the root, or at the place that exactly two
slashes stand for. -/
inductive Anchor where
  | relative
  | root
  | doubleRoot
  deriving DecidableEq, Inhabited

structure Path where
  anchor : Anchor := .relative
  names : List String := []
  deriving DecidableEq, Inhabited

namespace Path

def anchorOf : List Char → Anchor
  | '/' :: '/' :: '/' :: _ => .root
  | '/' :: '/' :: _ => .doubleRoot
  | '/' :: _ => .root
  | _ => .relative

def ofText (s : String) : Path :=
  ⟨anchorOf s.toList, (Text.splitAt '/' s).filter fun name => name ≠ "" ∧ name ≠ "."⟩

def text (p : Path) : String :=
  let names := "/".intercalate p.names
  match p.anchor with
  | .relative => if p.names.isEmpty then "." else names
  | .root => "/" ++ names
  | .doubleRoot => "//" ++ names

def isAbsolute (p : Path) : Bool := p.anchor ≠ .relative

/-- The path `q` as seen from `p`. -/
def join (p q : Path) : Path :=
  if q.isAbsolute then q else { p with names := p.names ++ q.names }

/-- The path of this name in a directory. -/
def child (p : Path) (name : String) : Path := p.join (ofText name)

/-- The last name, empty if there is none. -/
def name (p : Path) : String := p.names.getLastD ""

/-- The path without its last name. -/
def parent (p : Path) : Path := { p with names := p.names.dropLast }

/-- The directory that `~` stands for where `HOME` has this value. -/
def ofHome (home : String) : Path :=
  ofText (String.ofList ((home.toList.reverse.dropWhile (· = '/')).reverse) ++
    if home.toList.all (· = '/') then "/" else "")

def startsWithTilde (s : String) : Bool := s.toList.head? = some '~'

/-- Replaces a leading `~`. There is no result if the home directory is unknown, or another
user's. -/
def expandHome? (home : Option String) (p : Path) : Option Path :=
  match p.anchor, p.names with
  | .relative, first :: rest =>
    if startsWithTilde first then
      match if first = "~" then home else none with
      | some home =>
        if startsWithTilde home then none
        else some { ofHome home with names := (ofHome home).names ++ rest }
      | none => none
    else some p
  | _, _ => some p

end Path

end MachineConfig
