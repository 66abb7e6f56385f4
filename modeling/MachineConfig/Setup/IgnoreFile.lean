import MachineConfig.Layout
import MachineConfig.Store.Write

/-!
The list of files that version control ignores. The local variables file and the generated files
belong on it; what is missing is added at its end.
-/

namespace MachineConfig.Setup

/-- What has to be ignored. -/
inductive Ignored where
  | localFile
  | generatedDir
  deriving DecidableEq, Repr

namespace Ignored

def all : List Ignored := [localFile, generatedDir]

/-- The line that is added. -/
def entry : Ignored → String
  | localFile => "templates/" ++ Layout.localName
  | generatedDir => "generated/"

/-- What a line that counts ends in. -/
def endings : Ignored → List String
  | localFile => [Layout.localName]
  | generatedDir => ["generated", "generated/"]

/-- The line is one of the endings, or has one of them after a slash. Nothing else about the line
matters. -/
def isCoveredBy (i : Ignored) (line : String) : Bool :=
  i.endings.any fun ending =>
    line = ending || ("/" ++ ending).toList.isSuffixOf line.toList

end Ignored

/-- What no line of a text covers. -/
def uncovered (text : String) : List Ignored :=
  Ignored.all.filter fun i => !(Text.splitAt '\n' text).any i.isCoveredBy

/-- The text with a line for all that it does not cover. -/
def withEntries (text : String) : String :=
  match uncovered text with
  | [] => text
  | missing =>
    let start := if text.toList.getLast?.all (· = '\n') then text else text ++ "\n"
    start ++ String.join (missing.map fun i => i.entry ++ "\n")

/-- Sees to it that the list of ignored files under `root` has the entries. The file is only
written if one is missing; what was read from it can be written again. -/
def ensureIgnored (store : Store) (now : Int) (l : Layout) : Store × Except HostFault Unit :=
  let file := l.ignoreFile
  let old := do
    if ← store.contains file then store.readText file else return ""
  match old with
  | .error fault => (store, .error fault)
  | .ok text =>
    if (uncovered text).isEmpty then (store, .ok ())
    else match store.makeDirectories now file.parent with
    | (store, .error fault) => (store, .error fault)
    | (store, .ok ()) => store.overwriteBytes now file (Text.utf8 (withEntries text))

end MachineConfig.Setup
