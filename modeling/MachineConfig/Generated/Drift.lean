import MachineConfig.Generated.File
import MachineConfig.Generated.Listing
import MachineConfig.Text.UnifiedDiff

/-!
Drift: how generated files differ from what their templates render to now. The bytes of two files
decide whether they differ; what is shown is a diff of their lines, in which bytes that are no
text and the kinds of line ends do not show.
-/

namespace MachineConfig.Generated

open Template (Renderer)

inductive Drift where
  | missing
  | changed (diff : List String)
  | upToDate
  | failed
  deriving DecidableEq, Inhabited

namespace Drift

def label : Drift → String
  | missing => "missing"
  | changed _ => "changed"
  | upToDate => "up-to-date"
  | failed => "error"

def isChanged : Drift → Bool
  | changed _ => true
  | _ => false

/-- The lines of the diff, if there is one. -/
def diff : Drift → List String
  | changed diff => diff
  | _ => []

end Drift

structure DriftEntry where
  template : Path
  output : Path
  drift : Drift
  deriving DecidableEq, Inhabited

/-- The lines of a file, as they are compared. -/
def comparedLines (content : ByteArray) : List String :=
  (Text.lines (Text.readLossy content)).map String.ofList

/-- How the content of a generated file differs from a rendering. -/
def compare (output : Path) (content : ByteArray) (text : String) : Drift :=
  if content.data = (Text.utf8 text).data then .upToDate
  else .changed <| Text.unifiedDiff output.text s!"{output.text} (rendered)"
    (comparedLines content) (comparedLines (Text.utf8 text))

/-- Why a text cannot be written under a name into an empty directory. -/
def scratchFault? (name text : String) : Option HostFault :=
  if !Store.allowsTemporary name then some .inaccessible
  else if !Text.isEncodable text then some .unencodable
  else if name = ".." then some .inaccessible
  else none

/-- The entry of one template, with what is told of it. A failure to render is part of the entry;
a rendering that cannot be encoded and a generated file that cannot be read are failures of the
whole comparison. -/
def driftEntry (l : Layout) (r : Renderer) (store : Store) (template : Path) :
    List Event × Except Failure DriftEntry :=
  let output := l.output template
  let entry (drift : Drift) : Except Failure DriftEntry := .ok ⟨template, output, drift⟩
  if (store.entry? output).isNone then ([], entry .missing)
  else match rendering r store template with
  | .error cause => ([.renderFailed template cause], entry .failed)
  | .ok rendering =>
    let events := reports template rendering
    match scratchFault? output.name rendering.text with
    | some fault =>
      if (Failure.host fault).isIsolated then
        (events ++ [.renderFailed template (.host fault)], entry .failed)
      else (events, .error (.host fault))
    | none =>
      match store.read output with
      | .error fault => (events, .error (.host fault))
      | .ok content => (events, entry (compare output content rendering.text))

/-- An entry before others, with what is told of them; nothing follows a failure. -/
def consEntry : List Event × Except Failure DriftEntry →
    List Event × Except Failure (List DriftEntry) → List Event × Except Failure (List DriftEntry)
  | (events, .error cause), _ => (events, .error cause)
  | (events, .ok entry), (more, entries) => (events ++ more, entries.map (entry :: ·))

/-- The entries of these templates, up to the first failure. -/
def driftOf (l : Layout) (r : Renderer) (store : Store) :
    List Path → List Event × Except Failure (List DriftEntry)
  | [] => ([], .ok [])
  | template :: rest => consEntry (driftEntry l r store template) (driftOf l r store rest)

/-- How all generated files differ from fresh renderings. Nothing is written. -/
def driftAll (l : Layout) (r : Renderer) (store : Store) :
    List Event × Except Failure (List DriftEntry) :=
  match templates l store with
  | .ok templates => driftOf l r store templates
  | .error fault => ([], .error (.host fault))

/-- How many generated files differ. -/
def changedCount (entries : List DriftEntry) : Nat := entries.countP (·.drift.isChanged)

/-- How many generated files are not there. -/
def missingCount (entries : List DriftEntry) : Nat := entries.countP (·.drift = .missing)

end MachineConfig.Generated
