import MachineConfig.Outcome
import MachineConfig.Store.Write
import MachineConfig.Template.Render

/-!
Rendering one template file. A missing template is found out before anything is written, and a
dry run writes nothing.
-/

namespace MachineConfig.Generated

open Template (Renderer Rendering)

/-- The text of a template file. -/
def templateText (store : Store) (template : Path) : Except Failure String := do
  if ← (store.isFile template).mapError Failure.host then
    (store.readText template).mapError Failure.host
  else throw (.templateNotFound template)

/-- The rendering of a template file. -/
def rendering (r : Renderer) (store : Store) (template : Path) : Except Failure Rendering :=
  (templateText store template).map r.render

/-- What is told of a rendering. -/
def reports (template : Path) (rendering : Rendering) : List Event :=
  rendering.warnings.map Event.templateWarning ++
    if rendering.unresolved.isEmpty then [] else [.unresolved template rendering.unresolved]

/-- Renders a template file to `output`, if there is one. -/
def renderFile (r : Renderer) (store : Store) (now : Int) (dryRun : Bool) (template : Path)
    (output : Option Path) : Outcome Rendering :=
  match rendering r store template with
  | .error cause => { result := .error cause, store }
  | .ok rendering =>
    let events := reports template rendering
    match output with
    | none => { result := .ok rendering, events, store }
    | some output =>
      if dryRun then { result := .ok rendering, events := events ++ [.wouldWrite output], store }
      else match store.replace now output rendering.text with
      | (store, .error fault) => { result := .error (.host fault), events, store }
      | (store, .ok ()) =>
        { result := .ok rendering, events := events ++ [.rendered template output], store }

end MachineConfig.Generated
