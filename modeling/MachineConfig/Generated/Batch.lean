import MachineConfig.Generated.File
import MachineConfig.Generated.Listing

/-!
Rendering all templates of a root directory, one after the other. A template that fails is told
of and counted, and the others go on; a template whose generated file is newer is skipped, unless
all are to be rendered. Only a rendering that cannot be encoded stops the batch.
-/

namespace MachineConfig.Generated

open Template (Renderer)

/-- What a batch does besides rendering: nothing is written in a dry run, and nothing is skipped
with force. -/
structure BatchMode where
  dryRun : Bool := false
  force : Bool := false
  deriving DecidableEq

/-- What came of a batch: how many templates were rendered and skipped, and which failed. -/
structure BatchReport where
  rendered : Nat := 0
  skipped : Nat := 0
  failures : List String := []
  deriving DecidableEq, Inhabited

namespace BatchReport

def failed (r : BatchReport) : Nat := r.failures.length

def isOk (r : BatchReport) : Bool := r.failures.isEmpty

end BatchReport

/-- A batch as far as it has come. -/
structure Batch where
  report : BatchReport := {}
  events : List Event := []
  store : Store
  /-- What stopped the batch. -/
  stop : Option Failure := none

namespace Batch

/-- Goes on with one template, unless the batch has been stopped. -/
def step (l : Layout) (r : Renderer) (now : Int) (mode : BatchMode) (b : Batch)
    (template : Path) : Batch :=
  let output := l.output template
  if b.stop.isSome then b
  else if !mode.force && isUpToDate b.store template output then
    { b with report := { b.report with skipped := b.report.skipped + 1 } }
  else
    let o := renderFile r b.store now mode.dryRun template (some output)
    match o.result with
    | .ok _ =>
      { report := { b.report with rendered := b.report.rendered + 1 }
        events := b.events ++ o.events
        store := o.store }
    | .error cause =>
      if cause.isIsolated then
        { report := { b.report with failures := b.report.failures ++ [template.name] }
          events := b.events ++ o.events ++ [.renderFailed template cause]
          store := o.store }
      else { b with events := b.events ++ o.events, store := o.store, stop := some cause }

end Batch

/-- Renders these templates in turn. -/
def renderEach (l : Layout) (r : Renderer) (now : Int) (mode : BatchMode) (store : Store)
    (templates : List Path) : Batch :=
  templates.foldl (Batch.step l r now mode) { store }

/-- The outcome of a batch that has come to its end. -/
def Batch.outcome (b : Batch) : Outcome BatchReport :=
  { result := b.stop.elim (.ok b.report) .error, events := b.events, store := b.store }

/-- Renders all templates. It fails only if the directory of generated files cannot be made, that
of templates not be looked into, or the batch is stopped. -/
def renderAll (l : Layout) (r : Renderer) (store : Store) (now : Int) (mode : BatchMode) :
    Outcome BatchReport :=
  let run (store : Store) : Outcome BatchReport :=
    match templates l store with
    | .error fault => { result := .error (.host fault), store }
    | .ok templates => (renderEach l r now mode store templates).outcome
  if mode.dryRun then run store
  else match store.makeDirectories now l.generatedDir with
  | (store, .ok ()) => run store
  | (store, .error fault) => { result := .error (.host fault), store }

end MachineConfig.Generated
