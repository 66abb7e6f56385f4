import MachineConfig.Command.Session
import MachineConfig.Generated.Batch

/-!
The command that renders templates: all of them as a batch, or those that are named one by one.
The status is 0 only if nothing failed. What is done is shown before the next thing is done, so
that nothing goes on after something that cannot be shown.
-/

namespace MachineConfig.Command

open Console (Piece)
open Generated (BatchMode BatchReport renderFile renderAll)
open Template (Renderer Rendering)

/-- What is said before a batch. -/
def batchOpening (c : Console) (machineType : String) : List Piece :=
  [.marked "[blue]Rendering templates...[/blue]",
    .marked s!"[dim]Machine type:[/dim] {c.escape machineType}"]

/-- What is said of a batch. -/
def batchSummary (c : Console) (l : Layout) (dryRun : Bool) (report : BatchReport) : List Piece :=
  let verb := if dryRun then "Would render" else "Rendered"
  [.marked (if report.rendered = 0 ∧ report.failed = 0 then
      "No templates to render (all up to date)"
    else s!"{verb} {report.rendered} template(s) to {c.escape l.generatedDir.text}")] ++
  (if report.skipped = 0 then []
    else [.marked s!"[dim]Skipped {report.skipped} up-to-date template(s)[/dim]"]) ++
  (if report.isOk then []
    else [.marked s!"[red]Failed to render {report.failed} template(s)[/red]"])

/-- Renders all templates. -/
def renderBatch (s : Session) (l : Layout) (sources : Sources) (mode : BatchMode) : Result :=
  let machineType := (sources.effective none).getD "machine_type" unknownLabel
  (s.say (batchOpening s.console machineType) s.store).andThen fun opening store =>
    (renderAll l (sources.renderer none) store s.now mode).andThen fun report store =>
      (s.say (batchSummary s.console l mode.dryRun report) store).map fun summary =>
        { exitCode := if report.isOk then 0 else 1, output := opening ++ summary }

/-- How a rendering is put out. -/
inductive Target where
  | print
  | dryRun
  | write
  deriving DecidableEq

/-- What is shown of a rendering, `alone` holding if no other is asked for. -/
def shown (c : Console) (target : Target) (alone : Bool) (template output : Path)
    (r : Rendering) : List Piece :=
  let name := c.escape template.name
  let output := c.escape output.text
  match target with
  | .print => (if alone then [] else [.marked s!"[dim]=== {name} ===[/dim]"]) ++ [.verbatim r.text]
  | .dryRun =>
    let size := (Text.utf8 r.text).size
    [.marked ("[cyan]\\[dry-run][/cyan] " ++ s!"{name} -> {output} ({size} bytes)")]
  | .write => [.marked s!"[green]✓[/green] {name} -> {output}"]

/-- What is shown of a template and the status that it asks for, unless its failure ends the
program. The size of a rendering that cannot be encoded cannot be shown. -/
def verdict (s : Session) (target : Target) (alone : Bool) (name : String)
    (template output : Path) :
    Except Failure Rendering → Except Failure (Nat × List Piece)
  | .ok rendering =>
    if target = .dryRun && !Text.isEncodable rendering.text then .error (.host .unencodable)
    else .ok (0, shown s.console target alone template output rendering)
  | .error cause =>
    if cause.isIsolated then
      let reason := s.console.escape (cause.message s.hostText)
      .ok (1, [.marked s!"[red]✗[/red] {s.console.escape name}: {reason}"])
    else .error cause

/-- Renders the template that a name means, unless that cannot be told. -/
def renderOne (s : Session) (l : Layout) (r : Renderer) (target : Target) (alone : Bool)
    (name : String) (store : Store) : Result :=
  match { s with store }.findTemplate l name with
  | .error fault => { result := .error (.host fault), store }
  | .ok template =>
    let output := l.output template
    let o := renderFile r store s.now (target = .dryRun) template
      (if target = .print then none else some output)
    match verdict s target alone name template output o.result with
    | .ok (exitCode, pieces) =>
      { (s.say pieces o.store).map (Response.ofOutput exitCode) with events := o.events }
    | .error cause => { result := .error cause, events := o.events, store := o.store }

/-- Renders the templates of these names in turn. One that fails does not stop the others. -/
def renderNamed (s : Session) (l : Layout) (r : Renderer) (target : Target) (alone : Bool) :
    List String → Store → Result
  | [], store => { result := .ok {}, store }
  | name :: names, store =>
    (renderOne s l r target alone name store).andThen fun first store =>
      (renderNamed s l r target alone names store).map fun more =>
        { exitCode := max first.exitCode more.exitCode, output := first.output ++ more.output }

/-- Renders the named templates, or all if none is named. -/
def runRender (s : Session) (l : Layout) (names : List String) (dryRun force print : Bool) :
    Result :=
  s.withSources l fun sources =>
    let target := if print then .print else if dryRun then .dryRun else .write
    let each (names : List String) : Result :=
      renderNamed s l (sources.renderer none) target (names.length ≤ 1) names s.store
    if !names.isEmpty then each names
    else if print then
      s.withLook (Generated.templates l s.store) fun templates => each (templates.map Path.name)
    else renderBatch s l sources ⟨dryRun, force⟩

end MachineConfig.Command
