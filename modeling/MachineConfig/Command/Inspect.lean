import MachineConfig.Command.Session
import MachineConfig.Generated.Drift
import MachineConfig.Generated.File
import MachineConfig.Template.Balance

/-!
The commands that only look: at the balance of templates, at what is rendered, at drift, and at
variables and arrays. None of them changes the file tree.
-/

namespace MachineConfig.Command

open Console (Piece)

def noTemplates (c : Console) (l : Layout) : Piece :=
  .marked s!"[yellow]No templates found in {c.escape l.templatesDir.text}[/yellow]"

/-- What the check of a template says, and whether it found nothing wrong. -/
def checkTemplate (s : Session) (template : Path) : Bool × List Piece :=
  let escape := s.console.escape
  let name := escape template.name
  match Generated.templateText s.store template with
  | .ok text =>
    match Template.faults text with
    | [] => (true, [.marked s!"[green]✓[/green] {name}"])
    | faults => (false, .marked s!"[red]✗[/red] {name}" ::
      faults.map fun f => .plain ("    " ++ f.message))
  | .error (.host fault) =>
    (false, [.marked s!"[red]✗[/red] {name}: {escape (s.hostText fault)}"])
  | .error cause => (false, [.marked s!"[red]✗[/red] {escape (cause.message s.hostText)}"])

/-- The templates of these names, or all if there is none. -/
def targets (s : Session) (l : Layout) (names : List String) : Except HostFault (List Path) :=
  if names.isEmpty then Generated.templates l s.store else names.mapM (s.findTemplate l)

/-- Checks the named templates, or all if none is named. -/
def runCheck (s : Session) (l : Layout) (names : List String) : Result :=
  s.withLook (targets s l names) fun templates =>
    let checks := templates.map (checkTemplate s)
    let failed := checks.countP (!·.1)
    if templates.isEmpty then s.answer [noTemplates s.console l]
    else if failed = 0 then
      s.answer (checks.flatMap (·.2) ++
        [.marked s!"\n[green]All {templates.length} templates valid[/green]"])
    else
      s.answer
        (checks.flatMap (·.2) ++ [.marked s!"\n[red]{failed} template(s) have errors[/red]"]) 1

/-- The colour of a state. -/
def stateColour : Generated.State → String
  | .rendered => "green"
  | .stale => "yellow"
  | .notRendered => "dim"

/-- A word in a colour. -/
def coloured (colour word : String) : String := s!"[{colour}]{word}[/{colour}]"

/-- Shows the templates and whether they are rendered. -/
def runList (s : Session) (l : Layout) : Result :=
  s.withLook (Generated.statuses l s.store) fun statuses =>
    if statuses.isEmpty then s.answer [noTemplates s.console l]
    else
      let escape := s.console.escape
      let rows := statuses.map fun t =>
        [escape t.template.name, escape t.output.name, coloured (stateColour t.state) t.state.label]
      let total := s!"Total: {statuses.length} templates in {escape l.templatesDir.text}"
      s.answer
        [.table { columns := [⟨"Template", .left⟩, ⟨"Output", .left⟩, ⟨"Status", .left⟩], rows },
          .marked (coloured "dim" total)]

/-- What is shown of an entry. -/
def driftPieces (c : Console) (verbose : Bool) (e : Generated.DriftEntry) : List Piece :=
  let name := c.escape e.output.name
  match e.drift with
  | .missing => [.marked s!"[yellow]Not generated:[/yellow] {name}"]
  | .upToDate => [.marked s!"[green]Up to date:[/green] {name}"]
  | .failed => [.marked s!"[red]Failed to render:[/red] {c.escape e.template.name}"]
  | .changed diff =>
    .marked s!"[yellow]Changed:[/yellow] {name}" ::
      if verbose then [.plain (String.join diff)] else []

/-- Shows which generated files differ from what their templates render to. -/
def runDiff (s : Session) (l : Layout) (verbose : Bool) : Result :=
  s.withSources l fun sources =>
    let (events, entries) := Generated.driftAll l (sources.renderer none) s.store
    match entries with
    | .error cause => { result := .error cause, events, store := s.store }
    | .ok entries =>
      let changed := Generated.changedCount entries
      let missing := Generated.missingCount entries
      let summary := if changed = 0 ∧ missing = 0 then
          coloured "green" "All generated files are up to date"
        else s!"{changed} file(s) changed, {missing} file(s) missing"
      let pieces := .marked (coloured "blue" "Comparing templates with generated files...") ::
        entries.flatMap (driftPieces s.console verbose) ++ [.marked summary]
      { s.answer pieces with events }

/-- Values are cut to this number of code points. -/
def valueWidth : Nat := 60

/-- A value, cut if it is long. -/
def shortened (value : String) : String :=
  let codes := Text.codes value.toList
  if valueWidth < codes.length then
    String.ofList (Text.ofCodes (codes.take (valueWidth - 3))) ++ "..."
  else value

/-- The colour of a layer. -/
def roleColour : Role → String
  | .auto => "dim"
  | .default => "white"
  | .machineType => "magenta"
  | .localOverride => "green"
  | .environment => "yellow"

/-- Shows the variables with the layers that they come from. -/
def runVars (s : Session) (l : Layout) (namesOnly : Bool) : Result :=
  s.withSources l fun sources =>
    let escape := s.console.escape
    let merged := sources.layers.merged none
    let roles := sources.layers.sources none
    let rows := merged.sorted.map fun (name, value) =>
      let role := (roles.get? name).elim "" fun r => coloured (roleColour r) r.label
      escape name :: if namesOnly then [role] else [escape (shortened value), role]
    let headers := "Name" :: if namesOnly then ["Layer"] else ["Value", "Layer"]
    s.answer
      [.table { title := "Template Variables", columns := headers.map (⟨·, .left⟩), rows },
        .marked (coloured "dim" s!"Total: {merged.size} variables")]

/-- Shows the arrays with their schemas. -/
def runArrays (s : Session) (l : Layout) : Result :=
  s.withSources l fun sources =>
    let r := sources.registry
    if r.names.isEmpty then s.answer [.marked (coloured "yellow" "No arrays defined")]
    else
      let escape := s.console.escape
      let rows := r.names.map fun name =>
        let schema := escape ("|".intercalate (r.schemaFor name))
        [escape name,
          if r.hasSchema name then schema else schema ++ " " ++ coloured "dim" "(default)",
          toString (r.get name).length]
      let columns := [⟨"Array", .left⟩, ⟨"Schema", .left⟩, ⟨"Records", .right⟩]
      s.answer [.table { title := "Template Arrays", columns, rows }]

end MachineConfig.Command
