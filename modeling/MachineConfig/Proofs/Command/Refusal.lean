import MachineConfig.Proofs.Command.Printing
import MachineConfig.Proofs.Variables.Refusal

/-!
Commands on variables files that are refused. A command that works with variables comes to the
defaults first, and with these in order to the local file. Where one of them is reported as faulty
it ends with status 2 and the report and has changed nothing; every other failure of a variables
file ends it without a report (`runAction_refuses`).
-/

namespace MachineConfig.Command

open Generated (layoutAt treeAt)
open Variables (Escapes File IsReportable)

variable {s : Session} {l : Layout} {action : Action} {file : Path} {cause : Failure}
  {data : RegularFile}

/-- The actions that work with variables. -/
def Action.loadsVariables : Action → Bool
  | .render .. | .vars _ | .diff _ | .arrays => true
  | .list | .check _ | .init _ => false

/-- A variables file that a command comes to. -/
inductive Session.ComesTo (s : Session) (l : Layout) : Path → Prop where
  | defaults : s.ComesTo l l.defaultsFile
  /-- The defaults are in order. -/
  | top {f : File} : File.load s.load s.store l.defaultsFile = .ok f → s.ComesTo l l.localFile

theorem exists_load_eq_error (hfile : s.ComesTo l file)
    (h : File.load s.load s.store file = .error cause)
    (auto : Vars) :
    ∃ events, Sources.load s.load s.store l auto s.environ = (events, .error cause) := by
  cases hfile with
  | defaults => exact ⟨[], by rw [Sources.load, h]⟩
  | top hdefaults =>
    rw [Sources.load, hdefaults, h]
    exact ⟨_, rfl⟩

/-- What a session makes of a failure of a variables file. -/
theorem withSources_of_load_eq_error
    (hauto : (autoVars s.host s.store l.root s.environ s.environ).isOk)
    (hfile : s.ComesTo l file) (h : File.load s.load s.store file = .error cause)
    (next : Sources → Result) :
    (s.withSources l next).result =
        (if cause.isReported then .ok (.ofFailure cause) else .error cause) ∧
      (s.withSources l next).store = s.store := by
  cases hfacts : autoVars s.host s.store l.root s.environ s.environ with
  | error cause =>
    rw [hfacts] at hauto
    cases hauto
  | ok auto =>
    obtain ⟨events, hload⟩ := exists_load_eq_error hfile h auto
    simp only [Session.withSources, hfacts, hload, and_self]

theorem runAction_of_load_eq_error (hloads : action.loadsVariables)
    (hauto : (autoVars s.host s.store l.root s.environ s.environ).isOk)
    (hfile : s.ComesTo l file) (h : File.load s.load s.store file = .error cause) :
    (runAction s l action).result =
        (if cause.isReported then .ok (.ofFailure cause) else .error cause) ∧
      (runAction s l action).store = s.store := by
  cases action with
  | render | vars | diff | arrays => exact withSources_of_load_eq_error hauto hfile h _
  | list | check | init => cases hloads

/-- A variables file whose content can only be wrong as one is read, or refused with a report and
status 2. A file with any other content is never read: it ends the command without a report. Nothing
is changed by a command that is refused its variables. -/
theorem runAction_refuses (hloads : action.loadsVariables)
    (hauto : (autoVars s.host s.store l.root s.environ s.environ).isOk)
    (hfile : s.ComesTo l file) (hdata : s.store.regularFile? file = some data)
    (hreadable : data.isReadable) :
    (IsReportable s.load data.content →
      (∃ f, File.load s.load s.store file = .ok f) ∨
      ∃ fault, File.load s.load s.store file = .error (.variablesFile file fault) ∧
        (runAction s l action).result =
          .ok { exitCode := 2, failure := some (.variablesFile file fault) } ∧
        (runAction s l action).store = s.store) ∧
    (¬IsReportable s.load data.content →
      ∃ cause, Escapes s.load data.content cause ∧ File.load s.load s.store file = .error cause ∧
        (runAction s l action).result = .error cause ∧
        (runAction s l action).store = s.store) := by
  have hload := File.load_of_regularFile? hdata hreadable s.load
  refine ⟨fun h => ?_, fun h => ?_⟩
  · refine (File.ofContent_of_isReportable h file).imp (fun ⟨f, hf⟩ => ⟨f, hload.trans hf⟩) ?_
    rintro ⟨fault, hfault⟩
    rw [← hload] at hfault
    exact ⟨fault, hfault, runAction_of_load_eq_error hloads hauto hfile hfault⟩
  · obtain ⟨cause, hescapes, hcause⟩ := File.ofContent_of_not_isReportable h file
    rw [← hload] at hcause
    have hrun := runAction_of_load_eq_error hloads hauto hfile hcause
    rw [hescapes.isReported] at hrun
    exact ⟨cause, hescapes, hcause, hrun⟩

/-- A tree whose only variables file is that of the machine. -/
def localFileTree (content : ByteArray) : Store :=
  (treeAt "root" [] []).put (layoutAt "root").localFile (.file ⟨content, 0o644, 0⟩)

theorem regularFile?_localFile (content : ByteArray) :
    (localFileTree content).regularFile? (layoutAt "root").localFile =
      some ⟨content, 0o644, 0⟩ := rfl

/-- A session in such a tree. -/
def localFileSession (read : Variables.Loader) (content : ByteArray) : Session :=
  { sessionIn (localFileTree content) with load := read }

theorem load_localFile (read : Variables.Loader) (content : ByteArray) :
    File.load read (localFileTree content) (layoutAt "root").localFile =
      File.ofContent read (layoutAt "root").localFile content :=
  File.load_of_regularFile? (regularFile?_localFile content)
    (by simp [RegularFile.isReadable]) read

theorem comesTo_localFile (read : Variables.Loader) (content : ByteArray) :
    (localFileSession read content).ComesTo (layoutAt "root") (layoutAt "root").localFile :=
  .top rfl

/-- A list is reported as what a variables file cannot be. -/
theorem runAction_refuses_list :
    let l := layoutAt "root"
    let read : Variables.Loader := .known [("- a", .list [.string "a"])]
    let s := localFileSession read (Text.utf8 "- a")
    (runAction s l (.diff false)).result =
        .ok { exitCode := 2, failure := some (.variablesFile l.localFile .notMapping) } ∧
      (runAction s l (.diff false)).store = s.store := by
  intro l read s
  have hauto : (autoVars s.host s.store l.root s.environ s.environ).isOk := by decide +kernel
  have hvalue : read (Text.utf8 "- a") = .ok (.list [.string "a"]) :=
    Variables.Loader.known_utf8 (by decide +kernel) rfl
  have hreportable : IsReportable read (Text.utf8 "- a") := by
    rw [IsReportable, hvalue]
    trivial
  have hload : File.load s.load s.store l.localFile =
      .error (.variablesFile l.localFile .notMapping) := by
    refine (load_localFile read _).trans ?_
    rw [File.ofContent, hvalue]
  have hloads : (Action.diff false).loadsVariables := rfl
  rcases (runAction_refuses hloads hauto (comesTo_localFile read _) rfl rfl).1 hreportable with
    ⟨f, hf⟩ | ⟨fault, hfault, hrun⟩
  · rw [hload] at hf
    cases hf
  · rw [hload] at hfault
    cases hfault
    exact hrun

/-- A file of a single byte that begins no character does not end a command with status 2. -/
theorem runAction_of_undecodable :
    let l := layoutAt "root"
    let s := localFileSession (.known []) ⟨#[0xff]⟩
    Text.decode? ⟨#[0xff]⟩ = none ∧
      (runAction s l (.diff false)).result = .error (.host .undecodable) := by
  intro l s
  have hauto : (autoVars s.host s.store l.root s.environ s.environ).isOk := by decide +kernel
  have hdecode : Text.decode? ⟨#[0xff]⟩ = none := by decide +kernel
  have hload : File.load s.load s.store l.localFile = .error (.host .undecodable) := by
    refine (load_localFile (.known []) _).trans ?_
    rw [File.ofContent, Variables.Loader.known, hdecode]
    rfl
  exact ⟨hdecode, (runAction_of_load_eq_error rfl hauto (comesTo_localFile (.known []) _) hload).1⟩

end MachineConfig.Command
