import MachineConfig.Proofs.Command.PrintingLemmas
import MachineConfig.Proofs.Generated.Isolation
import MachineConfig.Terminal
import MachineConfig.Yaml.Loader

/-!
Printing agrees with writing. Printing all templates shows, in listing order, what rendering them
with force writes to the generated files, and tells as failed those that cannot be read or decoded
(`runRender_print_agrees`). Only a template is printed otherwise whose name leads to something from
the working directory, for that is printed in its place (`runRender_print_shadowed`).
-/

namespace MachineConfig

/-- A text for another program is written as it is, if it can be encoded and has no escape in it,
with which the controls of a terminal begin. -/
def Console.Echoes (c : Console) : Prop :=
  ∀ text, Text.isEncodable text → '\x1B' ∉ text.toList → c.write (.verbatim text) = .ok text

namespace Terminal

theorem dropControls_of_not_mem {cs : List Char} (h : '\x1B' ∉ cs) : dropControls cs = cs := by
  induction cs with
  | nil => rw [dropControls]
  | cons c cs ih =>
    rw [List.mem_cons, not_or] at h
    have hnone : controlLength (c :: cs) = 0 := by
      rw [controlLength]
      rintro _ ⟨⟩
      exact h.1 rfl
    rw [dropControls, hnone, if_pos rfl, ih h.2]

theorem echoes : terminal.Echoes := by
  intro text hencodable hescape
  have hverbatim : verbatimText text = text := by
    rw [verbatimText, dropControls_of_not_mem hescape, String.ofList_toList]
  simp only [terminal, write, layOut, hverbatim, Except.mapError, bind, Except.bind, hencodable,
    if_true, pure, Except.pure]

end Terminal

namespace Command

open Console Generated Store
open Template (Renderer)

variable {s : Session} {l : Layout} {r : Renderer} {template : Path} {sources : Sources}
  {ts : List Path}

/-- What is said before a batch with these variables. -/
def Session.opening (s : Session) (sources : Sources) : List Piece :=
  batchOpening s.console ((sources.effective none).getD "machine_type" unknownLabel)

/-- A batch is run if what is said before it can be shown. -/
theorem renderBatch_of_opening {opening : String}
    (h : s.console.writeAll (s.opening sources) = .ok opening) (l : Layout) (mode : BatchMode) :
    renderBatch s l sources mode =
      (renderAll l (sources.renderer none) s.store s.now mode).andThen fun report store =>
        (s.say (batchSummary s.console l mode.dryRun report) store).map fun summary =>
          { exitCode := if report.isOk then 0 else 1, output := opening ++ summary } := by
  rw [Session.opening] at h
  rw [renderBatch, Session.say, h]
  rfl

/-- What is said after a batch is nothing to the tree. -/
theorem store_renderBatch {opening : String}
    (h : s.console.writeAll (s.opening sources) = .ok opening) (l : Layout) (mode : BatchMode) :
    (renderBatch s l sources mode).store =
      (renderAll l (sources.renderer none) s.store s.now mode).store := by
  rw [renderBatch_of_opening h, Outcome.andThen]
  split <;> rfl

theorem store_runRender_force {opening : String} (hloads : s.Loads l sources)
    (hopening : s.console.writeAll (s.opening sources) = .ok opening) :
    (runRender s l [] false true false).store =
      (renderAll l (sources.renderer none) s.store s.now { force := true }).store := by
  rw [runRender, (withSources_of_loads hloads _).2]
  exact store_renderBatch hopening l { force := true }

/-- From the working directory, the name of a template leads to nothing or to a file like the
template. -/
def Session.Unshadowed (s : Session) (template : Path) : Prop :=
  s.store.entry? (Path.ofText template.name) = none ∨
    s.store.entry? (Path.ofText template.name) = s.store.entry? template

theorem rendering_taken {file : RegularFile} (h : s.Unshadowed template)
    (hfile : s.store.regularFile? template = some file) (r : Renderer) :
    rendering r s.store (s.taken template) = rendering r s.store template := by
  rw [Session.taken]
  rcases h with hnone | hsame
  · simp [hnone]
  · split
    · rw [rendering_of_file hfile, rendering_of_file]
      rwa [regularFile?, hsame]
    · rfl

/-- What is printed of a template is what a batch comes to for it that leaves the tree `after` and
gives this report. -/
inductive Agrees (s : Session) (l : Layout) (r : Renderer) (alone : Bool) (report : BatchReport)
    (before after : Store) (template : Path) : Prop
  /-- The text that is printed is written. It is printed as it is, but for terminal controls. -/
  | written {text : String} {file : RegularFile}
      (read : templateText s.store template = .ok text)
      (print : printed s r alone template =
        heading s.console alone template ++ [.verbatim (r.render text).text])
      (echo : '\x1B' ∉ (r.render text).text.toList →
        s.console.write (.verbatim (r.render text).text) = .ok (r.render text).text)
      (output : after.regularFile? (l.output template) = some file)
      (content : file.content = Text.utf8 (r.render text).text)
      (listed : template.name ∉ report.failures)
  /-- The text is printed, but nothing can be put in the place of the generated file. -/
  | unwritable {text : String} {refusal : Refusal}
      (read : templateText s.store template = .ok text)
      (print : printed s r alone template =
        heading s.console alone template ++ [.verbatim (r.render text).text])
      (echo : '\x1B' ∉ (r.render text).text.toList →
        s.console.write (.verbatim (r.render text).text) = .ok (r.render text).text)
      (replacement : before.replacement s.now (l.output template) (r.render text).text =
        .error refusal)
      (listed : template.name ∈ report.failures)
  /-- The template cannot be read or decoded, and both tell it as failed. -/
  | unreadable {cause : Failure}
      (read : templateText s.store template = .error cause)
      (print : printed s r alone template = [faultLine s template.name cause])
      (listed : template.name ∈ report.failures)

/-- A batch with force and printing agree on a template whose name leads to nothing else. -/
theorem agrees_of_unshadowed {prepared : Store} {file : RegularFile} {report : BatchReport}
    (hs : s.store.IsTree) (hechoes : s.console.Echoes)
    (hprepare : prepare l s.now { force := true } s.store = (prepared, .ok ()))
    (hlist : templates l prepared = .ok ts)
    (hencodable : IsEncodable r prepared { force := true } ts) (htemplate : template ∈ ts)
    (hfile : s.store.regularFile? template = some file) (hunshadowed : s.Unshadowed template)
    (hreport : report.failures = (ts.filter
      (fails l r s.now { force := true } (fun _ => false) prepared)).map Path.name) (alone : Bool) :
    Agrees s l r alone report prepared (renderAll l r s.store s.now { force := true }).store
      template := by
  have hlisted := listed_templates (isTree_of_prepare hs hprepare) hlist
  have hplaces := places_of_prepare hprepare
  have hskip : Decides l r s.now { force := true } prepared ts fun _ => false :=
    decides_of_isSteady hplaces (isSteady_of_force rfl) hlisted r
  have hfails : template.name ∈ report.failures ↔
      fails l r s.now { force := true } (fun _ => false) prepared template = true := by
    rw [hreport]
    exact hlisted.name_mem_map_filter htemplate
  have htaken := rendering_taken hunshadowed hfile r
  have hprepared := rendering_of_prepare hprepare hfile r
  cases htext : templateText s.store template with
  | error cause =>
    have hrendering : rendering r s.store template = .error cause := by
      rw [rendering, htext]
      rfl
    obtain ⟨name, hname, -, rfl⟩ := hlisted.template template htemplate
    exact .unreadable htext (printed_of_error (htaken.trans hrendering) alone)
      (hfails.2 (fails_of_rendering hplaces hname rfl (hprepared.trans hrendering)))
  | ok text =>
    have hrendering : rendering r s.store template = .ok (r.render text) := by
      rw [rendering, htext]
      rfl
    have hprinted := printed_of_ok (htaken.trans hrendering) alone
    have hecho := hechoes _ (hencodable rfl template htemplate _ (hprepared.trans hrendering))
    rcases written_or_fails hs hprepare hlist hskip hencodable htemplate
        (hprepared.trans hrendering) rfl with
      ⟨hwritten, written, houtput, hcontent⟩ | ⟨hfailed, refusal, hrefusal⟩
    · exact .written htext hprinted hecho houtput hcontent (by simp [hfails, hwritten])
    · exact .unwritable htext hprinted hecho hrefusal (hfails.2 hfailed)

/-- Printing all templates shows, one after the other, the rendering of what each name is taken
for, or why there is none. Where the name of a template leads to nothing else, that agrees with what
rendering all with force comes to. Each template is asked for by its path when it is listed; so none
may be too long. The root directory has to be there or its path to have no step up, for making it on
the way may change where its path leads. -/
theorem runRender_print_agrees (hs : s.store.IsTree) (hechoes : s.console.Echoes)
    (hloads : s.Loads l sources) (hlist : templates l s.store = .ok ts)
    (hasked : ∀ template ∈ ts, (s.store.locate template).isOk) (dryRun force : Bool) :
    (runRender s l [] dryRun force true).result =
      (s.answer (ts.flatMap (printed s (sources.renderer none) (ts.length ≤ 1)))
        (if ts.all (isPrinted s (sources.renderer none)) then 0 else 1)).result ∧
    ∀ prepared opening, s.store.makeDirectories s.now l.generatedDir = (prepared, .ok ()) →
      s.store.entry? l.root = some .directory ∨ ".." ∉ l.root.names →
      s.console.writeAll (s.opening sources) = .ok opening →
      IsEncodable (sources.renderer none) s.store { force := true } ts →
      templates l prepared = .ok ts ∧ ∃ report,
        (renderAll l (sources.renderer none) s.store s.now { force := true }).result = .ok report ∧
        ∀ template ∈ ts, s.Unshadowed template →
          Agrees s l (sources.renderer none) (ts.length ≤ 1) report prepared
            (runRender s l [] false true false).store template := by
  have hthere := isSome_regularFile?_of_mem hs hlist hasked
  refine ⟨runRender_print hs hloads hlist hasked dryRun force,
    fun prepared opening hmade hroot hopening hwritable => ?_⟩
  have hprepare : prepare l s.now { force := true } s.store = (prepared, .ok ()) := hmade
  have hlist' : templates l prepared = .ok ts := (templates_prepare hs hroot hprepare).trans hlist
  have hencodable : IsEncodable (sources.renderer none) prepared { force := true } ts := by
    intro hdry p hp x hx
    obtain ⟨file, hfile⟩ := Option.isSome_iff_exists.1 (hthere p hp)
    exact hwritable hdry p hp x ((rendering_of_prepare hprepare hfile _).symm.trans hx)
  have hlisted := listed_templates hs hlist
  have hskip : Decides l (sources.renderer none) s.now { force := true } prepared ts
      fun _ => false :=
    decides_of_isSteady (places_of_prepare hprepare) (isSteady_of_force rfl) hlisted _
  have hrun : (renderAll l (sources.renderer none) s.store s.now { force := true }).result = _ :=
    congrArg Outcome.result (renderAll_of_isEncodable hs hprepare hlist' hskip hencodable)
  refine ⟨hlist', _, hrun, fun template htemplate hunshadowed => ?_⟩
  obtain ⟨file, hfile⟩ := Option.isSome_iff_exists.1 (hthere template htemplate)
  rw [store_runRender_force hloads hopening]
  exact agrees_of_unshadowed hs hechoes hprepare hlist' hencodable htemplate hfile hunshadowed rfl _

/-- The variables of a root directory without variables files. -/
def Session.bareSources (s : Session) (l : Layout) : Sources :=
  let facts := (autoVars s.host s.store l.root s.environ s.environ).toOption.getD .empty
  .ofFiles facts {} {} s.environ

theorem loads_bareSources
    (hauto : (autoVars s.host s.store l.root s.environ s.environ).isOk)
    (hdefaults : Variables.File.load s.load s.store l.defaultsFile = .ok {})
    (hlocal : Variables.File.load s.load s.store l.localFile = .ok {}) :
    s.Loads l (s.bareSources l) := by
  cases hfacts : autoVars s.host s.store l.root s.environ s.environ with
  | error cause =>
    rw [hfacts] at hauto
    cases hauto
  | ok facts =>
    refine ⟨facts, _, hfacts, Prod.ext rfl ?_⟩
    simp only [Sources.load, hdefaults, hlocal, Session.bareSources, hfacts]
    rfl

/-- A session in a terminal, on a machine of which little is known. -/
def sessionIn (store : Store) : Session where
  host := default
  environ := Table.ofList [("HOME", "home")]
  store := store
  now := 1
  hostText := fun _ => "refused"
  load := Yaml.loader
  console := terminal

/-- Two templates, the second of which cannot be read. -/
def twoTemplatesTree : Store :=
  treeAt "root"
    [("a.tmpl", .file ⟨"a".toUTF8, 0o644, 0⟩), ("b.tmpl", .file ⟨"b".toUTF8, 0, 0⟩)] []

theorem runRender_print_agrees_twoTemplates :
    let s := sessionIn twoTemplatesTree
    let l := layoutAt "root"
    (runRender s l [] false false true).result =
        .ok { exitCode := 1, output := "=== a.tmpl ===\na✗ b.tmpl: refused\n" } ∧
    ∃ report, (renderAll l ((s.bareSources l).renderer none) s.store 1 { force := true }).result =
        .ok report ∧
      ∀ template ∈ [l.template "a.tmpl", l.template "b.tmpl"],
        Agrees s l ((s.bareSources l).renderer none) false report s.store
          (runRender s l [] false true false).store template := by
  intro s l
  have hs : s.store.IsTree := isTree_of_forall_entries (by decide +kernel)
  have hloads : s.Loads l (s.bareSources l) :=
    loads_bareSources (by decide +kernel) (by decide +kernel) (by decide +kernel)
  have hlist : templates l s.store = .ok [l.template "a.tmpl", l.template "b.tmpl"] := by
    decide +kernel
  have hasked : ∀ template ∈ [l.template "a.tmpl", l.template "b.tmpl"],
      (s.store.locate template).isOk := by decide +kernel
  have hopening : s.console.writeAll (s.opening (s.bareSources l)) =
      .ok "Rendering templates...\nMachine type: unknown\n" := by decide +kernel
  obtain ⟨hprint, hbatch⟩ :=
    runRender_print_agrees hs Terminal.echoes hloads hlist hasked false false
  obtain ⟨-, report, hreport, hagree⟩ := hbatch s.store _ (by decide +kernel)
    (.inl (by decide +kernel)) hopening (by decide +kernel)
  have hunshadowed : ∀ template ∈ [l.template "a.tmpl", l.template "b.tmpl"],
      s.store.entry? (Path.ofText template.name) = none := by decide +kernel
  have hstatus : [l.template "a.tmpl", l.template "b.tmpl"].all
      (isPrinted s ((s.bareSources l).renderer none)) = false := by decide +kernel
  have houtput : s.console.writeAll ([l.template "a.tmpl", l.template "b.tmpl"].flatMap
      (printed s ((s.bareSources l).renderer none) false)) =
        .ok "=== a.tmpl ===\na✗ b.tmpl: refused\n" := by decide +kernel
  rw [hstatus] at hprint
  exact ⟨hprint.trans (result_answer_of_ok houtput), report, hreport, fun template htemplate =>
    hagree template htemplate (.inl (hunshadowed template htemplate))⟩

/-- A template, and a file of the same name in the working directory. -/
def shadowedTree : Store :=
  (treeAt "root" [("a.tmpl", .file ⟨"batch\n".toUTF8, 0o644, 0⟩)] []).put ⟨.relative, ["a.tmpl"]⟩
    (.file ⟨"cwd\n".toUTF8, 0o644, 0⟩)

/-- What is printed is the file of the working directory, and what is written the template. -/
theorem runRender_print_shadowed :
    let s := sessionIn shadowedTree
    let l := layoutAt "root"
    (runRender s l [] false false true).result = .ok { output := "cwd\n" } ∧
      ((runRender s l [] false true false).store.regularFile? (l.output (l.template "a.tmpl"))).map
        (·.content) = some "batch\n".toUTF8 := by
  intro s l
  have hs : s.store.IsTree := isTree_of_forall_entries (by decide +kernel)
  have hloads : s.Loads l (s.bareSources l) :=
    loads_bareSources (by decide +kernel) (by decide +kernel) (by decide +kernel)
  have hlist : templates l s.store = .ok [l.template "a.tmpl"] := by decide +kernel
  have hasked : ∀ template ∈ [l.template "a.tmpl"], (s.store.locate template).isOk := by
    decide +kernel
  have hprint := runRender_print hs hloads hlist hasked false false
  have houtput : s.console.writeAll ([l.template "a.tmpl"].flatMap
      (printed s ((s.bareSources l).renderer none) true)) = .ok "cwd\n" := by decide +kernel
  have hstatus : [l.template "a.tmpl"].all
      (isPrinted s ((s.bareSources l).renderer none)) = true := by decide +kernel
  rw [hstatus] at hprint
  have hopening : s.console.writeAll (s.opening (s.bareSources l)) =
      .ok "Rendering templates...\nMachine type: unknown\n" := by decide +kernel
  rw [store_runRender_force hloads hopening]
  exact ⟨hprint.trans (result_answer_of_ok houtput), by decide +kernel⟩

end Command

end MachineConfig
