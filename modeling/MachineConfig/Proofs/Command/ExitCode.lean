import MachineConfig.Proofs.Command.Attempts
import MachineConfig.Proofs.Command.Printing
import MachineConfig.Proofs.Generated.Fates
import MachineConfig.Proofs.Generated.Order

/-!
What the status of rendering and checking tells. A batch says of each template how it fares
(`Generated.Fares`), rendering by name what each attempt comes to (`Attempts`), and a check which of
its targets pass (`Passes`); the status is 0 if nothing has gone wrong with any of them
(`exitCode_faithful`). No status tells anything where a path is too long to be asked for, for that
ends a command before it comes to the other names (`runCheck_overlong`).
-/

namespace MachineConfig

namespace Generated

open Store
open Template (Renderer)

variable {l : Layout} {r : Renderer} {now : Int} {mode : BatchMode} {s base : Store}
  {template : Path} {ts : List Path}

/-- What a batch that leaves the tree `after` comes to for a template: whether it is passed over, or
there is a rendering, which is written if it is to be. -/
inductive Fares (l : Layout) (r : Renderer) (now : Int) (mode : BatchMode) (base : Store)
    (ts : List Path) (after : Store) (template : Path) : Bool → Prop
  | skipped (counts : Counts l r now mode base ts template .skipped) :
      Fares l r now mode base ts after template true
  | shown {x : Template.Rendering} (counts : Counts l r now mode base ts template .rendered)
      (render : rendering r base template = .ok x) (dry : mode.dryRun = true) :
      Fares l r now mode base ts after template true
  | written {x : Template.Rendering} {file : RegularFile}
      (counts : Counts l r now mode base ts template .rendered)
      (render : rendering r base template = .ok x) (write : mode.dryRun = false)
      (output : after.regularFile? (l.output template) = some file)
      (content : file.content = Text.utf8 x.text) :
      Fares l r now mode base ts after template true
  | unrendered {cause : Failure} (counts : Counts l r now mode base ts template .failed)
      (render : rendering r base template = .error cause) :
      Fares l r now mode base ts after template false
  | unwritten {x : Template.Rendering} {fault : HostFault}
      (counts : Counts l r now mode base ts template .failed)
      (render : rendering r base template = .ok x) (write : mode.dryRun = false)
      (replace : (base.replace now (l.output template) x.text).2 = .error fault) :
      Fares l r now mode base ts after template false

/-- Each template of a batch that comes to its end fares one way or the other. -/
theorem fares_of_stop (hplaces : mode.dryRun = true ∨ ∃ root, Places l base root)
    (hlisted : Listed l ts) (htemplate : template ∈ ts)
    (hstop : (renderEach l r now mode base ts).stop = none) :
    Fares l r now mode base ts (renderEach l r now mode base ts).store template
      !decide (Counts l r now mode base ts template .failed) := by
  have hcounts (fate : Fate) : Counts l r now mode base ts template fate ↔
      (attempt l r now mode (passesOver l r now mode base ts) base template).fate? = some fate := by
    rw [counts_iff hplaces hlisted htemplate]
    exact and_iff_right (stop_comingTo htemplate hstop)
  have hskip := @decides_passesOver l r now mode base ts
  generalize passesOver l r now mode base ts = skip at hcounts hskip
  rw [stop_renderEach hplaces hlisted hskip, List.findSome?_eq_none_iff] at hstop
  rw [renderEach_eq hplaces hlisted hskip hstop]
  have hmine := hstop template htemplate
  have hcomes := comesTo_attempt l r now mode skip base template
  generalize hattempt : attempt l r now mode skip base template = a at hcounts hmine hcomes
  have hverdict : (!decide (Counts l r now mode base ts template .failed)) = !a.isFailed := by
    rw [a.isFailed_eq, decide_eq_decide.2 (hcounts .failed)]
  rw [hverdict]
  cases hcomes with
  | skipped => exact .skipped ((hcounts _).2 rfl)
  | unrendered hpassed hrender => exact .unrendered ((hcounts _).2 rfl) hrender
  | shown hpassed hrender hdry => exact .shown ((hcounts _).2 rfl) hrender hdry
  | @written x change hpassed hrender hdry hreplacement =>
    have hchange : (attempt l r now mode skip base template).change? = some change := by
      rw [hattempt]
      rfl
    obtain ⟨-, -, -, -, hfile⟩ := of_replacement_eq_ok hreplacement
    exact .written ((hcounts _).2 rfl) hrender hdry
      (regularFile?_of_change? hplaces hlisted htemplate hchange) (by rw [hfile])
  | @unwritten x refusal hpassed hrender hdry hreplacement =>
    obtain ⟨root, hroot⟩ := hplaces.resolve_left (by simp [hdry])
    obtain ⟨name, hname, -, rfl⟩ := hlisted.template template htemplate
    obtain ⟨directory, hparent, hdirectory⟩ := hroot.exists_directory hname
    exact .unwritten ((hcounts _).2 rfl) hrender hdry
      (by rw [replace_eq hparent hdirectory, hreplacement])
  | stopped => cases hmine

end Generated

namespace Command

open Console Generated Store
open Template (Renderer)

variable {s : Session} {l : Layout} {names : List String} {base prepared : Store} {template : Path}
  {sources : Sources} {mode : BatchMode} {ts : List Path}

/-- A batch that comes to its end has failed nothing if its status is 0. -/
theorem statusOf_counted (l : Layout) (r : Renderer) (now : Int) (mode : BatchMode) (base : Store)
    (ts : List Path) :
    statusOf (ts.map fun template => !decide (Counts l r now mode base ts template .failed)) =
      if (counted l r now mode base ts).isOk then 0 else 1 := by
  have hall : (ts.map fun template =>
      !decide (Counts l r now mode base ts template .failed)).all id =
        (counted l r now mode base ts).isOk := by
    rw [BatchReport.isOk, counted, Bool.eq_iff_iff]
    simp
  rw [statusOf, hall]

/-- What is told of a batch that comes to its end, and its status. -/
theorem result_renderBatch_of_ok {opening : String} {report : BatchReport}
    (hopening : s.console.writeAll (s.opening sources) = .ok opening)
    (h : (renderAll l (sources.renderer none) s.store s.now mode).result = .ok report) :
    (renderBatch s l sources mode).result =
      (s.answer (s.opening sources ++ batchSummary s.console l mode.dryRun report)
        (if report.isOk then 0 else 1)).result := by
  rw [renderBatch_of_opening hopening, Outcome.andThen_of_ok h]
  simp only [Session.answer, Session.say, Outcome.map, Console.writeAll_append, hopening]
  cases s.console.writeAll (batchSummary s.console l mode.dryRun report) <;> rfl

theorem result_renderBatch_of_error {opening : String} {cause : Failure}
    (hopening : s.console.writeAll (s.opening sources) = .ok opening)
    (h : (renderAll l (sources.renderer none) s.store s.now mode).result = .error cause) :
    (renderBatch s l sources mode).result = .error cause := by
  rw [renderBatch_of_opening hopening, Outcome.andThen, h]

/-- What a batch over the tree `base` comes to. -/
inductive SettlesBatch (s : Session) (l : Layout) (sources : Sources) (mode : BatchMode)
    (base : Store) (o : Result) : Prop
  /-- All templates have fared one way or the other, and the status tells whether all have fared
  well. -/
  | ended {ts : List Path} {verdicts : List Bool} {opening : String}
      (list : templates l base = .ok ts)
      (fares : List.Forall₂
        (Fares l (sources.renderer none) s.now mode base ts o.store) ts verdicts)
      (opens : s.console.writeAll (s.opening sources) = .ok opening)
      (answer : o.result = (s.answer (s.opening sources ++ batchSummary s.console l mode.dryRun
        (counted l (sources.renderer none) s.now mode base ts)) (statusOf verdicts)).result)
  /-- What is said before the batch cannot be shown. -/
  | unopened {fault : Console.Fault}
      (refused : s.console.writeAll (s.opening sources) = .error fault)
      (result : o.result = .error (.display fault)) (store : o.store = s.store)
  /-- A rendering cannot be encoded. -/
  | unencodable {ts : List Path} (list : templates l base = .ok ts)
      (half : ¬IsEncodable (sources.renderer none) base mode ts)
      (result : o.result = .error (.host .unencodable))
  /-- The path of the templates is too long to be asked for. -/
  | overlong (long : base.locate l.templatesDir = .error .tooLong)
      (result : o.result = .error (.host .inaccessible))

theorem SettlesBatch.congr {o o' : Result} (h : SettlesBatch s l sources mode base o)
    (hresult : o'.result = o.result) (hstore : o'.store = o.store) :
    SettlesBatch s l sources mode base o' := by
  cases h with
  | ended list fares opens answer =>
    exact .ended list (hstore ▸ fares) opens (hresult.trans answer)
  | unopened refused result store =>
    exact .unopened refused (hresult.trans result) (hstore.trans store)
  | unencodable list half result => exact .unencodable list half (hresult.trans result)
  | overlong long result => exact .overlong long (hresult.trans result)

theorem settlesBatch_renderBatch (hs : s.store.IsTree)
    (hprepare : prepare l s.now mode s.store = (base, .ok ())) :
    SettlesBatch s l sources mode base (renderBatch s l sources mode) := by
  cases hopening : s.console.writeAll (s.opening sources) with
  | error fault =>
    have hopening' := hopening
    rw [Session.opening] at hopening'
    refine .unopened hopening ?_ ?_ <;> rw [renderBatch, Session.say, hopening'] <;> rfl
  | ok opening =>
  rcases templates_cases l base with ⟨ts, hlist⟩ | ⟨hlong, hlist⟩
  case inr =>
    refine .overlong hlong (result_renderBatch_of_error hopening ?_)
    rw [renderAll_eq, hprepare]
    simp only [hlist]
  have hplaces := places_of_prepare hprepare
  have hlisted := listed_templates (isTree_of_prepare hs hprepare) hlist
  have hrun : renderAll l (sources.renderer none) s.store s.now mode = _ :=
    renderAll_of_prepare hprepare hlist
  cases hstop : (renderEach l (sources.renderer none) s.now mode base ts).stop with
  | none =>
    have hresult := result_renderBatch_of_ok hopening
      ((result_renderAll_eq_ok_iff hs hprepare hlist).2 ⟨hstop, rfl⟩)
    rw [← statusOf_counted] at hresult
    refine .ended hlist (List.forall₂_map_right_iff.2 (List.forall₂_same.2 ?_)) hopening hresult
    intro template htemplate
    rw [store_renderBatch hopening, hrun]
    exact fares_of_stop hplaces hlisted htemplate hstop
  | some cause =>
    have hfind := hstop
    rw [stop_renderEach hplaces hlisted decides_passesOver] at hfind
    obtain ⟨template, htemplate, hmine⟩ := List.exists_of_findSome?_eq_some hfind
    obtain rfl := eq_unencodable_of_stop? hplaces hlisted htemplate hmine
    refine .unencodable hlist (fun hencodable => ?_) (result_renderBatch_of_error hopening ?_)
    · rw [stop?_attempt_of_mem hplaces hlisted hencodable s.now _ template htemplate] at hmine
      cases hmine
    · rw [hrun, Batch.outcome, hstop]
      rfl

/-! ## Checks -/

/-- A template is a file that can be read and decoded, and no fault is found in it. -/
def Passes (store : Store) (template : Path) : Prop :=
  ∃ file text, store.regularFile? template = some file ∧ file.text? = .ok text ∧
    Template.faults text = []

/-- What a check says of a template is whether it passes. -/
theorem checkTemplate_fst (s : Session) (template : Path) :
    (checkTemplate s template).1 ↔ Passes s.store template := by
  have hpasses : Passes s.store template ↔
      ∃ text, templateText s.store template = .ok text ∧ Template.faults text = [] := by
    simp only [Passes, templateText_eq_ok_iff]
    grind
  rw [hpasses, checkTemplate]
  cases htext : templateText s.store template with
  | error cause => cases cause <;> simp
  | ok text => cases hfaults : Template.faults text <;> simp [hfaults]

/-- A target is found for each of the names, or a path that one could mean is too long. -/
theorem mapM_findTemplate_cases (s : Session) (l : Layout) (names : List String) :
    (∃ ts, names.mapM (s.findTemplate l) = .ok ts) ∨
      (∃ p, IsMeant l names p ∧ s.store.locate p = .error .tooLong) ∧
        names.mapM (s.findTemplate l) = .error .inaccessible := by
  induction names with
  | nil => exact .inl ⟨[], rfl⟩
  | cons name names ih =>
    have hmore {p : Path} (h : IsMeant l names p) : IsMeant l (name :: names) p :=
      h.imp fun _ => And.imp_left (List.mem_cons_of_mem name)
    rw [List.mapM_cons]
    cases hfind : s.findTemplate l name with
    | error fault =>
      obtain ⟨rfl, p, ⟨_, hmem, hp⟩, hlong⟩ := of_findTemplate_eq_error hfind
      obtain rfl := List.mem_singleton.1 hmem
      exact .inr ⟨⟨p, ⟨_, List.mem_cons_self, hp⟩, hlong⟩, rfl⟩
    | ok template =>
      rcases ih with ⟨ts, hrest⟩ | ⟨⟨p, hp, hlong⟩, hrest⟩
      · rw [hrest]
        exact .inl ⟨template :: ts, rfl⟩
      · rw [hrest]
        exact .inr ⟨⟨p, hmore hp, hlong⟩, rfl⟩

/-- The targets of a check are found, or the path of one is too long. -/
theorem targets_cases (s : Session) (l : Layout) (names : List String) :
    (∃ ts, targets s l names = .ok ts) ∨
      (∃ p, (p = l.templatesDir ∨ IsMeant l names p) ∧ s.store.locate p = .error .tooLong) ∧
        targets s l names = .error .inaccessible := by
  rw [targets]
  split
  · exact (templates_cases l s.store).imp_right fun ⟨hlong, hlist⟩ =>
      ⟨⟨_, .inl rfl, hlong⟩, hlist⟩
  · exact (mapM_findTemplate_cases s l names).imp_right fun ⟨⟨p, hp, hlong⟩, hfound⟩ =>
      ⟨⟨p, .inr hp, hlong⟩, hfound⟩

/-- What is said of a whole check. -/
def checkSummary (s : Session) (l : Layout) (ts : List Path) : Piece :=
  let failed := ts.countP fun template => !(checkTemplate s template).1
  if ts.isEmpty then noTemplates s.console l
  else .marked (if failed = 0 then s!"\n[green]All {ts.length} templates valid[/green]"
    else s!"\n[red]{failed} template(s) have errors[/red]")

/-- What a check comes to. -/
inductive SettlesCheck (s : Session) (l : Layout) (names : List String) (o : Result) : Prop
  /-- Something is told of every target and then of all, and the status tells whether all pass. -/
  | ended {ts : List Path} {verdicts : List Bool} (found : targets s l names = .ok ts)
      (passes : List.Forall₂ (fun template verdict => verdict = true ↔ Passes s.store template) ts
        verdicts)
      (answer : o.result = (s.answer (ts.flatMap (fun template => (checkTemplate s template).2) ++
        [checkSummary s l ts]) (statusOf verdicts)).result)
  /-- A path is too long to be asked for. -/
  | overlong {p : Path} (meant : p = l.templatesDir ∨ IsMeant l names p)
      (long : s.store.locate p = .error .tooLong)
      (result : o.result = .error (.host .inaccessible))

/-- A check whose targets are found says something of each, and then something of all. -/
theorem runCheck_of_targets (h : targets s l names = .ok ts) :
    runCheck s l names =
      s.answer (ts.flatMap (fun template => (checkTemplate s template).2) ++ [checkSummary s l ts])
        (statusOf (ts.map fun template => (checkTemplate s template).1)) := by
  have hcount : (ts.map (checkTemplate s)).countP (!·.1) =
      ts.countP fun template => !(checkTemplate s template).1 := List.countP_map
  have hfailed : (ts.countP fun template => !(checkTemplate s template).1) = 0 ↔
      (ts.map fun template => (checkTemplate s template).1).all id := by
    simp
  rw [runCheck, h, checkSummary]
  simp only [Session.withLook, List.flatMap_map, hcount]
  split
  · next hempty =>
    obtain rfl := List.isEmpty_iff.1 hempty
    rfl
  split
  · next hnone => rw [statusOf, if_pos (hfailed.1 hnone)]
  · next hsome => rw [statusOf, if_neg (fun hall => hsome (hfailed.2 hall))]

theorem settlesCheck_runCheck (s : Session) (l : Layout) (names : List String) :
    SettlesCheck s l names (runCheck s l names) := by
  rcases targets_cases s l names with ⟨ts, hfound⟩ | ⟨⟨p, hp, hlong⟩, hfound⟩
  · exact .ended hfound (List.forall₂_map_right_iff.2
      (List.forall₂_same.2 fun template _ => checkTemplate_fst s template))
      (congrArg Outcome.result (runCheck_of_targets hfound))
  · refine .overlong hp hlong ?_
    rw [runCheck, hfound]
    rfl

/-! ## Both commands -/

/-- The statuses of both commands tell what has come of all templates: every template of a batch,
every name that is rendered, and every target of a check has its verdict, whatever comes of the
others. A command that gives no status has been ended by one of few things. -/
theorem exitCode_faithful (hs : s.store.IsTree) (hloads : s.Loads l sources)
    (hmade : s.store.makeDirectories s.now l.generatedDir = (prepared, .ok ())) :
    (∀ dryRun force, SettlesBatch s l sources ⟨dryRun, force⟩
      (if dryRun then s.store else prepared) (runRender s l [] dryRun force false)) ∧
    (∀ dryRun force,
      (∃ ts, templates l s.store = .ok ts ∧ SettlesAll s l (sources.renderer none) .print
        (ts.length ≤ 1) (ts.map Path.name) s.store (runRender s l [] dryRun force true)) ∨
      s.store.locate l.templatesDir = .error .tooLong ∧
        (runRender s l [] dryRun force true).result = .error (.host .inaccessible)) ∧
    (∀ names dryRun force print, names ≠ [] → SettlesAll s l (sources.renderer none)
      (if print then .print else if dryRun then .dryRun else .write)
        (names.length ≤ 1) names s.store
      (runRender s l names dryRun force print)) ∧
    ∀ names, SettlesCheck s l names (runCheck s l names) := by
  have hnames : l.generatedDir.names ≠ [] := by simp [l.generatedDir_eq]
  obtain ⟨location, hlocate, -⟩ := directory_of_makeDirectories hnames hmade
  have hgenerated := isNameable_of_locate hlocate
  refine ⟨fun dryRun force => ?_, fun dryRun force => ?_, fun names dryRun force print hnames => ?_,
    settlesCheck_runCheck s l⟩
  · have hprepare : prepare l s.now ⟨dryRun, force⟩ s.store =
        (if dryRun then s.store else prepared, .ok ()) := by
      cases dryRun
      · exact hmade
      · rfl
    obtain ⟨hresult, hstore⟩ := withSources_of_loads hloads _
    exact (settlesBatch_renderBatch hs hprepare).congr hresult hstore
  · obtain ⟨hresult, hstore⟩ := withSources_of_loads hloads _
    unfold SettlesAll
    rw [runRender, hresult, hstore]
    simp only [List.isEmpty_nil, Bool.not_true, Bool.false_eq_true, if_false, if_true]
    rcases templates_cases l s.store with ⟨ts, hlist⟩ | ⟨hlong, hlist⟩
    · rw [hlist]
      refine .inl ⟨ts, rfl, ?_⟩
      rw [Session.withLook, List.length_map]
      exact settlesAll_renderNamed hgenerated ..
    · rw [hlist]
      exact .inr ⟨hlong, rfl⟩
  · obtain ⟨hresult, hstore⟩ := withSources_of_loads hloads _
    rw [SettlesAll, runRender, hresult, hstore]
    have hsome : (!names.isEmpty) = true := by simpa using hnames
    simp only [hsome, if_true]
    exact settlesAll_renderNamed hgenerated _ _ _ _

/-- The second of two templates cannot be read. -/
theorem exitCode_faithful_twoTemplates :
    let s := sessionIn twoTemplatesTree
    let l := layoutAt "root"
    let r := (s.bareSources l).renderer none
    let ts := [l.template "a.tmpl", l.template "b.tmpl"]
    (∃ verdicts,
      List.Forall₂ (Fares l r 1 {} s.store ts (runRender s l [] false false false).store) ts
        verdicts ∧
      (runRender s l [] false false false).result =
        .ok
          { exitCode := statusOf verdicts
            output := "Rendering templates...\nMachine type: unknown\n" ++
              "Rendered 1 template(s) to root/generated\nFailed to render 1 template(s)\n" }) ∧
    SettlesAll s l r .write false ["b.tmpl", "a.tmpl"] s.store
      (runRender s l ["b.tmpl", "a.tmpl"] false false false) ∧
    ∃ verdicts,
      List.Forall₂ (fun template verdict => verdict = true ↔ Passes s.store template) ts verdicts ∧
      (runCheck s l []).result =
        .ok
          { exitCode := statusOf verdicts
            output := "✓ a.tmpl\n✗ b.tmpl: refused\n\n1 template(s) have errors\n" } := by
  intro s l r ts
  have hs : s.store.IsTree := isTree_of_forall_entries (by decide +kernel)
  have hloads : s.Loads l (s.bareSources l) :=
    loads_bareSources (by decide +kernel) (by decide +kernel) (by decide +kernel)
  have hmade : s.store.makeDirectories s.now l.generatedDir = (s.store, .ok ()) := by
    decide +kernel
  have hlist : templates l s.store = .ok ts := by decide +kernel
  have hshort : s.store.locate l.templatesDir ≠ .error .tooLong := by decide +kernel
  have hencodable : IsEncodable r s.store {} ts := by decide +kernel
  have hopening : s.console.writeAll (s.opening (s.bareSources l)) =
      .ok "Rendering templates...\nMachine type: unknown\n" := by decide +kernel
  have hcounted : counted l r s.now {} s.store ts = { rendered := 1, failures := ["b.tmpl"] } := by
    decide +kernel
  have hsummary : s.console.writeAll
      (batchSummary s.console l false { rendered := 1, failures := ["b.tmpl"] }) =
        .ok "Rendered 1 template(s) to root/generated\nFailed to render 1 template(s)\n" := by
    decide +kernel
  have hbatchOutput : s.console.writeAll (s.opening (s.bareSources l) ++
      batchSummary s.console l false (counted l r s.now {} s.store ts)) =
        .ok ("Rendering templates...\nMachine type: unknown\n" ++
          "Rendered 1 template(s) to root/generated\nFailed to render 1 template(s)\n") := by
    rw [hcounted, Console.writeAll_append, hopening, hsummary]
    rfl
  have hcheckOutput : s.console.writeAll
      (ts.flatMap (fun template => (checkTemplate s template).2) ++ [checkSummary s l ts]) =
        .ok "✓ a.tmpl\n✗ b.tmpl: refused\n\n1 template(s) have errors\n" := by
    decide +kernel
  obtain ⟨hbatch, -, hnamed, hcheck⟩ := exitCode_faithful hs hloads hmade
  refine ⟨?_, hnamed ["b.tmpl", "a.tmpl"] false false false (List.cons_ne_nil _ _), ?_⟩
  · cases hbatch false false with
    | ended hall hfares hopens hresult =>
      obtain rfl := Except.ok.inj (hlist.symm.trans hall)
      exact ⟨_, hfares, hresult.trans (result_answer_of_ok hbatchOutput)⟩
    | unopened hrefused =>
      cases hopening.symm.trans hrefused
    | unencodable hall hhalf =>
      obtain rfl := Except.ok.inj (hlist.symm.trans hall)
      exact (hhalf hencodable).elim
    | overlong hlong => exact (hshort hlong).elim
  · cases hcheck [] with
    | ended hall hverdicts hresult =>
      obtain rfl := Except.ok.inj (hlist.symm.trans hall)
      exact ⟨_, hverdicts, hresult.trans (result_answer_of_ok hcheckOutput)⟩
    | overlong hmeant hlong =>
      rcases hmeant with rfl | ⟨name, hname, -⟩
      · exact (hshort hlong).elim
      · exact (List.not_mem_nil hname).elim

/-- A name that is too long cannot be looked for, though it could be a short path's. -/
theorem findTemplate_of_overlong {name : String} (hname : IsName name)
    (hnameable : name.toList.all Text.isNameable) (hlong : nameLimit < Text.byteLength name)
    (hshort : Text.byteLength name ≤ pathLimit)
    (hthere : s.store.at? s.store.workingDirectory = some .directory) :
    s.findTemplate l name = .error .inaccessible := by
  have hstep : s.store.step s.store.workingDirectory name = .error .tooLong := by
    rw [step, if_neg (not_not.2 hthere), if_pos hlong]
  have hlocate : s.store.locate ⟨.relative, [name]⟩ = .error .tooLong := by
    rw [locate_of_obstacle?_eq_none (obstacle?_name hnameable hshort), walk, List.foldlM_cons]
    exact congrArg (· >>= _) hstep
  rw [Session.findTemplate, Path.ofText_of_isName hname, contains, look, hlocate]
  rfl

/-- A name that is too long ends the check, though there is another target, which passes. -/
theorem runCheck_overlong :
    let s := sessionIn (treeAt "root" [("a.tmpl", .file ⟨"a".toUTF8, 0o644, 0⟩)] [])
    let l := layoutAt "root"
    Passes s.store (l.template "a.tmpl") ∧
      (runCheck s l [String.ofList (List.replicate 300 'a'), "a.tmpl"]).result =
        .error (.host .inaccessible) := by
  intro s l
  have hletters {c : Char} (hc : c ∈ (String.ofList (List.replicate 300 'a')).toList) :
      c = 'a' := by
    rw [String.toList_ofList] at hc
    exact List.eq_of_mem_replicate hc
  have hname : IsName (String.ofList (List.replicate 300 'a')) := by
    refine isName_of_length ?_ fun h => absurd (hletters h) (by decide)
    rw [String.toList_ofList, List.length_replicate]
    decide
  have hnameable : (String.ofList (List.replicate 300 'a')).toList.all Text.isNameable :=
    List.all_eq_true.2 fun c hc => by
      rw [hletters hc]
      decide
  have hlength : Text.byteLength (String.ofList (List.replicate 300 'a')) = 300 := by
    rw [Text.byteLength, String.toList_ofList]
    decide +kernel
  have hfind : s.findTemplate l (String.ofList (List.replicate 300 'a')) = .error .inaccessible :=
    findTemplate_of_overlong hname hnameable (by rw [hlength]; decide) (by rw [hlength]; decide) rfl
  have htargets : targets s l [String.ofList (List.replicate 300 'a'), "a.tmpl"] =
      .error .inaccessible := by
    rw [targets, List.isEmpty_cons, List.mapM_cons, hfind]
    rfl
  refine ⟨(checkTemplate_fst s _).1 (by decide +kernel), ?_⟩
  rw [runCheck, htargets]
  rfl

end Command

end MachineConfig
