import MachineConfig.Proofs.Generated.ReportLemmas

/-!
Rendering only what is out of date gives what rendering everything would give. A run edits, deletes
and renders at times that never go back (`Reached`). Along every run a generated file is no newer
than the present, and one that is newer than its template holds its rendering (`Fresh`); so a
template that is passed over has the right generated file (`renderAll_incremental`).
-/

namespace MachineConfig.Generated

open Store
open Template (Renderer Rendering)

variable {l : Layout} {r : Renderer} {time now : Int} {mode : BatchMode} {skip : Path → Bool}
  {s t start : Store} {base location : Path} {name : String} {file source out : RegularFile}
  {ts : List Path}

/-- The name of a template that has a generated file of its own. -/
structure IsOrdinary (l : Layout) (name : String) : Prop where
  isName : IsName name
  isTemplateName : l.isTemplateName name
  output : IsName (l.outputName name)

theorem IsOrdinary.eq_of_output {other : String} (h : IsOrdinary l name)
    (hother : IsOrdinary l other) (heq : l.outputName name = l.outputName other) :
    name = other := by
  refine Layout.outputName_inj (fun hextension => h.output.ne_empty ?_) h.isTemplateName
    hother.isTemplateName heq
  exact Layout.outputName_of_extension_eq_empty hextension name

/-- Where a template lies in a root directory at `base`. -/
def sourceAt (base : Path) (name : String) : Path := base.below ["templates", "configs", name]

/-- Where the generated file of a template lies in a root directory at `base`. -/
def outputAt (l : Layout) (base : Path) (name : String) : Path :=
  base.below ["generated", l.outputName name]

theorem name_sourceAt (base : Path) (name : String) : (sourceAt base name).name = name :=
  @Path.name_below_append _ _ ["templates", "configs"]

theorem name_outputAt (l : Layout) (base : Path) (name : String) :
    (outputAt l base name).name = l.outputName name :=
  @Path.name_below_append _ _ ["generated"]

theorem parent_outputAt (l : Layout) (base : Path) (name : String) :
    (outputAt l base name).parent = base.below ["generated"] :=
  @Path.parent_below_append _ _ ["generated"]

theorem sourceAt_ne_outputAt (l : Layout) (base : Path) (name other : String) :
    sourceAt base name ≠ outputAt l base other := by
  simp [sourceAt, outputAt]

/-- A generated file holds the rendering of a template file. -/
def Holds (r : Renderer) (source out : RegularFile) : Prop :=
  ∃ x, renderingOf r source = .ok x ∧ out.content = Text.utf8 x.text

/-- No generated file is from the future, and one that is newer than its template is right. -/
structure Fresh (l : Layout) (r : Renderer) (base : Path) (now : Int) (s : Store) : Prop where
  isTree : s.IsTree
  locate_root : s.locate l.root = .ok base
  directory_base : s.at? base = some .directory
  noDirectory : ∀ {name}, IsOrdinary l name → s.at? (outputAt l base name) ≠ some .directory
  time_le : ∀ {name out}, IsOrdinary l name →
    s.at? (outputAt l base name) = some (.file out) → out.time ≤ now
  holds : ∀ {name source out}, IsOrdinary l name →
    s.at? (sourceAt base name) = some (.file source) →
    s.at? (outputAt l base name) = some (.file out) → source.time < out.time → Holds r source out

namespace Fresh

theorem walk_root (h : Fresh l r base now s) : s.walk l.root = .ok base :=
  (locate_eq_ok_iff.1 h.locate_root).2

theorem eq_sourceAt (h : Fresh l r base now s) (hname : IsName name)
    (hlocate : s.locate (l.template name) = .ok location) : location = sourceAt base name := by
  rw [Layout.template_eq hname] at hlocate
  refine eq_below_of_locate h.walk_root ?_ hlocate
  simp [Ne.symm hname.ne_above]

theorem eq_outputAt (h : Fresh l r base now s) (hname : IsOrdinary l name)
    (hlocate : s.locate (l.output (l.template name)) = .ok location) :
    location = outputAt l base name := by
  rw [Layout.output_of_isName hname.isName hname.output] at hlocate
  refine eq_below_of_locate h.walk_root ?_ hlocate
  simp [Ne.symm hname.output.ne_above]

/-- Nothing goes stale where generated files stay as they are and templates are only taken away or
changed at the present time. -/
theorem of_frame (h : Fresh l r base time s) (hnow : time ≤ now) (isTree : t.IsTree)
    (locate_root : t.locate l.root = .ok base) (directory_base : t.at? base = some .directory)
    (houtput : ∀ {name}, IsOrdinary l name →
      t.at? (outputAt l base name) = s.at? (outputAt l base name))
    (hsource : ∀ {name source}, IsOrdinary l name →
      t.at? (sourceAt base name) = some (.file source) →
      s.at? (sourceAt base name) = some (.file source) ∨ source.time = now) :
    Fresh l r base now t where
  isTree := isTree
  locate_root := locate_root
  directory_base := directory_base
  noDirectory := fun hname => by
    rw [houtput hname]
    exact h.noDirectory hname
  time_le := fun hname hout => by
    rw [houtput hname] at hout
    exact Int.le_trans (h.time_le hname hout) hnow
  holds := fun hname hfile hout hnewer => by
    rw [houtput hname] at hout
    rcases hsource hname hfile with hsame | rfl
    · exact h.holds hname hsame hout hnewer
    · have hpast := h.time_le hname hout
      omega

theorem mono (h : Fresh l r base time s) (hnow : time ≤ now) : Fresh l r base now s :=
  h.of_frame hnow h.isTree h.locate_root h.directory_base (fun _ => rfl) fun _ => .inl

/-- Times of directories are nothing to generated files. -/
theorem touchAll (h : Fresh l r base now s) (time : Int) (directories : List Path) :
    Fresh l r base now (s.touchAll time directories) where
  isTree := h.isTree.touchAll time directories
  locate_root := h.locate_root
  directory_base := h.directory_base
  noDirectory := h.noDirectory
  time_le := h.time_le
  holds := h.holds

/-- Creating or editing a template. -/
theorem edit (h : Fresh l r base time s) (hnow : time ≤ now) (hname : IsName name)
    (hlocate : s.locate (l.template name) = .ok location)
    (hplace : s.at? location ≠ some .directory) (hfile : file.time = now) :
    Fresh l r base now (s.put location (.file file)) := by
  obtain rfl := h.eq_sourceAt hname hlocate
  have hsame := sameDirectories_put hplace file
  have hparent : s.at? (sourceAt base name).parent = some .directory :=
    h.isTree.parent_of_locate (by simp [Layout.template_eq hname]) hlocate
  have hlast : IsName (sourceAt base name).name := by rwa [name_sourceAt]
  have houtput : ∀ other, (s.put (sourceAt base name) (.file file)).at? (outputAt l base other) =
      s.at? (outputAt l base other) :=
    fun other => at?_put_of_ne (Ne.symm (sourceAt_ne_outputAt l base name other))
  refine h.of_frame hnow (h.isTree.put_file hlast hparent hplace file)
    (hsame.locate_eq _ ▸ h.locate_root) ((hsame.directory _).1 h.directory_base)
    (fun _ => houtput _) fun {other source} _ hsource => ?_
  by_cases hother : other = name
  · rw [hother, at?_put_self (names_ne_nil_of_at?_ne_directory hplace)] at hsource
    obtain ⟨rfl⟩ : file = source := by simpa using hsource
    exact .inr hfile
  · rw [at?_put_of_ne (by simpa [sourceAt] using hother)] at hsource
    exact .inl hsource

/-- Deleting a template. -/
theorem delete (h : Fresh l r base time s) (hnow : time ≤ now) (hname : IsName name)
    (hlocate : s.locate (l.template name) = .ok location)
    (hfile : s.at? location = some (.file file)) : Fresh l r base now (s.remove location) := by
  obtain rfl := h.eq_sourceAt hname hlocate
  have hremove := at?_remove (s := s) (names_ne_nil_of_at?_eq_file hfile)
  have hsame : SameDirectories s (s.remove (sourceAt base name)) :=
    sameDirectories_remove (by simp [hfile])
  refine h.of_frame hnow (h.isTree.remove_file hfile) (hsame.locate_eq _ ▸ h.locate_root)
    ((hsame.directory _).1 h.directory_base) (fun _ => ?_) fun _ hsource => ?_
  · rw [hremove, if_neg (Ne.symm (sourceAt_ne_outputAt l base _ _))]
  · rw [hremove] at hsource
    split at hsource
    · cases hsource
    · exact .inl hsource

/-- Making a directory that is not in the place of a generated file. -/
theorem makeDirectories {names : List String} (h : Fresh l r base time s) (hnow : time ≤ now)
    (hnames : ".." ∉ names) (hfront : ∀ output, ¬["generated", output] <+: names) :
    Fresh l r base now (s.makeDirectories now (l.root.below names)).1 := by
  have hextends := makeDirectories_extends s now (l.root.below names)
  refine h.of_frame hnow (h.isTree.makeDirectories ..) (hextends.locate_eq h.locate_root)
    (hextends.at?_eq h.directory_base) (fun _ => ?_) fun _ hsource => ?_
  · refine at?_makeDirectories_below h.walk_root h.directory_base hnames fun front hprefix heq => ?_
    have hnames := Path.below_inj.1 heq
    exact hfront _ (hnames ▸ hprefix)
  · exact .inl (hextends.at?_eq_file_iff.1 hsource)

/-- Writing the rendering of a template to its generated file. -/
theorem write (h : Fresh l r base now s) (hname : IsOrdinary l name)
    (hparent : s.at? (base.below ["generated"]) = some .directory) (hfile : file.time = now)
    (hholds : ∀ {source}, s.at? (sourceAt base name) = some (.file source) →
      Holds r source file) :
    Fresh l r base now (s.put (outputAt l base name) (.file file)) := by
  have hplace := h.noDirectory hname
  have hsame := sameDirectories_put hplace file
  have hput : ∀ other, (s.put (outputAt l base name) (.file file)).at? other =
      if other = outputAt l base name then some (.file file) else s.at? other :=
    at?_put (names_ne_nil_of_at?_ne_directory hplace)
  constructor
  · refine h.isTree.put_file ?_ ?_ hplace file
    · rw [name_outputAt]
      exact hname.output
    · rw [parent_outputAt]
      exact hparent
  · exact hsame.locate_eq _ ▸ h.locate_root
  · exact (hsame.directory _).1 h.directory_base
  · intro other hother
    rw [ne_eq, ← hsame.directory]
    exact h.noDirectory hother
  · intro other out hother hout
    rw [hput] at hout
    split at hout
    · obtain ⟨rfl⟩ : file = out := by simpa using hout
      exact Int.le_of_eq hfile
    · exact h.time_le hother hout
  · intro other source out hother hsource hout hnewer
    rw [hput, if_neg (sourceAt_ne_outputAt l base _ _)] at hsource
    rw [hput] at hout
    split at hout
    · next heq =>
      obtain ⟨rfl⟩ : file = out := by simpa using hout
      obtain rfl : other = name := hother.eq_of_output hname (by simpa [outputAt] using heq)
      exact hholds hsource
    · exact h.holds hother hsource hout hnewer

/-- Attempting to render a template. -/
theorem attempt (h : Fresh l r base now s)
    (hplaces : mode.dryRun = true ∨ ∃ base, Places l s base) (hname : IsName name)
    (htemplate : l.isTemplateName name) :
    Fresh l r base now
      (putFiles s (attempt l r now mode skip s (l.template name)).change?.toList) := by
  cases hchange : (Generated.attempt l r now mode skip s (l.template name)).change? with
  | none => exact h
  | some change =>
    obtain ⟨location, file⟩ := change
    change Fresh l r base now (s.put location (.file file))
    obtain ⟨hdry, x, hrendering, hreplacement⟩ := exists_of_change? hchange
    obtain ⟨hlocate, hplace, -, -, hfile⟩ := of_replacement_eq_ok hreplacement
    obtain ⟨base', hplaces⟩ := hplaces.resolve_left (by simp [hdry])
    obtain rfl : base = base' := Except.ok.inj (h.walk_root.symm.trans hplaces.walk_root)
    obtain ⟨houtput, hlocation⟩ := hplaces.locate_output hname hlocate hplace
    obtain rfl : location = outputAt l base name := hlocation
    refine h.write ⟨hname, htemplate, houtput⟩ hplaces.directory_generated (by rw [hfile])
      fun {source} hsource => ?_
    obtain ⟨found, hfound⟩ := exists_file_of_rendering hrendering
    obtain ⟨place, hplace, hentry⟩ := regularFile?_eq_some_iff.1 hfound
    obtain rfl := h.eq_sourceAt hname hplace
    obtain ⟨rfl⟩ : found = source := by simpa [hentry] using hsource
    exact ⟨x, (rendering_of_file hfound).symm.trans hrendering, by rw [hfile]⟩

/-- Rendering these templates in turn, whether or not the batch is stopped. -/
theorem foldl_step (hlisted : Listed l ts) {b : Batch} (h : Fresh l r base now b.store)
    (hplaces : mode.dryRun = true ∨ ∃ base, Places l b.store base) :
    Fresh l r base now (ts.foldl (Batch.step l r now mode) b).store := by
  induction ts generalizing b with
  | nil => exact h
  | cons template rest ih =>
    obtain ⟨name, hname, htemplate, rfl⟩ := hlisted.template template (List.mem_cons_self ..)
    rw [List.foldl_cons, step_eq_record hplaces hname, Batch.record]
    split
    · exact ih hlisted.tail h hplaces
    · exact ih hlisted.tail ((h.attempt hplaces hname htemplate).touchAll now _)
        (places_of_sameDirectories hplaces ((sameDirectories_of_change ..).touchAll ..))

theorem prepare (h : Fresh l r base time s) (hnow : time ≤ now) (mode : BatchMode) :
    Fresh l r base now (prepare l now mode s).1 := by
  rw [Generated.prepare]
  split
  · exact h.mono hnow
  · rw [l.generatedDir_eq]
    exact h.makeDirectories hnow (by decide) fun output => by simp

/-- Rendering all templates, whatever comes of it. -/
theorem renderAll (h : Fresh l r base time s) (hnow : time ≤ now) (mode : BatchMode) :
    Fresh l r base now (renderAll l r s now mode).store := by
  have hfresh := h.prepare hnow mode
  rw [renderAll_eq]
  rcases hprepare : Generated.prepare l now mode s with ⟨prepared, fault | _⟩
  · rwa [hprepare] at hfresh
  · rw [hprepare] at hfresh
    cases hlist : templates l prepared with
    | error fault => simpa [hlist] using hfresh
    | ok ts =>
      simp only [hlist]
      exact foldl_step (listed_templates hfresh.isTree hlist) hfresh (places_of_prepare hprepare)

end Fresh

/-! ## Runs -/

/-- What can be done at a time: creating, editing or deleting a template, which may change times of
directories, making the directory of templates, rendering all templates. -/
inductive Step (l : Layout) (r : Renderer) (now : Int) : Store → Store → Prop where
  | edit {s : Store} {name : String} {location : Path} (content : ByteArray) (mode : Nat)
      (directories : List Path) (hname : IsName name)
      (hlocate : s.locate (l.template name) = .ok location)
      (hplace : s.at? location ≠ some .directory) :
      Step l r now s ((s.put location (.file ⟨content, mode, now⟩)).touchAll now directories)
  | delete {s : Store} {name : String} {location : Path} {file : RegularFile}
      (directories : List Path) (hname : IsName name)
      (hlocate : s.locate (l.template name) = .ok location)
      (hfile : s.at? location = some (.file file)) :
      Step l r now s ((s.remove location).touchAll now directories)
  | makeDirectories (s : Store) : Step l r now s (s.makeDirectories now l.templatesDir).1
  | renderAll (s : Store) (mode : BatchMode) : Step l r now s (renderAll l r s now mode).store

/-- The trees that runs come to, each with the time at which it came about. -/
inductive Reached (l : Layout) (r : Renderer) (start : Store) : Int → Store → Prop where
  | start (time : Int) : Reached l r start time start
  | step {time now : Int} {s t : Store} (h : Reached l r start time s) (hnow : time ≤ now)
      (hstep : Step l r now s t) : Reached l r start now t

/-- A root directory lies at `base`, and there are no generated files. -/
structure IsUnrendered (l : Layout) (base : Path) (s : Store) : Prop where
  isTree : s.IsTree
  locate_root : s.locate l.root = .ok base
  directory_base : s.at? base = some .directory
  empty : ∀ name, s.at? (base.below ["generated", name]) = none

theorem IsUnrendered.fresh (h : IsUnrendered l base s) (now : Int) : Fresh l r base now s where
  isTree := h.isTree
  locate_root := h.locate_root
  directory_base := h.directory_base
  noDirectory := fun {name} _ => by simp [outputAt, h.empty]
  time_le := fun {name out} _ hout => by simp [outputAt, h.empty] at hout
  holds := fun {name source out} _ _ hout => by simp [outputAt, h.empty] at hout

theorem Fresh.step (h : Fresh l r base time s) (hnow : time ≤ now) (hstep : Step l r now s t) :
    Fresh l r base now t := by
  cases hstep with
  | edit content mode directories hname hlocate hplace =>
    exact (h.edit hnow hname hlocate hplace rfl).touchAll now directories
  | delete directories hname hlocate hfile =>
    exact (h.delete hnow hname hlocate hfile).touchAll now directories
  | makeDirectories =>
    rw [l.templatesDir_eq]
    exact h.makeDirectories hnow (by decide) fun output => by simp
  | renderAll mode => exact h.renderAll hnow mode

theorem Reached.fresh (hstart : IsUnrendered l base start) (h : Reached l r start now s) :
    Fresh l r base now s := by
  induction h with
  | start time => exact hstart.fresh time
  | step _ hnow hstep ih => exact ih.step hnow hstep

/-- A template that is passed over has the right generated file. -/
theorem Fresh.exists_of_skips (h : Fresh l r base now s) (hname : IsOrdinary l name)
    (hfile : ∀ location, s.locate (l.template name) = .ok location →
      ∃ source, s.at? location = some (.file source))
    (hskip : skips l mode s (l.template name)) :
    ∃ x out, rendering r s (l.template name) = .ok x ∧
      s.locate (l.output (l.template name)) = .ok (outputAt l base name) ∧
      s.at? (outputAt l base name) = some (.file out) ∧ out.content = Text.utf8 x.text := by
  rw [skips, Bool.and_eq_true, isUpToDate] at hskip
  obtain ⟨-, hnewer⟩ := hskip
  cases hsource : s.locate (l.template name) with
  | error obstacle => simp [time?, hsource, Except.toOption] at hnewer
  | ok place =>
  obtain ⟨source, hfile⟩ := hfile place hsource
  have hread := regularFile?_eq_some_iff.2 ⟨place, hsource, hfile⟩
  rw [time?_of_regularFile? hread] at hnewer
  obtain rfl := h.eq_sourceAt hname.isName hsource
  cases hlocate : s.locate (l.output (l.template name)) with
  | error obstacle => simp [time?, hlocate, Except.toOption] at hnewer
  | ok location =>
    obtain rfl := h.eq_outputAt hname hlocate
    rcases hout : s.at? (outputAt l base name) with _ | _ | out
    · simp [time?, hlocate, timeAt?, hout, Except.toOption] at hnewer
    · exact (h.noDirectory hname hout).elim
    · have hnewer : source.time < out.time := by
        simpa [time?, hlocate, timeAt?, hout, Except.toOption] using hnewer
      obtain ⟨x, hx, hcontent⟩ := h.holds hname hfile hout hnewer
      exact ⟨x, out, (rendering_of_file hread).trans hx, rfl, rfl, hcontent⟩

/-- After a batch at the end of a run, every template that has not failed has a generated file with
the rendering of what the template holds, whether it was rendered or passed over. -/
theorem renderAll_incremental {report : BatchReport} (hstart : IsUnrendered l base start)
    (h : Reached l r start time s) (hnow : time ≤ now) (hdry : mode.dryRun = false)
    (hresult : (renderAll l r s now mode).result = .ok report) :
    ∃ ts, templates l (renderAll l r s now mode).store = .ok ts ∧
      ∀ template ∈ ts, IsName (l.outputName template.name) → template.name ∉ report.failures →
        ∃ x out, rendering r (renderAll l r s now mode).store template = .ok x ∧
          (renderAll l r s now mode).store.regularFile? (l.output template) = some out ∧
          out.content = Text.utf8 x.text := by
  have hfresh := (h.fresh hstart).prepare hnow mode
  obtain ⟨prepared, ts, skip, hprepare, hlist, hlisted, hskip, hall, hfailures, hstore⟩ :=
    of_renderAll_eq_ok (h.fresh hstart).isTree hresult
  have hplaces := places_of_prepare hprepare
  replace hfresh : Fresh l r base now prepared := by rwa [hprepare] at hfresh
  rw [hstore]
  refine ⟨ts, (templates_changesOf hlisted).trans hlist, fun template htemplate houtput hleft => ?_⟩
  rw [hfailures, hlisted.name_mem_map_filter htemplate, Bool.not_eq_true] at hleft
  have hrendered : rendering r ((putFiles prepared
      (changesOf l r now mode skip prepared ts)).touchAll now
        (touchedBy l r now mode skip prepared ts)) template = rendering r prepared template :=
    rendering_changesOf hplaces hlisted htemplate
  rw [hrendered]
  have hsame :
      SameDirectories prepared (putFiles prepared (changesOf l r now mode skip prepared ts)) :=
    sameDirectories_changesOf prepared ts
  cases hpassed : skip template with
  | false =>
    obtain ⟨location, file, hchange⟩ := exists_change? hpassed hdry hleft (hall template htemplate)
    obtain ⟨-, x, hrendering, hreplacement⟩ := exists_of_change? hchange
    obtain ⟨hlocate, -, -, -, hfile⟩ := of_replacement_eq_ok hreplacement
    refine ⟨x, file, hrendering, regularFile?_eq_some_iff.2 ⟨location, ?_, ?_⟩, by rw [hfile]⟩
    · exact hsame.locate_eq _ ▸ hlocate
    · exact at?_of_change? hplaces hlisted htemplate hchange
  | true =>
    have hsteady : IsSteadyAt l now mode prepared template :=
      isSteadyAt_of_name (by simp [houtput.ne_empty, houtput.ne_here, houtput.ne_above])
    have hskips : skips l mode prepared template := by
      rw [← passesOver_eq_skips hplaces hsteady hlisted htemplate, ← hskip template htemplate,
        hpassed]
    have hfile : ∀ location, prepared.locate template = .ok location →
        ∃ source, prepared.at? location = some (.file source) :=
      fun _ => exists_file_of_mem hfresh.isTree hlist htemplate
    obtain ⟨name, hname, hends, rfl⟩ := hlisted.template template htemplate
    rw [Layout.name_template hname] at houtput
    obtain ⟨x, out, hrendering, hlocate, hout, hcontent⟩ :=
      hfresh.exists_of_skips ⟨hname, hends, houtput⟩ hfile hskips
    refine ⟨x, out, hrendering, regularFile?_eq_some_iff.2 ⟨outputAt l base name, ?_, ?_⟩, hcontent⟩
    · exact hsame.locate_eq _ ▸ hlocate
    · refine (at?_touchAll ..).trans ?_
      rw [at?_changesOf_output hplaces hlisted htemplate hlocate, attempt_of_skip hpassed]
      exact hout

/-- A root directory without templates and generated files. -/
def emptyTree : Store := treeAt "root" [] []

theorem isUnrendered_emptyTree :
    IsUnrendered (layoutAt "root") ⟨.relative, ["root"]⟩ emptyTree where
  isTree := isTree_of_forall_entries (by decide +kernel)
  locate_root := by decide +kernel
  directory_base := by decide +kernel
  empty := fun name => by
    have hkeys : emptyTree.entries.keys = [["root"], ["root", "templates"],
        ["root", "templates", "configs"], ["root", "generated"]].map (⟨.relative, ·⟩) := by
      decide +kernel
    rw [at?_eq_get? (by simp), ← Classical.not_not (a := _ = none), ← ne_eq,
      ← Table.mem_keys_iff_get?_ne_none, hkeys]
    simp [Path.below]

/-- A template with this content, written at time 1. -/
def edited (s : Store) (content : String) : Store :=
  s.put ⟨.relative, ["root", "templates", "configs", "a.tmpl"]⟩
    (.file ⟨content.toUTF8, 0o644, 1⟩)

/-- The tree after a template has been written, rendered and written again, all at time 1. -/
def editedTree : Store :=
  edited (renderAll (layoutAt "root") { vars := .empty } (edited emptyTree "1") 1 {}).store "2"

theorem reached_editedTree :
    Reached (layoutAt "root") { vars := .empty } emptyTree 1 editedTree := by
  have hname : IsName "a.tmpl" := by decide
  have hfirst : Reached (layoutAt "root") { vars := .empty } emptyTree 1 (edited emptyTree "1") :=
    .step (.start 0) (by decide) (.edit _ _ [] hname (by decide +kernel) (by decide +kernel))
  have hrendered := hfirst.step (Int.le_refl 1) (.renderAll _ {})
  exact hrendered.step (Int.le_refl 1)
    (.edit _ _ [] hname (by decide +kernel) (by decide +kernel))

theorem renderAll_incremental_edited :
    ∃ out, (renderAll (layoutAt "root") { vars := .empty } editedTree 1 {}).store.regularFile?
        ((layoutAt "root").output ((layoutAt "root").template "a.tmpl")) = some out ∧
      out.content = Text.utf8 "2" := by
  have hresult : (renderAll (layoutAt "root") { vars := .empty } editedTree 1 {}).result =
      .ok { rendered := 1 } := by
    decide +kernel
  have hlisted : templates (layoutAt "root")
      (renderAll (layoutAt "root") { vars := .empty } editedTree 1 {}).store =
        .ok [(layoutAt "root").template "a.tmpl"] := by
    decide +kernel
  have htext : (rendering { vars := .empty }
      (renderAll (layoutAt "root") { vars := .empty } editedTree 1 {}).store
      ((layoutAt "root").template "a.tmpl")).toOption.map (·.text) = some "2" := by
    decide +kernel
  obtain ⟨ts, hlist, hall⟩ := renderAll_incremental isUnrendered_emptyTree reached_editedTree
    (Int.le_refl 1) rfl hresult
  obtain rfl := Except.ok.inj (hlist.symm.trans hlisted)
  obtain ⟨x, out, hrendering, hout, hcontent⟩ :=
    hall _ (List.mem_singleton_self _) (by decide +kernel) (List.not_mem_nil)
  rw [hrendering] at htext
  rw [← Option.some.inj htext]
  exact ⟨out, hout, hcontent⟩

end MachineConfig.Generated
