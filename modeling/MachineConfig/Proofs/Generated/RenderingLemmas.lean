import MachineConfig.Generated.File
import MachineConfig.Generated.Drift
import MachineConfig.Proofs.Generated.PlaceLemmas
import MachineConfig.Proofs.Store.ReadLemmas

/-!
What the rendering of a template depends on: the directories and the template file
(`AgreeOn.rendering_eq`). A template that cannot be read is a failure that stays with it
(`isIsolated_of_rendering`), and what rendering writes is written to one place or not at all
(`renderFile_eq`); the directory of that place is touched with it.
-/

namespace MachineConfig

open Store

namespace Generated

open Template (Renderer Rendering)

variable {l : Layout} {r : Renderer} {s t : Store} {base template location p : Path}
  {name other : String} {x : Rendering} {file : RegularFile} {cause : Failure}

theorem templateText_eq (s : Store) (template : Path) : templateText s template =
    match s.look template with
    | .error fault => .error (.host fault)
    | .ok (some (.file file)) => file.text?.mapError Failure.host
    | .ok _ => .error (.templateNotFound template) := by
  rw [templateText, isFile, look]
  cases hlocate : s.locate template with
  | error obstacle => cases obstacle <;> rfl
  | ok location =>
    cases hentry : s.at? location with
    | none => simp [hentry, Except.map, Except.mapError, bind, Except.bind]; rfl
    | some entry =>
      cases entry with
      | directory => simp [hentry, Except.map, Except.mapError, bind, Except.bind]; rfl
      | file file =>
        rw [readText_of_locate hlocate hentry]
        simp [hentry, Except.map, Except.mapError, bind, Except.bind]

theorem templateText_eq_ok_iff {text : String} : templateText s template = .ok text ↔
    ∃ file, s.regularFile? template = some file ∧ file.text? = .ok text := by
  constructor
  · intro h
    rw [templateText_eq] at h
    cases hlocate : s.locate template with
    | error obstacle => cases obstacle <;> simp [look, hlocate] at h
    | ok location =>
      rw [look_of_locate hlocate] at h
      rcases hentry : s.at? location with _ | (_ | file)
      · simp [hentry] at h
      · simp [hentry] at h
      · refine ⟨file, regularFile?_eq_some_iff.2 ⟨location, hlocate, hentry⟩, ?_⟩
        cases htext : file.text? with
        | error fault => simp [hentry, htext, Except.mapError] at h
        | ok found => simpa [hentry, htext, Except.mapError] using h
  · rintro ⟨file, hfile, htext⟩
    obtain ⟨location, hlocate, hentry⟩ := regularFile?_eq_some_iff.1 hfile
    rw [templateText_eq, look_of_locate hlocate, hentry]
    simp only [htext]
    rfl

/-- The rendering of a file as a template. -/
def renderingOf (r : Renderer) (file : RegularFile) : Except Failure Rendering :=
  (file.text?.mapError Failure.host).map r.render

theorem rendering_of_file (h : s.regularFile? template = some file) :
    rendering r s template = renderingOf r file := by
  obtain ⟨location, hlocate, hentry⟩ := regularFile?_eq_some_iff.1 h
  rw [rendering, templateText_eq, look_of_locate hlocate, hentry]
  rfl

theorem exists_file_of_rendering (h : rendering r s template = .ok x) :
    ∃ file, s.regularFile? template = some file := by
  cases htext : templateText s template with
  | ok text =>
    obtain ⟨file, hfile, -⟩ := templateText_eq_ok_iff.1 htext
    exact ⟨file, hfile⟩
  | error cause =>
    rw [rendering, htext] at h
    cases h

/-- A template that cannot be read is given up, and others are not. -/
theorem isIsolated_of_rendering (h : rendering r s template = .error cause) : cause.isIsolated := by
  rw [rendering, templateText_eq] at h
  split at h
  · next fault hlook =>
    rw [look] at hlook
    split at hlook <;> cases hlook
    obtain rfl := Except.error.inj h
    rfl
  · next file hlook =>
    rw [RegularFile.text?] at h
    split at h
    · cases htext : Text.readText? file.content <;> rw [htext] at h
      · obtain rfl := Except.error.inj h
        rfl
      · cases h
    · obtain rfl := Except.error.inj h
      rfl
  · obtain rfl := Except.error.inj h
    rfl

/-! ## What rendering a file comes to -/

section renderFile

variable {dryRun : Bool} {target : Path} {fault : HostFault}

theorem renderFile_of_error (h : rendering r s template = .error cause) (now : Int) (dryRun : Bool)
    (output : Option Path) :
    renderFile r s now dryRun template output = { result := .error cause, store := s } := by
  rw [renderFile, h]

theorem renderFile_none (h : rendering r s template = .ok x) (now : Int) (dryRun : Bool) :
    renderFile r s now dryRun template none =
      { result := .ok x, events := reports template x, store := s } := by
  rw [renderFile, h]

theorem renderFile_dryRun (h : rendering r s template = .ok x) (now : Int) (target : Path) :
    renderFile r s now true template (some target) =
      { result := .ok x, events := reports template x ++ [.wouldWrite target], store := s } := by
  rw [renderFile, h]
  rfl

theorem renderFile_of_replace_eq_ok (h : rendering r s template = .ok x) {now : Int}
    (hreplace : s.replace now target x.text = (t, .ok ())) :
    renderFile r s now false template (some target) =
      { result := .ok x, events := reports template x ++ [.rendered template target]
        store := t } := by
  rw [renderFile, h]
  simp only [Bool.false_eq_true, if_false, hreplace]

theorem renderFile_of_replace_eq_error (h : rendering r s template = .ok x) {now : Int}
    (hreplace : s.replace now target x.text = (t, .error fault)) :
    renderFile r s now false template (some target) =
      { result := .error (.host fault), events := reports template x, store := t } := by
  rw [renderFile, h]
  simp only [Bool.false_eq_true, if_false, hreplace]

end renderFile

/-! ## What a rendering depends on -/

/-- A rendering depends on the directories and on the file of the template. -/
theorem rendering_eq_of_source (h : SameDirectories s t)
    (hsource : ∀ location, s.locate template = .ok location → s.at? location = t.at? location) :
    rendering r s template = rendering r t template := by
  rw [rendering, rendering, templateText_eq, templateText_eq, h.look_eq hsource]

/-- The directory in which a generated file is written, if it is there. -/
def outputDirectory (l : Layout) (s : Store) (template : Path) : Option Path :=
  (s.locate (l.output template).parent).toOption

/-- Two trees are the same to a template: its file, its generated file and all directories. -/
structure AgreeOn (l : Layout) (template : Path) (s t : Store) : Prop where
  directories : SameDirectories s t
  source : ∀ location, s.locate template = .ok location → s.at? location = t.at? location
  output : ∀ location, s.locate (l.output template) = .ok location → s.at? location = t.at? location

namespace AgreeOn

theorem refl (template : Path) (s : Store) : AgreeOn l template s s :=
  ⟨.refl s, fun _ _ => rfl, fun _ _ => rfl⟩

theorem trans {u : Store} (h : AgreeOn l template s t) (h' : AgreeOn l template t u) :
    AgreeOn l template s u where
  directories := h.directories.trans h'.directories
  source := fun location hlocate =>
    (h.source location hlocate).trans
      (h'.source location (h.directories.locate_eq template ▸ hlocate))
  output := fun location hlocate =>
    (h.output location hlocate).trans
      (h'.output location (h.directories.locate_eq (l.output template) ▸ hlocate))

theorem touchAll (h : AgreeOn l template s t) (now : Int) (directories : List Path) :
    AgreeOn l template s (t.touchAll now directories) :=
  ⟨h.directories.touchAll now directories, h.source, h.output⟩

theorem touchAll_left (h : AgreeOn l template s t) (now : Int) (directories : List Path) :
    AgreeOn l template (s.touchAll now directories) t :=
  ⟨⟨h.directories.workingDirectory, h.directories.directory⟩, h.source, h.output⟩

theorem rendering_eq (h : AgreeOn l template s t) (r : Renderer) :
    rendering r s template = rendering r t template :=
  rendering_eq_of_source h.directories h.source

theorem entry?_eq {p : Path} (h : SameDirectories s t)
    (hplace : ∀ location, s.locate p = .ok location → s.at? location = t.at? location) :
    s.entry? p = t.entry? p := by
  rw [ entry?, entry?, ← h.locate_eq]
  cases hlocate : s.locate p with
  | error obstacle => rfl
  | ok location => exact hplace location hlocate

theorem entry?_output (h : AgreeOn l template s t) :
    s.entry? (l.output template) = t.entry? (l.output template) :=
  entry?_eq h.directories h.output

theorem time?_eq {p : Path} (h : SameDirectories s t) (htimes : s.times = t.times)
    (hplace : ∀ location, s.locate p = .ok location → s.at? location = t.at? location) :
    s.time? p = t.time? p := by
  rw [time?, time?, ← h.locate_eq]
  cases hlocate : s.locate p with
  | error obstacle => rfl
  | ok location =>
    change s.timeAt? location = t.timeAt? location
    rw [timeAt?, timeAt?, hplace location hlocate, htimes]

theorem isUpToDate_eq (h : AgreeOn l template s t) (htimes : s.times = t.times) :
    isUpToDate s template (l.output template) = isUpToDate t template (l.output template) := by
  rw [isUpToDate, isUpToDate, time?_eq h.directories htimes h.source,
    time?_eq h.directories htimes h.output]

theorem replacement_eq (h : AgreeOn l template s t) (now : Int) (text : String) :
    s.replacement now (l.output template) text = t.replacement now (l.output template) text :=
  h.directories.replacement_eq h.output now text

theorem outputDirectory_eq (h : AgreeOn l template s t) :
    outputDirectory l s template = outputDirectory l t template := by
  rw [outputDirectory, outputDirectory, h.directories.locate_eq]

/-- A generated file is nothing to the other templates. -/
theorem put_output (h : Places l s base) (hname : IsName name) (hother : IsName other)
    (htemplate : l.isTemplateName name) (htemplate' : l.isTemplateName other) (hne : other ≠ name)
    (hlocate : s.locate (l.output (l.template name)) = .ok location)
    (hplace : s.at? location ≠ some .directory) (file : RegularFile) :
    AgreeOn l (l.template other) s (s.put location (.file file)) where
  directories := sameDirectories_put hplace file
  source := fun _ hsource =>
    (at?_put_of_ne (h.source_ne hname hother hlocate hplace hsource)).symm
  output := fun place houtput => by
    refine (at?_put_of_ne ?_).symm
    rintro rfl
    exact hne (h.template_inj hother hname htemplate' htemplate houtput hlocate hplace)

end AgreeOn

/-- Rendering a template writes one file, to its place, or leaves all files as they are. -/
theorem renderFile_eq {dryRun : Bool} (h : dryRun = true ∨ ∃ base, Places l s base)
    (hname : IsName name) (now : Int) :
    renderFile r s now dryRun (l.template name) (some (l.output (l.template name))) =
      match rendering r s (l.template name) with
      | .error cause => { result := .error cause, store := s }
      | .ok x =>
        let events := reports (l.template name) x
        let output := l.output (l.template name)
        if dryRun then { result := .ok x, events := events ++ [.wouldWrite output], store := s }
        else match s.replacement now output x.text with
        | .error refusal =>
          { result := .error (.host refusal.fault), events
            store :=
              if refusal.isLate then s.touchAll now (outputDirectory l s (l.template name)).toList
              else s }
        | .ok (location, file) =>
          { result := .ok x, events := events ++ [.rendered (l.template name) output]
            store := (s.put location (.file file)).touchAll now
              (outputDirectory l s (l.template name)).toList } := by
  cases hrendering : rendering r s (l.template name) with
  | error cause => exact renderFile_of_error hrendering ..
  | ok x =>
    cases dryRun with
    | true => exact renderFile_dryRun hrendering ..
    | false =>
      obtain ⟨base, hplaces⟩ := h.resolve_left Bool.false_ne_true
      obtain ⟨directory, hparent, hdirectory⟩ := hplaces.exists_directory hname
      have hreplace : s.replace now (l.output (l.template name)) x.text = _ :=
        replace_eq hparent hdirectory
      have hworkplace : outputDirectory l s (l.template name) = some directory := by
        rw [outputDirectory, hparent]
        rfl
      cases hreplacement : s.replacement now (l.output (l.template name)) x.text with
      | error refusal =>
        rw [hreplacement] at hreplace
        rw [renderFile_of_replace_eq_error hrendering hreplace]
        simp only [hreplacement, hworkplace]
        rfl
      | ok change =>
        rw [hreplacement] at hreplace
        rw [renderFile_of_replace_eq_ok hrendering hreplace]
        simp only [hreplacement, hworkplace]
        rfl

theorem isNameable_of_rendering (hname : IsName name)
    (h : rendering r s (l.template name) = .ok x) :
    name.toList.all Text.isNameable := by
  obtain ⟨file, hfile⟩ := exists_file_of_rendering h
  obtain ⟨location, hlocate, -⟩ := regularFile?_eq_some_iff.1 hfile
  have hnameable := (isNameable_of_locate hlocate).all_name
  rwa [Layout.name_template hname] at hnameable

theorem isNameable_name_output (hname : IsName name) (h : name.toList.all Text.isNameable) :
    (l.output (l.template name)).name.toList.all Text.isNameable := by
  rw [Layout.output_template hname]
  split
  · rw [l.generatedDir_eq, Path.name_below_singleton]
    decide
  · rw [Path.name_below_singleton]
    exact Layout.all_outputName h

end Generated

end MachineConfig
