import MachineConfig.Proofs.Generated.Preparation
import MachineConfig.Proofs.Store.FootprintLemmas

/-!
Which files rendering changes: those that the outputs of its templates lead to (`IsOutput`), whether
or not anything fails. A dry run, and rendering without an output, leaves the tree as it is.
-/

namespace MachineConfig.Generated

open Store Template

variable {l : Layout} {r : Renderer} {s t u : Store} {now : Int} {mode : BatchMode}
  {template location : Path} {among wider : Store → Path → Prop} {ts : List Path}

/-- The place of the generated file of one of these templates. -/
def IsOutput (l : Layout) (among : Store → Path → Prop) (s : Store) (location : Path) : Prop :=
  ∃ template, among s template ∧ (s.regularFile? template).isSome ∧
    LeadsTo (l.output template) s location

theorem IsOutput.mono (h : IsOutput l among s location)
    (hwider : ∀ template, among s template → wider s template) : IsOutput l wider s location := by
  obtain ⟨template, hamong, hfile, hleads⟩ := h
  exact ⟨template, hwider template hamong, hfile, hleads⟩

theorem stable_isOutput (l : Layout) (hamong : Stable among) : Stable (IsOutput l among) := by
  constructor
  rintro touched s t location hwrites ⟨template, htemplate, hfile, hleads⟩
  exact ⟨template, hamong.place hwrites htemplate, hwrites.regularFile? hfile,
    (stable_leadsTo _).place hwrites hleads⟩

/-- Rendering a template leaves the tree as it is or replaces the output. -/
theorem store_renderFile (r : Renderer) (s : Store) (now : Int) (dryRun : Bool) (template : Path)
    (output : Option Path) : (renderFile r s now dryRun template output).store = s ∨
      ∃ x target, rendering r s template = .ok x ∧ output = some target ∧ dryRun = false ∧
        (renderFile r s now dryRun template output).store = (s.replace now target x.text).1 := by
  cases hrendering : rendering r s template with
  | error cause => exact .inl (by rw [renderFile_of_error hrendering])
  | ok x =>
    cases output with
    | none => exact .inl (by rw [renderFile_none hrendering])
    | some target =>
      cases dryRun with
      | true => exact .inl (by rw [renderFile_dryRun hrendering])
      | false =>
        refine .inr ⟨x, target, rfl, rfl, rfl, ?_⟩
        rcases hreplace : s.replace now target x.text with ⟨t, fault | _⟩
        · rw [renderFile_of_replace_eq_error hrendering hreplace]
        · rw [renderFile_of_replace_eq_ok hrendering hreplace]

theorem store_renderFile_of_print (r : Renderer) (s : Store) (now : Int) (dryRun : Bool)
    (template : Path) : (renderFile r s now dryRun template none).store = s :=
  (store_renderFile r s now dryRun template none).resolve_right (by simp)

theorem store_renderFile_of_dryRun (r : Renderer) (s : Store) (now : Int) (template : Path)
    (output : Option Path) : (renderFile r s now true template output).store = s :=
  (store_renderFile r s now true template output).resolve_right (by simp)

theorem renderFile_writes (l : Layout) (r : Renderer) (s : Store) (now : Int) (dryRun : Bool)
    (template : Path) : Writes (IsOutput l fun _ => (· = template)) s
      (renderFile r s now dryRun template (some (l.output template))).store := by
  rcases store_renderFile r s now dryRun template (some (l.output template)) with
    hsame | ⟨x, target, hrendering, htarget, -, hreplace⟩
  · rw [hsame]
    exact .refl _ s
  · obtain rfl := Option.some.inj htarget
    rw [hreplace]
    have hwrites := replace_writes s now (l.output template) x.text
    have hfile := Option.isSome_iff_exists.2 (exists_file_of_rendering hrendering)
    exact hwrites.mono fun _ hleads => ⟨template, rfl, hwrites.regularFile? hfile, hleads⟩

/-! ## All templates -/

theorem store_step (l : Layout) (r : Renderer) (now : Int) (mode : BatchMode) (b : Batch)
    (template : Path) : (b.step l r now mode template).store = b.store ∨
      (b.step l r now mode template).store =
        (renderFile r b.store now mode.dryRun template (some (l.output template))).store := by
  simp only [Batch.step]
  split
  · exact .inl rfl
  split
  · exact .inl rfl
  split
  · exact .inr rfl
  · split <;> exact .inr rfl

theorem store_step_of_dryRun (l : Layout) (r : Renderer) (now : Int) (force : Bool) (b : Batch)
    (template : Path) : (b.step l r now ⟨true, force⟩ template).store = b.store :=
  (store_step l r now ⟨true, force⟩ b template).elim id fun hrender =>
    hrender.trans (store_renderFile_of_dryRun ..)

theorem step_writes (l : Layout) (r : Renderer) (now : Int) (mode : BatchMode) (b : Batch)
    (template : Path) :
    Writes (IsOutput l fun _ => (· = template)) b.store (b.step l r now mode template).store := by
  rcases store_step l r now mode b template with hsame | hrender
  · rw [hsame]
    exact .refl _ b.store
  · rw [hrender]
    exact renderFile_writes l r b.store now mode.dryRun template

theorem foldl_step_writes (l : Layout) (r : Renderer) (now : Int) (mode : BatchMode) (b : Batch)
    (ts : List Path) : Writes (IsOutput l fun _ => (· ∈ ts)) b.store
      (ts.foldl (Batch.step l r now mode) b).store := by
  induction ts generalizing b with
  | nil => exact .refl _ b.store
  | cons template ts ih =>
    have hstable : Stable (IsOutput l fun _ => (· ∈ template :: ts)) :=
      stable_isOutput l ⟨fun _ => id⟩
    exact .trans hstable
      ((step_writes l r now mode b template).mono fun _ houtput =>
        houtput.mono fun _ heq => heq ▸ List.mem_cons_self)
      ((ih _).mono fun _ houtput => houtput.mono fun _ => List.mem_cons_of_mem _)

theorem foldl_step_of_dryRun (l : Layout) (r : Renderer) (now : Int) (force : Bool) (b : Batch)
    (ts : List Path) : (ts.foldl (Batch.step l r now ⟨true, force⟩) b).store = b.store := by
  induction ts generalizing b with
  | nil => rfl
  | cons template ts ih => rw [List.foldl_cons, ih, store_step_of_dryRun]

/-- A template that is listed. -/
def IsListed (l : Layout) (s : Store) (template : Path) : Prop :=
  ∃ ts, templates l s = .ok ts ∧ template ∈ ts

/-- What is listed stays listed. -/
theorem stable_isListed (l : Layout) : Stable (IsListed l) := by
  constructor
  rintro touched s t template hwrites ⟨ts, hlist, hmem⟩
  obtain ⟨name, directory, file, htemplate, rfl, hlocate, hdirectory, hfile⟩ :=
    (mem_templates hlist).1 hmem
  have hlocate' := hwrites.directories.locate_eq hlocate
  have hdirectory' := hwrites.directories.directory hdirectory
  have hlist' := templates_of_directory hlocate' hdirectory'
  have hstill := hwrites.file (Option.isSome_iff_exists.2 ⟨file, fileAt?_eq_some_iff.2 hfile⟩)
  obtain ⟨newer, hnewer⟩ := Option.isSome_iff_exists.1 hstill
  exact ⟨_, hlist', (mem_templates hlist').2 ⟨name, directory, newer, htemplate, rfl, hlocate',
    hdirectory', fileAt?_eq_some_iff.1 hnewer⟩⟩

theorem store_renderAll_of_dryRun (l : Layout) (r : Renderer) (s : Store) (now : Int)
    (force : Bool) : (renderAll l r s now ⟨true, force⟩).store = s := by
  rw [renderAll_eq]
  simp only [prepare, if_true]
  split
  · rfl
  · exact foldl_step_of_dryRun ..

theorem renderAll_writes (l : Layout) (r : Renderer) (s : Store) (now : Int) (mode : BatchMode) :
    Writes (IsOutput l (IsListed l)) s (renderAll l r s now mode).store := by
  have hextends : Extends s (prepare l now mode s).1 := by
    rw [prepare]
    split
    · exact .refl s
    · exact makeDirectories_extends s now l.generatedDir
  rw [renderAll_eq]
  rcases hprepare : prepare l now mode s with ⟨prepared, fault | _⟩
  all_goals rw [hprepare] at hextends
  · exact hextends.writes _
  dsimp only
  cases hlist : templates l prepared with
  | error fault => exact hextends.writes _
  | ok ts =>
    have hbatch := foldl_step_writes l r now mode { store := prepared } ts
    exact (hextends.writesOnly _).trans <| hbatch.mono fun _ houtput =>
      houtput.mono fun _ hmem => (stable_isListed l).place hbatch ⟨ts, hlist, hmem⟩

end MachineConfig.Generated
