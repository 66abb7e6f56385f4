import MachineConfig.Generated.Batch
import MachineConfig.Proofs.Generated.RenderingLemmas

/-!
What becomes of one template in a batch. `attempt` tells that for a tree and for whether the
template is passed over (`ComesTo` is what it can be, and when), and no template is touched by what
is written for another (`agreeOn_of_change`).
-/

namespace MachineConfig.Generated

open Store
open Template (Renderer Rendering)

/-- What becomes of one template in a batch, with what is told of it and the directory that has been
written in. -/
inductive Attempt where
  | skipped
  | rendered (told : List Event) (change : Option (Path × RegularFile)) (touched : Option Path)
  | failed (told : List Event) (touched : Option Path)
  | stopped (told : List Event) (cause : Failure) (touched : Option Path)

namespace Attempt

def isSkipped : Attempt → Bool
  | skipped => true
  | _ => false

def isRendered : Attempt → Bool
  | rendered .. => true
  | _ => false

def isFailed : Attempt → Bool
  | failed .. => true
  | _ => false

/-- What stops the batch. -/
def stop? : Attempt → Option Failure
  | stopped _ cause _ => some cause
  | _ => none

/-- The place that is written to, and the file that is put there. -/
def change? : Attempt → Option (Path × RegularFile)
  | rendered _ change _ => change
  | _ => none

/-- The directory that is written in. -/
def touched? : Attempt → Option Path
  | skipped => none
  | rendered _ _ touched | failed _ touched | stopped _ _ touched => touched

def told : Attempt → List Event
  | skipped => []
  | rendered told _ _ | failed told _ | stopped told _ _ => told

end Attempt

variable {l : Layout} {r : Renderer} {now : Int} {mode : BatchMode} {skip skip' : Path → Bool}
  {s t : Store} {base location template other p : Path} {name : String} {file : RegularFile}
  {ts : List Path}

/-- A template is passed over because its generated file is newer. -/
def skips (l : Layout) (mode : BatchMode) (s : Store) (template : Path) : Bool :=
  !mode.force && isUpToDate s template (l.output template)

/-- The attempt to render one template, whatever the others. -/
def attempt (l : Layout) (r : Renderer) (now : Int) (mode : BatchMode) (skip : Path → Bool)
    (s : Store) (template : Path) : Attempt :=
  let output := l.output template
  let directory := outputDirectory l s template
  if skip template then .skipped
  else match rendering r s template with
  | .error cause => .failed [.renderFailed template cause] none
  | .ok x =>
    let told := reports template x
    if mode.dryRun then .rendered (told ++ [.wouldWrite output]) none none
    else match s.replacement now output x.text with
    | .ok change => .rendered (told ++ [.rendered template output]) (some change) directory
    | .error refusal =>
      let touched := if refusal.isLate then directory else none
      if (Failure.host refusal.fault).isIsolated then
        .failed (told ++ [.renderFailed template (.host refusal.fault)]) touched
      else .stopped told (.host refusal.fault) touched

/-- What an attempt at a template can come to, and when. -/
inductive ComesTo (l : Layout) (r : Renderer) (now : Int) (mode : BatchMode) (skip : Path → Bool)
    (s : Store) (template : Path) : Attempt → Prop where
  | skipped (hskip : skip template = true) : ComesTo l r now mode skip s template .skipped
  | unrendered {cause : Failure} (hskip : skip template = false)
      (hrendering : rendering r s template = .error cause) :
      ComesTo l r now mode skip s template (.failed [.renderFailed template cause] none)
  | shown {x : Rendering} (hskip : skip template = false)
      (hrendering : rendering r s template = .ok x) (hdry : mode.dryRun = true) :
      ComesTo l r now mode skip s template
        (.rendered (reports template x ++ [.wouldWrite (l.output template)]) none none)
  | written {x : Rendering} {change : Path × RegularFile} (hskip : skip template = false)
      (hrendering : rendering r s template = .ok x) (hdry : mode.dryRun = false)
      (hreplacement : s.replacement now (l.output template) x.text = .ok change) :
      ComesTo l r now mode skip s template
        (.rendered (reports template x ++ [.rendered template (l.output template)]) (some change)
          (outputDirectory l s template))
  | unwritten {x : Rendering} {refusal : Refusal} (hskip : skip template = false)
      (hrendering : rendering r s template = .ok x) (hdry : mode.dryRun = false)
      (hreplacement : s.replacement now (l.output template) x.text = .error refusal)
      (hisolated : (Failure.host refusal.fault).isIsolated = true) :
      ComesTo l r now mode skip s template
        (.failed (reports template x ++ [.renderFailed template (.host refusal.fault)])
          (if refusal.isLate then outputDirectory l s template else none))
  | stopped {x : Rendering} {refusal : Refusal} (hskip : skip template = false)
      (hrendering : rendering r s template = .ok x) (hdry : mode.dryRun = false)
      (hreplacement : s.replacement now (l.output template) x.text = .error refusal)
      (hisolated : (Failure.host refusal.fault).isIsolated = false) :
      ComesTo l r now mode skip s template
        (.stopped (reports template x) (.host refusal.fault)
          (if refusal.isLate then outputDirectory l s template else none))

theorem comesTo_attempt (l : Layout) (r : Renderer) (now : Int) (mode : BatchMode)
    (skip : Path → Bool) (s : Store) (template : Path) :
    ComesTo l r now mode skip s template (attempt l r now mode skip s template) := by
  rw [attempt]
  split
  · next hskip => exact .skipped hskip
  next hskip =>
  rw [Bool.not_eq_true] at hskip
  split
  · next hrendering => exact .unrendered hskip hrendering
  next hrendering =>
  dsimp only
  split
  · next hdry => exact .shown hskip hrendering hdry
  next hdry =>
  rw [Bool.not_eq_true] at hdry
  split
  · next hreplacement => exact .written hskip hrendering hdry hreplacement
  next hreplacement =>
  split
  · next hisolated => exact .unwritten hskip hrendering hdry hreplacement hisolated
  · next hisolated =>
    exact .stopped hskip hrendering hdry hreplacement (Bool.eq_false_iff.2 hisolated)

theorem attempt_of_skip (hskip : skip template = true) :
    attempt l r now mode skip s template = .skipped := by
  rw [attempt, if_pos hskip]

theorem AgreeOn.attempt_eq (h : AgreeOn l template s t) (hskip : skip template = skip' template) :
    attempt l r now mode skip s template = attempt l r now mode skip' t template := by
  simp only [attempt, hskip, h.rendering_eq, h.replacement_eq, h.outputDirectory_eq]

theorem attempt_congr (hskip : skip template = skip' template) :
    attempt l r now mode skip s template = attempt l r now mode skip' s template :=
  (AgreeOn.refl template s).attempt_eq hskip

/-- The tree with these files put in their places. -/
def putFiles (s : Store) (changes : List (Path × RegularFile)) : Store :=
  changes.foldl (fun s change => s.put change.1 (.file change.2)) s

/-! ## What one attempt writes -/

/-- What is written is the rendering, in the place of the generated file. -/
theorem exists_of_change?
    (h : (attempt l r now mode skip s template).change? = some (location, file)) :
    mode.dryRun = false ∧ ∃ x, rendering r s template = .ok x ∧
      s.replacement now (l.output template) x.text = .ok (location, file) := by
  have hcomes := comesTo_attempt l r now mode skip s template
  generalize attempt l r now mode skip s template = a at h hcomes
  cases hcomes with
  | written hskip hrendering hdry hreplacement =>
    obtain rfl := Option.some.inj h
    exact ⟨hdry, _, hrendering, hreplacement⟩
  | _ => cases h

/-- A file that is written lies where its template says, and not in the place of a directory. -/
theorem locate_of_change?
    (h : (attempt l r now mode skip s template).change? = some (location, file)) :
    s.locate (l.output template) = .ok location ∧ s.at? location ≠ some .directory := by
  obtain ⟨-, x, -, hreplacement⟩ := exists_of_change? h
  obtain ⟨hlocate, hplace, -⟩ := of_replacement_eq_ok hreplacement
  exact ⟨hlocate, hplace⟩

/-- A template that is not passed over is rendered, or fails, or stops the batch. -/
theorem exists_change? (hskip : skip template = false) (hdry : mode.dryRun = false)
    (hfailed : (attempt l r now mode skip s template).isFailed = false)
    (hstop : (attempt l r now mode skip s template).stop? = none) :
    ∃ location file, (attempt l r now mode skip s template).change? = some (location, file) := by
  have hcomes := comesTo_attempt l r now mode skip s template
  generalize attempt l r now mode skip s template = a at hfailed hstop hcomes ⊢
  cases hcomes with
  | skipped hskipped => exact absurd (hskip.symm.trans hskipped) Bool.false_ne_true
  | unrendered => cases hfailed
  | shown _ _ hshown => exact absurd (hdry.symm.trans hshown) Bool.false_ne_true
  | @written _ change => exact ⟨change.1, change.2, rfl⟩
  | unwritten => cases hfailed
  | stopped => cases hstop

/-- What is written for one template is nothing to the others. -/
theorem agreeOn_of_change (hplaces : mode.dryRun = true ∨ ∃ base, Places l s base)
    (hlisted : Listed l (template :: ts)) (hother : other ∈ ts) :
    AgreeOn l other s (putFiles s (attempt l r now mode skip s template).change?.toList) := by
  cases hchange : (attempt l r now mode skip s template).change? with
  | none => exact .refl other s
  | some change =>
    obtain ⟨location, file⟩ := change
    obtain ⟨hdry, -⟩ := exists_of_change? hchange
    obtain ⟨base, hplaces⟩ := hplaces.resolve_left (by simp [hdry])
    obtain ⟨name, hname, htemplate, rfl⟩ := hlisted.template template (List.mem_cons_self ..)
    obtain ⟨otherName, hotherName, htemplate', rfl⟩ :=
      hlisted.template other (List.mem_cons_of_mem _ hother)
    obtain ⟨hlocate, hplace⟩ := locate_of_change? hchange
    refine AgreeOn.put_output hplaces hname hotherName htemplate htemplate' ?_ hlocate hplace file
    rintro rfl
    exact (List.nodup_cons.1 hlisted.nodup).1 hother

theorem sameDirectories_of_change (s : Store) (template : Path) :
    SameDirectories s (putFiles s (attempt l r now mode skip s template).change?.toList) := by
  cases hchange : (attempt l r now mode skip s template).change? with
  | none => exact .refl s
  | some change => exact sameDirectories_put (locate_of_change? hchange).2 change.2

/-! ## Directories that are written in -/

/-- The directories that a batch writes in: that of the generated files, and the root directory. -/
def IsWorkplace (l : Layout) (s : Store) (directory : Path) : Prop :=
  s.locate l.root = .ok directory ∨ s.locate l.generatedDir = .ok directory

theorem IsWorkplace.of_sameDirectories (h : IsWorkplace l s location)
    (hsame : SameDirectories s t) :
    IsWorkplace l t location := by
  rwa [IsWorkplace, ← hsame.locate_eq, ← hsame.locate_eq]

theorem isWorkplace_of_touched? (hplaces : mode.dryRun = true ∨ ∃ base, Places l s base)
    (hname : IsName name)
    (h : (attempt l r now mode skip s (l.template name)).touched? = some location) :
    mode.dryRun = false ∧ IsWorkplace l s location := by
  have hdirectory (hdry : mode.dryRun = false)
      (hd : outputDirectory l s (l.template name) = some location) :
      mode.dryRun = false ∧ IsWorkplace l s location := by
    obtain ⟨base, hbase⟩ := hplaces.resolve_left (by simp [hdry])
    refine ⟨hdry, ?_⟩
    rw [outputDirectory, hbase.locate_parent_output hname] at hd
    obtain rfl := Option.some.inj hd
    split
    · exact .inl hbase.locate_root
    · exact .inr hbase.locate_generatedDir
  have hcomes := comesTo_attempt l r now mode skip s (l.template name)
  generalize attempt l r now mode skip s (l.template name) = a at h hcomes
  cases hcomes with
  | skipped => cases h
  | unrendered => cases h
  | shown => cases h
  | written _ _ hdry => exact hdirectory hdry h
  | unwritten _ _ hdry
  | stopped _ _ hdry =>
    obtain ⟨-, hd⟩ := Option.ite_none_right_eq_some.1 h
    exact hdirectory hdry hd

end MachineConfig.Generated
