import MachineConfig.Proofs.Generated.Preparation

/-!
What a batch comes to as a whole. Only a rendering that cannot be encoded stops it
(`of_stop?_eq_some`); where all can be, its report counts what it passes over, names what cannot be
rendered or written by itself, and the rest is written (`renderAll_of_isEncodable`).
-/

namespace MachineConfig.Generated

open Store
open Template (Renderer Rendering)

variable {l : Layout} {r : Renderer} {now : Int} {mode : BatchMode} {skip : Path → Bool}
  {s prepared : Store} {template : Path} {name : String} {ts : List Path}

/-- A template fails where it is not passed over and cannot be rendered by itself. -/
def fails (l : Layout) (r : Renderer) (now : Int) (mode : BatchMode) (skip : Path → Bool)
    (s : Store) (template : Path) : Bool :=
  !skip template &&
    !(renderFile r s now mode.dryRun template (some (l.output template))).result.isOk

/-- All that a batch over these templates writes can be encoded. -/
def IsEncodable (r : Renderer) (s : Store) (mode : BatchMode) (ts : List Path) : Prop :=
  mode.dryRun = false → ∀ template ∈ ts, ∀ x, rendering r s template = .ok x →
    Text.isEncodable x.text

instance (r : Renderer) (s : Store) (mode : BatchMode) (ts : List Path) :
    Decidable (IsEncodable r s mode ts) :=
  decidable_of_iff (mode.dryRun = false → ∀ template ∈ ts,
      ((rendering r s template).toOption.all fun x => Text.isEncodable x.text) = true) <| by
    refine imp_congr_right fun _ => forall_congr' fun template => imp_congr_right fun _ => ?_
    cases rendering r s template with
    | error cause => simp [Except.toOption]
    | ok x => simp [Except.toOption]

theorem isSkipped_attempt :
    (attempt l r now mode skip s template).isSkipped = skip template := by
  have hcomes := comesTo_attempt l r now mode skip s template
  generalize attempt l r now mode skip s template = a at hcomes
  cases hcomes with
  | skipped hskip
  | unrendered hskip
  | shown hskip
  | written hskip
  | unwritten hskip
  | stopped hskip => exact hskip.symm

theorem isFailed_attempt (hplaces : mode.dryRun = true ∨ ∃ base, Places l s base)
    (hname : IsName name) (hstop : (attempt l r now mode skip s (l.template name)).stop? = none) :
    (attempt l r now mode skip s (l.template name)).isFailed =
      fails l r now mode skip s (l.template name) := by
  rw [fails, renderFile_eq hplaces hname]
  have hcomes := comesTo_attempt l r now mode skip s (l.template name)
  generalize attempt l r now mode skip s (l.template name) = a at hstop hcomes ⊢
  cases hcomes with
  | skipped hskip =>
    rw [hskip]
    rfl
  | unrendered hskip hrendering =>
    rw [hskip, hrendering]
    rfl
  | shown hskip hrendering hdry =>
    simp only [hskip, hrendering, hdry]
    rfl
  | written hskip hrendering hdry hreplacement
  | unwritten hskip hrendering hdry hreplacement =>
    simp only [hskip, hrendering, hdry, hreplacement]
    rfl
  | stopped => cases hstop

/-- All that can stop a batch is a rendering that cannot be encoded. -/
theorem of_stop?_eq_some {cause : Failure} (hplaces : mode.dryRun = true ∨ ∃ base, Places l s base)
    (hname : IsName name)
    (hstop : (attempt l r now mode skip s (l.template name)).stop? = some cause) :
    cause = .host .unencodable ∧ mode.dryRun = false ∧
      ∃ x, rendering r s (l.template name) = .ok x ∧ Text.isEncodable x.text = false := by
  have hcomes := comesTo_attempt l r now mode skip s (l.template name)
  generalize attempt l r now mode skip s (l.template name) = a at hstop hcomes
  cases hcomes with
  | skipped | unrendered | shown | written | unwritten => cases hstop
  | stopped hskip hrendering hdry hreplacement hisolated =>
    obtain rfl := Option.some.inj hstop
    obtain ⟨base, hplaces⟩ := hplaces.resolve_left (by simp [hdry])
    have hparent := hplaces.locate_parent_output hname
    have hnameable :=
      isNameable_name_output (l := l) hname (isNameable_of_rendering hname hrendering)
    rcases of_replacement_eq_error hparent hnameable hreplacement with hfault | ⟨hfault, hbad⟩
    · rw [hfault] at hisolated
      cases hisolated
    · exact ⟨by rw [hfault], hdry, _, hrendering, hbad⟩

/-- Nothing stops at a template whose rendering can be encoded. -/
theorem stop?_attempt (hplaces : mode.dryRun = true ∨ ∃ base, Places l s base)
    (hname : IsName name)
    (hencodable : mode.dryRun = false → ∀ x, rendering r s (l.template name) = .ok x →
      Text.isEncodable x.text) :
    (attempt l r now mode skip s (l.template name)).stop? = none := by
  cases hstop : (attempt l r now mode skip s (l.template name)).stop? with
  | none => rfl
  | some cause =>
    obtain ⟨-, hdry, x, hrendering, hbad⟩ := of_stop?_eq_some hplaces hname hstop
    rw [hencodable hdry x hrendering] at hbad
    cases hbad

/-- A batch whose renderings can be encoded comes to its end. -/
theorem stop?_attempt_of_mem (hplaces : mode.dryRun = true ∨ ∃ base, Places l s base)
    (hlisted : Listed l ts) (hencodable : IsEncodable r s mode ts) (now : Int)
    (skip : Path → Bool) :
    ∀ template ∈ ts, (attempt l r now mode skip s template).stop? = none := by
  intro template htemplate
  obtain ⟨name, hname, -, rfl⟩ := hlisted.template template htemplate
  exact stop?_attempt hplaces hname fun hdry => hencodable hdry _ htemplate

/-- Every template is rendered, passed over or failed. -/
theorem length_eq_countP
    (hall : ∀ template ∈ ts, (attempt l r now mode skip s template).stop? = none) :
    ts.length = (ts.countP fun template => (attempt l r now mode skip s template).isRendered) +
      (ts.countP fun template => (attempt l r now mode skip s template).isSkipped) +
      (ts.countP fun template => (attempt l r now mode skip s template).isFailed) := by
  induction ts with
  | nil => rfl
  | cons template rest ih =>
    rw [List.forall_mem_cons] at hall
    have hone : ∀ a : Attempt, a.stop? = none → (if a.isRendered then 1 else 0) +
        (if a.isSkipped then 1 else 0) + (if a.isFailed then 1 else 0) = 1 := by
      intro a ha
      cases a with
      | stopped => cases ha
      | _ => rfl
    have hfirst := hone _ hall.1
    have hrest := ih hall.2
    simp only [List.countP_cons, List.length_cons]
    omega

theorem filter_isFailed (hplaces : mode.dryRun = true ∨ ∃ base, Places l s base)
    (hlisted : Listed l ts)
    (hall : ∀ template ∈ ts, (attempt l r now mode skip s template).stop? = none) :
    (ts.filter fun template => (attempt l r now mode skip s template).isFailed) =
      ts.filter (fails l r now mode skip s) := by
  refine List.filter_congr fun template htemplate => ?_
  obtain ⟨name, hname, -, rfl⟩ := hlisted.template template htemplate
  exact isFailed_attempt hplaces hname (hall _ htemplate)

/-- The whole of a batch whose renderings can be encoded. -/
theorem renderAll_of_isEncodable (hs : s.IsTree)
    (hprepare : prepare l now mode s = (prepared, .ok ()))
    (hlist : templates l prepared = .ok ts) (hskip : Decides l r now mode prepared ts skip)
    (hencodable : IsEncodable r prepared mode ts) :
    renderAll l r s now mode =
      { result := .ok
          { rendered := ts.countP fun template =>
              (attempt l r now mode skip prepared template).isRendered
            skipped := ts.countP skip
            failures := (ts.filter (fails l r now mode skip prepared)).map Path.name }
        events := ts.flatMap fun template => (attempt l r now mode skip prepared template).told
        store := (putFiles prepared (changesOf l r now mode skip prepared ts)).touchAll now
          (touchedBy l r now mode skip prepared ts) } := by
  have hplaces := places_of_prepare hprepare
  have hlisted := listed_templates (isTree_of_prepare hs hprepare) hlist
  have hall := stop?_attempt_of_mem hplaces hlisted hencodable now skip
  rw [renderAll_of_prepare hprepare hlist, renderEach_eq hplaces hlisted hskip hall]
  simp only [isSkipped_attempt, filter_isFailed hplaces hlisted hall]
  rfl

theorem fails_of_rendering {cause : Failure}
    (hplaces : mode.dryRun = true ∨ ∃ base, Places l s base) (hname : IsName name)
    (hskip : skip (l.template name) = false)
    (h : rendering r s (l.template name) = .error cause) :
    fails l r now mode skip s (l.template name) = true := by
  rw [fails, hskip, renderFile_eq hplaces hname, h]
  rfl

/-- What a batch with force comes to for a template that can be read: its rendering is written, or
the template fails because nothing can be put in the place of its generated file. -/
theorem written_or_fails {x : Rendering} (hs : s.IsTree)
    (hprepare : prepare l now { force := true } s = (prepared, .ok ()))
    (hlist : templates l prepared = .ok ts)
    (hskip : Decides l r now { force := true } prepared ts skip)
    (hencodable : IsEncodable r prepared { force := true } ts) (htemplate : template ∈ ts)
    (hrendering : rendering r prepared template = .ok x) (hpassed : skip template = false) :
    (fails l r now { force := true } skip prepared template = false ∧ ∃ file,
      (renderAll l r s now { force := true }).store.regularFile? (l.output template) = some file ∧
        file.content = Text.utf8 x.text) ∨
    fails l r now { force := true } skip prepared template = true ∧
      ∃ refusal, prepared.replacement now (l.output template) x.text = .error refusal := by
  have hplaces := places_of_prepare hprepare
  have hlisted := listed_templates (isTree_of_prepare hs hprepare) hlist
  have hstop := stop?_attempt_of_mem hplaces hlisted hencodable now skip
  obtain ⟨name, hname, -, rfl⟩ := hlisted.template template htemplate
  cases hfails : fails l r now { force := true } skip prepared (l.template name) with
  | true =>
    refine .inr ⟨rfl, ?_⟩
    rw [fails, renderFile_eq hplaces hname, hrendering] at hfails
    cases hreplacement : prepared.replacement now (l.output (l.template name)) x.text with
    | error refusal => exact ⟨refusal, rfl⟩
    | ok change => simp [hreplacement, Except.isOk, Except.toBool] at hfails
  | false =>
    rw [← isFailed_attempt hplaces hname (hstop _ htemplate)] at hfails
    obtain ⟨location, file, hchange⟩ := exists_change? hpassed rfl hfails (hstop _ htemplate)
    obtain ⟨-, y, hy, hreplacement⟩ := exists_of_change? hchange
    obtain rfl : x = y := Except.ok.inj (hrendering.symm.trans hy)
    obtain ⟨-, -, -, -, hfile⟩ := of_replacement_eq_ok hreplacement
    refine .inl ⟨rfl, file, ?_, by rw [hfile]⟩
    rw [renderAll_of_isEncodable hs hprepare hlist hskip hencodable]
    exact regularFile?_of_change? hplaces hlisted htemplate hchange

/-- What is known of a batch from its having come to its end. -/
theorem of_renderAll_eq_ok {report : BatchReport} (hs : s.IsTree)
    (h : (renderAll l r s now mode).result = .ok report) :
    ∃ prepared ts skip, prepare l now mode s = (prepared, .ok ()) ∧
      templates l prepared = .ok ts ∧ Listed l ts ∧ Decides l r now mode prepared ts skip ∧
      (∀ template ∈ ts, (attempt l r now mode skip prepared template).stop? = none) ∧
      report.failures =
        (ts.filter fun p => (attempt l r now mode skip prepared p).isFailed).map Path.name ∧
      (renderAll l r s now mode).store =
        (putFiles prepared (changesOf l r now mode skip prepared ts)).touchAll now
          (touchedBy l r now mode skip prepared ts) := by
  rw [renderAll_eq] at h ⊢
  rcases hprepare : prepare l now mode s with ⟨prepared, fault | _⟩
  · simp [hprepare] at h
  · simp only [hprepare] at h ⊢
    cases hlist : templates l prepared with
    | error fault => simp [hlist] at h
    | ok ts =>
      simp only [hlist, Batch.outcome] at h ⊢
      have hplaces := places_of_prepare hprepare
      have hlisted := listed_templates (isTree_of_prepare hs hprepare) hlist
      have hskip := @decides_passesOver l r now mode prepared ts
      generalize passesOver l r now mode prepared ts = skip at hskip
      rw [stop_renderEach hplaces hlisted hskip] at h
      have hall : ∀ template ∈ ts, (attempt l r now mode skip prepared template).stop? = none := by
        rw [← List.findSome?_eq_none_iff]
        cases hfind : ts.findSome? fun p => (attempt l r now mode skip prepared p).stop? with
        | none => rfl
        | some cause => simp [hfind] at h
      rw [List.findSome?_eq_none_iff.2 hall, renderEach_eq hplaces hlisted hskip hall] at h
      rw [renderEach_eq hplaces hlisted hskip hall]
      obtain rfl := Except.ok.inj h
      exact ⟨prepared, ts, skip, rfl, hlist, hlisted, hskip, hall, rfl, rfl⟩

end MachineConfig.Generated
