import MachineConfig.Proofs.Generated.Isolation

/-!
The order of the templates is nothing to a steady batch. What becomes of a template can be told from
the tree that the batch starts with, and two templates never write the same place; so the tree after
the batch and the counts are the same in every order (`renderAll_perm`). Whether a batch is stopped
does not depend on the order either, but what it has written by then does
(`renderEach_halves_order`); and a template whose output falls on the directory of generated files
is passed over after what has been written there, and not before (`renderEach_unsteady_order`).
-/

namespace MachineConfig.Generated

open Store
open Template (Renderer)

variable {l : Layout} {r : Renderer} {now : Int} {mode : BatchMode} {skip : Path → Bool}
  {s prepared : Store} {template : Path} {ts order : List Path} {cause : Failure}

theorem Listed.perm (h : Listed l ts) (hperm : order.Perm ts) : Listed l order where
  template p hp := h.template p (hperm.mem_iff.1 hp)
  nodup := hperm.nodup_iff.2 h.nodup

theorem IsSteady.perm (h : IsSteady l now mode s ts) (hperm : order.Perm ts) :
    IsSteady l now mode s order :=
  fun p hp => h p (hperm.mem_iff.1 hp)

theorem changesOf_perm (hperm : order.Perm ts) :
    (changesOf l r now mode skip s order).Perm (changesOf l r now mode skip s ts) :=
  hperm.filterMap _

theorem touchedBy_perm (hperm : order.Perm ts) :
    (touchedBy l r now mode skip s order).Perm (touchedBy l r now mode skip s ts) :=
  hperm.filterMap _

/-- Files that are written in another order come to the same tree. -/
theorem at?_changesOf_perm (hplaces : mode.dryRun = true ∨ ∃ base, Places l s base)
    (hlisted : Listed l ts) (hperm : order.Perm ts) (location : Path) :
    (putFiles s (changesOf l r now mode skip s order)).at? location =
      (putFiles s (changesOf l r now mode skip s ts)).at? location := by
  by_cases hwritten : ∃ change ∈ changesOf l r now mode skip s ts, change.1 = location
  · obtain ⟨⟨_, file⟩, hmem, rfl⟩ := hwritten
    obtain ⟨template, htemplate, hchange⟩ := mem_changesOf.1 hmem
    rw [at?_of_change? hplaces hlisted htemplate hchange,
      at?_of_change? hplaces (hlisted.perm hperm) (hperm.mem_iff.2 htemplate) hchange]
  · have hne : ∀ change ∈ changesOf l r now mode skip s ts, location ≠ change.1 :=
      fun change hchange heq => hwritten ⟨change, hchange, heq.symm⟩
    rw [at?_putFiles_of_forall_ne hne, at?_putFiles_of_forall_ne fun change hchange =>
      hne change ((changesOf_perm hperm).mem_iff.1 hchange)]

/-- Directories that are written in come to the same times in every order. -/
theorem timeAt?_touchAll_perm {t : Store} {directories others : List Path} {location : Path}
    (hplace : s.at? location = t.at? location) (htimes : s.times = t.times)
    (hperm : directories.Perm others) (now : Int) :
    (s.touchAll now directories).timeAt? location = (t.touchAll now others).timeAt? location := by
  simp only [timeAt?, at?_touchAll, getD_times_touchAll, hplace, htimes, hperm.mem_iff]

theorem workingDirectory_putFiles (s : Store) (changes : List (Path × RegularFile)) :
    (putFiles s changes).workingDirectory = s.workingDirectory := by
  induction changes generalizing s with
  | nil => rfl
  | cons change changes ih => exact ih _

/-- Only a rendering that cannot be encoded stops a batch. -/
theorem eq_unencodable_of_stop? (hplaces : mode.dryRun = true ∨ ∃ base, Places l s base)
    (hlisted : Listed l ts) (htemplate : template ∈ ts)
    (hstop : (attempt l r now mode skip s template).stop? = some cause) :
    cause = .host .unencodable := by
  obtain ⟨name, hname, -, rfl⟩ := hlisted.template template htemplate
  exact (of_stop?_eq_some hplaces hname hstop).1

/-- What stops a steady batch, if anything does, stops it in every order. -/
theorem stop_renderEach_perm (hplaces : mode.dryRun = true ∨ ∃ base, Places l s base)
    (hlisted : Listed l ts) (hsteady : IsSteady l now mode s ts) (hperm : order.Perm ts) :
    (renderEach l r now mode s order).stop = (renderEach l r now mode s ts).stop := by
  have hlisted' := hlisted.perm hperm
  rw [stop_renderEach hplaces hlisted (decides_of_isSteady hplaces hsteady hlisted r),
    stop_renderEach hplaces hlisted' (decides_of_isSteady hplaces (hsteady.perm hperm) hlisted' r)]
  generalize skips l mode s = skip
  cases hfind : ts.findSome? fun p => (attempt l r now mode skip s p).stop? with
  | none =>
    rw [List.findSome?_eq_none_iff] at hfind ⊢
    exact fun p hp => hfind p (hperm.mem_iff.1 hp)
  | some cause =>
    obtain ⟨p, hp, hstop⟩ := List.exists_of_findSome?_eq_some hfind
    cases hother : order.findSome? fun p => (attempt l r now mode skip s p).stop? with
    | none =>
      have hnone := List.findSome?_eq_none_iff.1 hother p (hperm.mem_iff.2 hp)
      rw [hstop] at hnone
      cases hnone
    | some other =>
      obtain ⟨q, hq, hstop'⟩ := List.exists_of_findSome?_eq_some hother
      rw [eq_unencodable_of_stop? hplaces hlisted hp hstop,
        eq_unencodable_of_stop? hplaces hlisted (hperm.mem_iff.1 hq) hstop']

/-- A steady batch over its templates in another order is stopped by the same, if anything stops it;
where all renderings can be encoded, it counts the same, names the same failures and comes to the
same tree, with the same times. -/
theorem renderAll_perm (hs : s.IsTree) (hprepare : prepare l now mode s = (prepared, .ok ()))
    (hlist : templates l prepared = .ok ts) (hsteady : IsSteady l now mode prepared ts)
    (hperm : order.Perm ts) :
    (∀ cause, (renderEach l r now mode prepared order).outcome.result = .error cause ↔
      (renderAll l r s now mode).result = .error cause) ∧
    (IsEncodable r prepared mode ts → ∃ report report' : BatchReport,
      (renderAll l r s now mode).result = .ok report ∧
      (renderEach l r now mode prepared order).outcome.result = .ok report' ∧
      report'.rendered = report.rendered ∧ report'.skipped = report.skipped ∧
      report'.failed = report.failed ∧ report'.failures.Perm report.failures ∧
      (renderEach l r now mode prepared order).outcome.store.workingDirectory =
        (renderAll l r s now mode).store.workingDirectory ∧
      ∀ location, (renderEach l r now mode prepared order).outcome.store.at? location =
          (renderAll l r s now mode).store.at? location ∧
        (renderEach l r now mode prepared order).outcome.store.timeAt? location =
          (renderAll l r s now mode).store.timeAt? location) := by
  have hplaces := places_of_prepare hprepare
  have hlisted := listed_templates (isTree_of_prepare hs hprepare) hlist
  rw [renderAll_of_prepare hprepare hlist]
  constructor
  · intro cause
    rw [Batch.outcome, Batch.outcome, stop_renderEach_perm hplaces hlisted hsteady hperm]
    cases (renderEach l r now mode prepared ts).stop <;> simp
  intro hencodable
  have hlisted' := hlisted.perm hperm
  have hskip := decides_of_isSteady hplaces hsteady hlisted r
  have hskip' := decides_of_isSteady hplaces (hsteady.perm hperm) hlisted' r
  generalize skips l mode prepared = skip at hskip hskip'
  have hall := stop?_attempt_of_mem hplaces hlisted hencodable now skip
  have hall' : ∀ p ∈ order, (attempt l r now mode skip prepared p).stop? = none :=
    fun p hp => hall p (hperm.mem_iff.1 hp)
  have hfailures :=
    (hperm.filter fun p => (attempt l r now mode skip prepared p).isFailed).map Path.name
  rw [renderEach_eq hplaces hlisted hskip hall, renderEach_eq hplaces hlisted' hskip' hall']
  refine ⟨_, _, rfl, rfl, hperm.countP_eq _, hperm.countP_eq _, hfailures.length_eq, hfailures,
    ?_, fun location => ?_⟩
  · exact (workingDirectory_putFiles ..).trans (workingDirectory_putFiles ..).symm
  have hplace :
      (putFiles prepared (changesOf l r now mode skip prepared order)).at? location =
        (putFiles prepared (changesOf l r now mode skip prepared ts)).at? location :=
    at?_changesOf_perm hplaces hlisted hperm location
  exact ⟨hplace, timeAt?_touchAll_perm hplace
    ((times_putFiles ..).trans (times_putFiles ..).symm) (touchedBy_perm hperm) now⟩

/-- Four templates: the generated file of the first is newer, the second cannot be read, and the
output of the last falls on the directory of generated files, which stays older. -/
def shuffledTree : Store :=
  treeAt "root"
    [("a.tmpl", .file ⟨"a".toUTF8, 0o644, 0⟩), ("b.tmpl", .file ⟨"b".toUTF8, 0, 0⟩),
      ("c.tmpl", .file ⟨"c".toUTF8, 0o644, 0⟩), (".tmpl", .file ⟨"d".toUTF8, 0o644, 2⟩)]
    [("a", .file ⟨"old".toUTF8, 0o600, 1⟩)]

theorem renderAll_perm_shuffledTree :
    ∃ report report' : BatchReport,
      (renderAll (layoutAt "root") { vars := .empty } shuffledTree 2 {}).result = .ok report ∧
      (renderEach (layoutAt "root") { vars := .empty } 2 {} shuffledTree
        (["c.tmpl", ".tmpl", "b.tmpl", "a.tmpl"].map (layoutAt "root").template)).outcome.result =
          .ok report' ∧
      report'.rendered = report.rendered ∧ report'.failures.Perm report.failures := by
  have hs : shuffledTree.IsTree := isTree_of_forall_entries (by decide +kernel)
  have hprepare : prepare (layoutAt "root") 2 {} shuffledTree = (shuffledTree, .ok ()) := by
    decide +kernel
  have hlist : templates (layoutAt "root") shuffledTree =
      .ok (["a.tmpl", "b.tmpl", "c.tmpl", ".tmpl"].map (layoutAt "root").template) := by
    decide +kernel
  have hsteady : IsSteady (layoutAt "root") 2 {} shuffledTree
      (["a.tmpl", "b.tmpl", "c.tmpl", ".tmpl"].map (layoutAt "root").template) := by
    decide +kernel
  have hperm : (["c.tmpl", ".tmpl", "b.tmpl", "a.tmpl"].map (layoutAt "root").template).Perm
      (["a.tmpl", "b.tmpl", "c.tmpl", ".tmpl"].map (layoutAt "root").template) :=
    List.Perm.map _ (by decide)
  obtain ⟨report, report', hresult, hresult', hrendered, -, -, hfailures, -⟩ :=
    (@renderAll_perm (layoutAt "root") { vars := .empty } 2 _ _ _ _ _ hs hprepare hlist hsteady
      hperm).2 (by decide +kernel)
  exact ⟨report, report', hresult, hresult', hrendered, hfailures⟩

/-- Two templates, the first of which is newer than the directory of generated files that its output
falls on, until something is written there. -/
def unsteadyTree : Store :=
  treeAt "root"
    [(".tmpl", .file ⟨"d".toUTF8, 0o644, 1⟩), ("a.tmpl", .file ⟨"a".toUTF8, 0o644, 1⟩)] []

/-- Where a batch is not steady, what it passes over depends on the order. -/
theorem renderEach_unsteady_order :
    prepare (layoutAt "root") 2 {} unsteadyTree = (unsteadyTree, .ok ()) ∧
      templates (layoutAt "root") unsteadyTree =
        .ok ([".tmpl", "a.tmpl"].map (layoutAt "root").template) ∧
      (renderEach (layoutAt "root") { vars := .empty } 2 {} unsteadyTree
        ([".tmpl", "a.tmpl"].map (layoutAt "root").template)).outcome.result =
          .ok { rendered := 1, failures := [".tmpl"] } ∧
      (renderEach (layoutAt "root") { vars := .empty } 2 {} unsteadyTree
        (["a.tmpl", ".tmpl"].map (layoutAt "root").template)).outcome.result =
          .ok { rendered := 1, skipped := 1 } := by
  decide +kernel

/-- Where a rendering cannot be encoded, what is written depends on the order. -/
theorem renderEach_halves_order :
    prepare (layoutAt "root") 1 {} halvesTree = (halvesTree, .ok ()) ∧
      templates (layoutAt "root") halvesTree =
        .ok (["a.tmpl", "b.tmpl"].map (layoutAt "root").template) ∧
      (renderEach (layoutAt "root") { vars := halvesVars } 1 {} halvesTree
        (["a.tmpl", "b.tmpl"].map (layoutAt "root").template)).outcome.store.entry?
          ((layoutAt "root").output ((layoutAt "root").template "b.tmpl")) = none ∧
      (renderEach (layoutAt "root") { vars := halvesVars } 1 {} halvesTree
        (["b.tmpl", "a.tmpl"].map (layoutAt "root").template)).outcome.store.entry?
          ((layoutAt "root").output ((layoutAt "root").template "b.tmpl")) =
        some (.file ⟨"b".toUTF8, 0o644, 1⟩) := by
  decide +kernel

end MachineConfig.Generated
