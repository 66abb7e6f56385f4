import MachineConfig.Proofs.Generated.RemovalLemmas
import MachineConfig.Proofs.Generated.ReportLemmas

/-!
A batch keeps failures apart. Where all renderings can be encoded it comes to its end, tells which
templates failed, leaves their generated files as they were, and does to the others what it does
where the failing templates are not there (`renderAll_isolates_failures`); only a template whose
output falls on a directory may be passed over because another has failed in it. A rendering that
cannot be encoded is the exception: it stops the batch (`renderAll_stops`).
-/

namespace MachineConfig.Generated

open Store
open Template (Renderer Rendering)

variable {l : Layout} {r : Renderer} {now : Int} {mode : BatchMode} {skip skip' : Path → Bool}
  {s prepared : Store} {template : Path} {name : String} {ts : List Path}

/-- What becomes of a template by itself depends on what it sees of the tree. -/
theorem AgreeOn.result_eq {dryRun : Bool} {left : Store} (h : AgreeOn l (l.template name) s left)
    (hplaces : dryRun = true ∨ ∃ base, Places l s base) (hname : IsName name) :
    (renderFile r s now dryRun (l.template name) (some (l.output (l.template name)))).result =
      (renderFile r left now dryRun (l.template name)
        (some (l.output (l.template name)))).result := by
  have hplaces' := hplaces.imp_right fun ⟨base, hbase⟩ =>
    Exists.intro base (hbase.of_sameDirectories h.directories)
  rw [renderFile_eq hplaces hname, renderFile_eq hplaces' hname, h.rendering_eq]
  cases rendering r left (l.template name) with
  | error cause => rfl
  | ok x =>
    simp only [h.replacement_eq]
    split
    · rfl
    · split <;> rfl

theorem AgreeOn.fails_eq {left : Store} (h : AgreeOn l (l.template name) s left)
    (hplaces : mode.dryRun = true ∨ ∃ base, Places l s base) (hname : IsName name)
    (hskip : skip (l.template name) = skip' (l.template name)) :
    fails l r now mode skip s (l.template name) =
      fails l r now mode skip' left (l.template name) := by
  rw [fails, fails, hskip, h.result_eq hplaces hname]

theorem exists_eq_failed (hplaces : mode.dryRun = true ∨ ∃ base, Places l s base)
    (hlisted : Listed l ts)
    (hall : ∀ template ∈ ts, (attempt l r now mode skip s template).stop? = none)
    (htemplate : template ∈ ts) (hfails : fails l r now mode skip s template) :
    ∃ told touched, attempt l r now mode skip s template = .failed told touched := by
  obtain ⟨name, hname, -, rfl⟩ := hlisted.template template htemplate
  rw [← isFailed_attempt hplaces hname (hall _ htemplate)] at hfails
  cases hattempt : attempt l r now mode skip s (l.template name) with
  | failed told touched => exact ⟨told, touched, rfl⟩
  | _ => simp [hattempt, Attempt.isFailed] at hfails

/-! ## The batch without the failing templates -/

theorem exists_of_mem_map_filter {f : Path → Bool} :
    ∀ name ∈ (ts.filter f).map Path.name, ∃ p ∈ ts, p.name = name := by
  intro name hname
  obtain ⟨p, hp, rfl⟩ := List.mem_map.1 hname
  exact ⟨p, List.mem_of_mem_filter hp, rfl⟩

section

variable {left : Store} {keep : Path → Bool}
  (hagree : ∀ p ∈ ts, keep p → AgreeOn l p s left)
include hagree

theorem isEncodable_filter (hencodable : IsEncodable r s mode ts) :
    IsEncodable r left mode (ts.filter keep) := by
  intro hdry p hp x hx
  obtain ⟨hp, hkeep⟩ := List.mem_filter.1 hp
  rw [← (hagree p hp hkeep).rendering_eq] at hx
  exact hencodable hdry p hp x hx

theorem filter_fails_eq_nil (hplaces : mode.dryRun = true ∨ ∃ base, Places l s base)
    (hlisted : Listed l ts) (hskip : ∀ p ∈ ts, keep p → skip p = skip' p)
    (hkeep : ∀ p ∈ ts, keep p → fails l r now mode skip s p = false) :
    (ts.filter keep).filter (fails l r now mode skip' left) = [] := by
  rw [List.filter_eq_nil_iff]
  intro p hp
  obtain ⟨hp, hkept⟩ := List.mem_filter.1 hp
  obtain ⟨name, hname, -, rfl⟩ := hlisted.template p hp
  rw [← (hagree _ hp hkept).fails_eq hplaces hname (hskip _ hp hkept), hkeep _ hp hkept]
  exact Bool.false_ne_true

end

section

variable {left : Store} {keep : Path → Bool}
  (hkept : ∀ p ∈ ts, keep p → attempt l r now mode skip' left p = attempt l r now mode skip s p)
  (hfailed : ∀ p ∈ ts, keep p = false →
    ∃ told touched, attempt l r now mode skip s p = .failed told touched)
include hkept hfailed

/-- What is counted, other than failures, is counted without the failing templates too. -/
theorem countP_filter_attempt {f : Attempt → Bool}
    (hf : ∀ told touched, f (.failed told touched) = false) :
    ((ts.filter keep).countP fun p => f (attempt l r now mode skip' left p)) =
      ts.countP fun p => f (attempt l r now mode skip s p) := by
  rw [List.countP_filter]
  refine List.countP_congr fun p hp => ?_
  cases hkeep : keep p with
  | true => rw [Bool.and_true, hkept p hp hkeep]
  | false =>
    obtain ⟨told, touched, hfails⟩ := hfailed p hp hkeep
    rw [Bool.and_false, hfails, hf]

theorem changesOf_filter :
    changesOf l r now mode skip' left (ts.filter keep) = changesOf l r now mode skip s ts := by
  rw [changesOf, changesOf, List.filterMap_filter]
  refine List.filterMap_congr fun p hp => ?_
  cases hkeep : keep p with
  | true => rw [if_pos rfl, hkept p hp hkeep]
  | false =>
    obtain ⟨told, touched, hfails⟩ := hfailed p hp hkeep
    rw [if_neg Bool.false_ne_true, hfails]
    rfl

end

section

variable (hs : s.IsTree) (hprepare : prepare l now mode s = (prepared, .ok ()))
  (hlist : templates l prepared = .ok ts)
include hs hprepare hlist

/-- What lies in the place of a generated file after the batch. -/
theorem entry?_output_renderAll (hskip : Decides l r now mode prepared ts skip)
    (hencodable : IsEncodable r prepared mode ts) (htemplate : template ∈ ts) :
    (renderAll l r s now mode).store.entry? (l.output template) =
      (prepared.locate (l.output template)).toOption.bind fun location =>
        ((attempt l r now mode skip prepared template).change?.map fun change =>
          Entry.file change.2).or (prepared.at? location) := by
  have hplaces := places_of_prepare hprepare
  have hlisted := listed_templates (isTree_of_prepare hs hprepare) hlist
  rw [renderAll_of_isEncodable hs hprepare hlist hskip hencodable, entry?_touchAll, entry?,
    ← (sameDirectories_changesOf prepared ts).locate_eq]
  cases hlocate : prepared.locate (l.output template) with
  | error obstacle => rfl
  | ok location => exact at?_changesOf_output hplaces hlisted htemplate hlocate

/-- A template that fails keeps its generated file. -/
theorem entry?_of_fails (hskip : Decides l r now mode prepared ts skip)
    (hencodable : IsEncodable r prepared mode ts) (htemplate : template ∈ ts)
    (hfails : fails l r now mode skip prepared template) :
    (renderAll l r s now mode).store.entry? (l.output template) =
      prepared.entry? (l.output template) := by
  have hplaces := places_of_prepare hprepare
  have hlisted := listed_templates (isTree_of_prepare hs hprepare) hlist
  have hall := stop?_attempt_of_mem hplaces hlisted hencodable now skip
  obtain ⟨told, touched, htold⟩ := exists_eq_failed hplaces hlisted hall htemplate hfails
  rw [entry?_output_renderAll hs hprepare hlist hskip hencodable htemplate, htold]
  rfl

variable {failures : List String} (hnames : ∀ name ∈ failures, ∃ p ∈ ts, p.name = name)
include hnames

/-- Without some templates a batch begins with the tree without them, and finds the others. -/
theorem prepare_without : (s.removeAll (sources l prepared failures)).IsTree ∧
    prepare l now mode (s.removeAll (sources l prepared failures)) =
      (prepared.removeAll (sources l prepared failures), .ok ()) ∧
    templates l (prepared.removeAll (sources l prepared failures)) =
      .ok (ts.filter fun p => p.name ∉ failures) := by
  have htree := isTree_of_prepare hs hprepare
  have hfiles := areFiles_sources htree hlist hnames
  exact ⟨(areFiles_of_prepare hfiles hprepare).isTree hs, prepare_removeAll hfiles hprepare,
    templates_removeAll htree hlist hnames⟩

/-- A template that is passed over steadily is so without others too. -/
theorem passesOver_without (htemplate : template ∈ ts) (hleft : template.name ∉ failures)
    (hsteady : IsSteadyAt l now mode prepared template) :
    passesOver l r now mode (prepared.removeAll (sources l prepared failures))
        (ts.filter fun p => p.name ∉ failures) template =
      passesOver l r now mode prepared ts template := by
  have htree := isTree_of_prepare hs hprepare
  obtain ⟨hs', hprepare', hlist'⟩ := prepare_without hs hprepare hlist hnames
  have hagree := agreeOn_removeAll htree hlist hnames htemplate hleft
  have htimes := (times_removeAll prepared (sources l prepared failures)).symm
  have hmem : template ∈ ts.filter fun p => p.name ∉ failures :=
    List.mem_filter.2 ⟨htemplate, decide_eq_true hleft⟩
  rw [passesOver_eq_skips (places_of_prepare hprepare) hsteady (listed_templates htree hlist)
      htemplate,
    passesOver_eq_skips (places_of_prepare hprepare') (hsteady.of_agreeOn hagree htimes)
      (listed_templates (isTree_of_prepare hs' hprepare') hlist') hmem,
    hagree.skips_eq htimes]

end

section

variable (hs : s.IsTree) (hprepare : prepare l now mode s = (prepared, .ok ()))
  (hlist : templates l prepared = .ok ts) (hencodable : IsEncodable r prepared mode ts)
  {failures : List String} (hnames : ∀ name ∈ failures, ∃ p ∈ ts, p.name = name)
include hs hprepare hlist hencodable hnames

theorem isEncodable_without :
    IsEncodable r (prepared.removeAll (sources l prepared failures)) mode
      (ts.filter fun p => p.name ∉ failures) :=
  isEncodable_filter
    (fun _ hp hkeep => agreeOn_removeAll (isTree_of_prepare hs hprepare) hlist hnames hp
      (of_decide_eq_true hkeep))
    hencodable

/-- A template that is passed over steadily, or not, comes to the same without others. -/
theorem entry?_output_without (htemplate : template ∈ ts) (hleft : template.name ∉ failures)
    (hsteady : IsSteadyAt l now mode prepared template) :
    (renderAll l r (s.removeAll (sources l prepared failures)) now mode).store.entry?
        (l.output template) =
      (renderAll l r s now mode).store.entry? (l.output template) := by
  obtain ⟨hs', hprepare', hlist'⟩ := prepare_without hs hprepare hlist hnames
  have hagree := agreeOn_removeAll (isTree_of_prepare hs hprepare) hlist hnames htemplate hleft
  have hpasses := passesOver_without (r := r) hs hprepare hlist hnames htemplate hleft hsteady
  have hencodable' := isEncodable_without hs hprepare hlist hencodable hnames
  rw [entry?_output_renderAll hs' hprepare' hlist' decides_passesOver hencodable'
      (List.mem_filter.2 ⟨htemplate, decide_eq_true hleft⟩),
    entry?_output_renderAll hs hprepare hlist decides_passesOver hencodable htemplate,
    ← hagree.attempt_eq hpasses.symm, ← hagree.directories.locate_eq]
  cases hlocate : prepared.locate (l.output template) with
  | error obstacle => rfl
  | ok location =>
    change Option.or _ _ = Option.or _ _
    rw [hagree.output location hlocate]

end

section

variable (hs : s.IsTree) (hprepare : prepare l now mode s = (prepared, .ok ()))
  (hlist : templates l prepared = .ok ts) (hencodable : IsEncodable r prepared mode ts)
include hs hprepare hlist hencodable

/-- Without the failing templates a steady batch comes to the same for all others. -/
theorem renderAll_without_failures (hsteady : IsSteady l now mode prepared ts)
    {failures : List String} (hfailures : failures =
      (ts.filter (fails l r now mode (skips l mode prepared) prepared)).map Path.name) :
    (renderAll l r (s.removeAll (sources l prepared failures)) now mode).result =
        .ok { rendered := ts.countP fun template =>
                (attempt l r now mode (skips l mode prepared) prepared template).isRendered
              skipped := ts.countP (skips l mode prepared)
              failures := [] } ∧
      ∀ location,
        (renderAll l r (s.removeAll (sources l prepared failures)) now mode).store.at? location =
          ((renderAll l r s now mode).store.removeAll
            (sources l prepared failures)).at? location := by
  have hplaces := places_of_prepare hprepare
  have htree := isTree_of_prepare hs hprepare
  have hlisted := listed_templates htree hlist
  have hskip := decides_of_isSteady hplaces hsteady hlisted r
  have hall := stop?_attempt_of_mem hplaces hlisted hencodable now (skips l mode prepared)
  have hmem : ∀ p ∈ ts, p.name ∈ failures ↔
      fails l r now mode (skips l mode prepared) prepared p := by
    intro p hp
    rw [hfailures, hlisted.name_mem_map_filter hp]
  have hnames : ∀ name ∈ failures, ∃ p ∈ ts, p.name = name :=
    hfailures ▸ exists_of_mem_map_filter
  obtain ⟨hs', hprepare', hlist'⟩ := prepare_without hs hprepare hlist hnames
  have hencodable' := isEncodable_without hs hprepare hlist hencodable hnames
  have hkept : ∀ p ∈ ts, decide (p.name ∉ failures) →
      AgreeOn l p prepared (prepared.removeAll (sources l prepared failures)) :=
    fun p hp hkeep => agreeOn_removeAll htree hlist hnames hp (of_decide_eq_true hkeep)
  have hskip' : Decides l r now mode (prepared.removeAll (sources l prepared failures))
      (ts.filter fun p => p.name ∉ failures) (skips l mode prepared) := by
    intro p hp
    obtain ⟨hp, hkeep⟩ := List.mem_filter.1 hp
    rw [passesOver_without hs hprepare hlist hnames hp (of_decide_eq_true hkeep) (hsteady p hp)]
    exact hskip p hp
  have hfailed : ∀ p ∈ ts, decide (p.name ∉ failures) = false → ∃ told touched,
      attempt l r now mode (skips l mode prepared) prepared p = .failed told touched := by
    intro p hp hgone
    refine exists_eq_failed hplaces hlisted hall hp ?_
    simpa [hmem p hp] using hgone
  have hnone : (ts.filter fun p => p.name ∉ failures).filter (fails l r now mode
      (skips l mode prepared) (prepared.removeAll (sources l prepared failures))) = [] :=
    filter_fails_eq_nil hkept hplaces hlisted (fun _ _ _ => rfl)
      fun p hp hkeep => by simpa [hmem p hp] using hkeep
  have hattempt : ∀ p ∈ ts, decide (p.name ∉ failures) →
      attempt l r now mode (skips l mode prepared)
          (prepared.removeAll (sources l prepared failures)) p =
        attempt l r now mode (skips l mode prepared) prepared p :=
    fun p hp hkeep => ((hkept p hp hkeep).attempt_eq rfl).symm
  rw [renderAll_of_isEncodable hs hprepare hlist hskip hencodable,
    renderAll_of_isEncodable hs' hprepare' hlist' hskip' hencodable']
  constructor
  · have hrendered :=
      countP_filter_attempt hattempt hfailed (f := Attempt.isRendered) fun _ _ => rfl
    have hskipped :=
      countP_filter_attempt hattempt hfailed (f := Attempt.isSkipped) fun _ _ => rfl
    simp only [isSkipped_attempt] at hskipped
    simp only [hrendered, hskipped, hnone, List.map_nil]
  · intro location
    rw [at?_touchAll, removeAll_touchAll, at?_touchAll, changesOf_filter hattempt hfailed,
      removeAll_putFiles (not_mem_sources_of_mem_changesOf hlisted)]

/-- A batch whose renderings can be encoded comes to its end, and its report accounts for every
template. A template that fails keeps its generated file. Without the failing templates another
comes to the same, if it is passed over steadily; and if all are, so does the whole batch. -/
theorem renderAll_isolates_failures :
    ∃ report, (renderAll l r s now mode).result = .ok report ∧
      report.rendered + report.skipped + report.failed = ts.length ∧
      report.skipped = ts.countP (passesOver l r now mode prepared ts) ∧
      report.failures = (ts.filter
        (fails l r now mode (passesOver l r now mode prepared ts) prepared)).map Path.name ∧
      (∀ template ∈ ts, template.name ∈ report.failures →
        (renderAll l r s now mode).store.entry? (l.output template) =
          prepared.entry? (l.output template) ∧
        ∀ file, s.regularFile? (l.output template) = some file →
          (renderAll l r s now mode).store.regularFile? (l.output template) = some file) ∧
      ∃ left rest, prepare l now mode (s.removeAll (sources l prepared report.failures)) =
          (left, .ok ()) ∧
        rest = ts.filter (fun p => p.name ∉ report.failures) ∧ templates l left = .ok rest ∧
        (∀ template ∈ rest, IsSteadyAt l now mode prepared template →
          passesOver l r now mode left rest template =
            passesOver l r now mode prepared ts template ∧
          (renderFile r left now mode.dryRun template (some (l.output template))).result =
            (renderFile r prepared now mode.dryRun template (some (l.output template))).result ∧
          (renderAll l r (s.removeAll (sources l prepared report.failures)) now
              mode).store.entry? (l.output template) =
            (renderAll l r s now mode).store.entry? (l.output template)) ∧
        (IsSteady l now mode prepared ts →
          (renderAll l r (s.removeAll (sources l prepared report.failures)) now mode).result =
            .ok { report with failures := [] } ∧
          ∀ location, (renderAll l r (s.removeAll (sources l prepared report.failures)) now
              mode).store.at? location =
            ((renderAll l r s now mode).store.removeAll
              (sources l prepared report.failures)).at? location) := by
  have hplaces := places_of_prepare hprepare
  have hlisted := listed_templates (isTree_of_prepare hs hprepare) hlist
  have hskip := @decides_passesOver l r now mode prepared ts
  have hall := stop?_attempt_of_mem hplaces hlisted hencodable now
    (passesOver l r now mode prepared ts)
  have hrun : (renderAll l r s now mode).result = _ :=
    congrArg Outcome.result (renderAll_of_isEncodable hs hprepare hlist hskip hencodable)
  refine ⟨_, hrun, ?_, rfl, rfl, ?_, ?_⟩
  · have hlength := length_eq_countP hall
    simp only [isSkipped_attempt] at hlength
    rw [BatchReport.failed, List.length_map, ← filter_isFailed hplaces hlisted hall,
      ← List.countP_eq_length_filter, hlength]
  · intro template htemplate hmem
    have hfails := (hlisted.name_mem_map_filter htemplate).1 hmem
    have hkept := entry?_of_fails hs hprepare hlist hskip hencodable htemplate hfails
    refine ⟨hkept, fun file hfile => ?_⟩
    have hbefore := (extends_of_prepare hprepare).regularFile?_eq hfile
    rwa [regularFile?, hkept]
  generalize hfailures : (ts.filter
    (fails l r now mode (passesOver l r now mode prepared ts) prepared)).map Path.name = failures
  have hnames : ∀ name ∈ failures, ∃ p ∈ ts, p.name = name :=
    hfailures ▸ exists_of_mem_map_filter
  obtain ⟨hs', hprepare', hlist'⟩ := prepare_without hs hprepare hlist hnames
  refine ⟨_, _, hprepare', rfl, hlist', fun template hrest hsteady => ?_, fun hsteady => ?_⟩
  · obtain ⟨htemplate, hleft⟩ := List.mem_filter.1 hrest
    have hleft := of_decide_eq_true hleft
    have hagree := agreeOn_removeAll (isTree_of_prepare hs hprepare) hlist hnames htemplate hleft
    refine ⟨passesOver_without hs hprepare hlist hnames htemplate hleft hsteady, ?_,
      entry?_output_without hs hprepare hlist hencodable hnames htemplate hleft hsteady⟩
    obtain ⟨name, hname, -, rfl⟩ := hlisted.template template htemplate
    exact (hagree.result_eq hplaces hname).symm
  · have hsame : ∀ p ∈ ts, passesOver l r now mode prepared ts p = skips l mode prepared p :=
      fun p hp => passesOver_eq_skips hplaces (hsteady p hp) hlisted hp
    have hfailures' : failures =
        (ts.filter (fails l r now mode (skips l mode prepared) prepared)).map Path.name := by
      rw [← hfailures]
      refine congrArg (List.map Path.name) (List.filter_congr fun p hp => ?_)
      rw [fails, fails, hsame p hp]
    obtain ⟨hresult, hstore⟩ :=
      renderAll_without_failures hs hprepare hlist hencodable hsteady hfailures'
    refine ⟨hresult.trans ?_, hstore⟩
    simp only [Except.ok.injEq, BatchReport.mk.injEq, and_true]
    refine ⟨List.countP_congr fun p hp => ?_, List.countP_congr fun p hp => ?_⟩
    · rw [attempt_congr (hsame p hp).symm]
    · rw [hsame p hp]

end

/-- Two templates, the first of which cannot be read but has a generated file. -/
def unreadableTree : Store :=
  treeAt "root"
    [("a.tmpl", .file ⟨"a".toUTF8, 0, 0⟩), ("b.tmpl", .file ⟨"b".toUTF8, 0o644, 0⟩)]
    [("a", .file ⟨"old".toUTF8, 0o600, 0⟩)]

theorem renderAll_isolates_failures_unreadable :
    ∃ report, (renderAll (layoutAt "root") { vars := .empty } unreadableTree 1 {}).result =
        .ok report ∧
      report.rendered + report.skipped + report.failed = 2 ∧ report.failures = ["a.tmpl"] := by
  have hs : unreadableTree.IsTree := isTree_of_forall_entries (by decide +kernel)
  have hprepare : prepare (layoutAt "root") 1 {} unreadableTree = (unreadableTree, .ok ()) := by
    decide +kernel
  have hlist : templates (layoutAt "root") unreadableTree =
      .ok [(layoutAt "root").template "a.tmpl", (layoutAt "root").template "b.tmpl"] := by
    decide +kernel
  have hencodable : IsEncodable { vars := .empty } unreadableTree {}
      [(layoutAt "root").template "a.tmpl", (layoutAt "root").template "b.tmpl"] := by
    decide +kernel
  obtain ⟨report, hresult, hsum, -, hfailures, -⟩ :=
    renderAll_isolates_failures hs hprepare hlist hencodable
  exact ⟨report, hresult, hsum, hfailures.trans (by decide +kernel)⟩

/-- A rendering that cannot be encoded stops the batch. -/
theorem renderAll_stops (hs : s.IsTree) (hprepare : prepare l now mode s = (prepared, .ok ()))
    (hlist : templates l prepared = .ok ts) (hskip : Decides l r now mode prepared ts skip)
    (htemplate : template ∈ ts)
    (hstop : (attempt l r now mode skip prepared template).stop?.isSome) :
    ∃ cause, (renderAll l r s now mode).result = .error cause := by
  have hplaces := places_of_prepare hprepare
  have hlisted := listed_templates (isTree_of_prepare hs hprepare) hlist
  rw [renderAll_of_prepare hprepare hlist, Batch.outcome, stop_renderEach hplaces hlisted hskip]
  cases hfind : ts.findSome? fun p => (attempt l r now mode skip prepared p).stop? with
  | none =>
    rw [List.findSome?_eq_none_iff.1 hfind template htemplate] at hstop
    cases hstop
  | some cause => exact ⟨cause, rfl⟩

/-- Two templates, the first of which renders to a variable that holds the halves of a pair. -/
def halvesTree : Store :=
  treeAt "root"
    [("a.tmpl", .file ⟨"\x7b\x7bx\x7d\x7d".toUTF8, 0o644, 0⟩),
      ("b.tmpl", .file ⟨"b".toUTF8, 0o644, 0⟩)] []

/-- The variable `x` as an escaped emoji gives it. -/
def halvesVars : Vars :=
  Table.ofList [("x", String.ofList (Text.ofCodes [0xD83D, 0xDE00]))]

theorem renderAll_stops_halves :
    (renderAll (layoutAt "root") { vars := halvesVars } halvesTree 1 {}).result =
      .error (.host .unencodable) := by
  decide +kernel

end MachineConfig.Generated
