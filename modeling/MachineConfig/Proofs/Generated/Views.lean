import MachineConfig.Proofs.Generated.DriftIsolation
import MachineConfig.Proofs.Generated.Fates

/-!
How things stand with generated files is told in three ways, which agree (`statuses_agree`): a
template that is listed as rendered is one that a batch without force passes over, and one that is
listed as not rendered is one whose generated file is missing in the comparison. Rendering comes to
rest: after a batch without failures all templates are listed as rendered, and another batch does
nothing. The comparison is of no help where a generated file cannot be read, for then there is none
(`statuses_driftAll_unreadable`).
-/

namespace MachineConfig.Generated

open Store
open Template (Renderer)

variable {l : Layout} {r : Renderer} {now : Int} {mode : BatchMode} {skip : Path → Bool}
  {s prepared : Store} {template output : Path} {ts : List Path}

theorem stateOf_eq_rendered_iff :
    stateOf s template output = .rendered ↔ isUpToDate s template output := by
  rw [stateOf]
  cases hentry : s.entry? output with
  | none => simp [isUpToDate_of_missing hentry]
  | some entry => simp

theorem stateOf_eq_notRendered_iff :
    stateOf s template output = .notRendered ↔ s.entry? output = none := by
  rw [stateOf]
  cases hentry : s.entry? output with
  | none => simp
  | some entry =>
    simp only [Option.isNone_some, Bool.false_eq_true, if_false]
    split <;> simp

theorem statuses_of_templates (h : templates l s = .ok ts) :
    statuses l s = .ok (ts.map fun template =>
      ⟨template, l.output template, stateOf s template (l.output template)⟩) := by
  rw [statuses, h]
  rfl

/-! ## The comparison -/

theorem isEncodable_of_scratchFault? {name text : String} (h : scratchFault? name text = none) :
    Text.isEncodable text := by
  by_contra hbad
  rw [Bool.not_eq_true] at hbad
  rw [scratchFault?, hbad] at h
  split at h <;> cases h

/-- What the entry of a template may be: its generated file is missing, or it is there and the
template cannot be rendered, or what it renders to is compared with the content of that file. -/
theorem driftEntry_cases {entry : DriftEntry} (h : (driftEntry l r s template).2 = .ok entry) :
    entry.template = template ∧ entry.output = l.output template ∧
      (entry.drift = .missing ∧ s.entry? (l.output template) = none ∨
        s.entry? (l.output template) ≠ none ∧ (entry.drift = .failed ∨
          ∃ x content, rendering r s template = .ok x ∧ Text.isEncodable x.text ∧
            s.read (l.output template) = .ok content ∧
            entry.drift = compare (l.output template) content x.text)) := by
  rw [driftEntry] at h
  cases hentry : s.entry? (l.output template) with
  | none =>
    simp only [hentry, Option.isNone_none, if_true] at h
    obtain rfl := Except.ok.inj h
    exact ⟨rfl, rfl, .inl ⟨rfl, rfl⟩⟩
  | some there =>
    simp only [hentry, Option.isNone_some, Bool.false_eq_true, if_false] at h
    have hthere : some there ≠ none := Option.some_ne_none there
    split at h
    · obtain rfl := Except.ok.inj h
      exact ⟨rfl, rfl, .inr ⟨hthere, .inl rfl⟩⟩
    next x hrendering =>
    split at h
    · split at h
      · obtain rfl := Except.ok.inj h
        exact ⟨rfl, rfl, .inr ⟨hthere, .inl rfl⟩⟩
      · cases h
    next hscratch =>
    split at h
    · cases h
    · next content hread =>
      obtain rfl := Except.ok.inj h
      exact ⟨rfl, rfl, .inr ⟨hthere, .inr ⟨x, content, hrendering,
        isEncodable_of_scratchFault? hscratch, hread, rfl⟩⟩⟩

theorem compare_ne_missing (output : Path) (content : ByteArray) (text : String) :
    compare output content text ≠ .missing := by
  rw [compare]
  split <;> exact Drift.noConfusion

/-- A comparison that is made finds a generated file missing exactly where there is none. -/
theorem of_driftEntry_eq_ok {entry : DriftEntry} (h : (driftEntry l r s template).2 = .ok entry) :
    entry.template = template ∧
      (entry.drift = .missing ↔ s.entry? (l.output template) = none) := by
  obtain ⟨htemplate, -, hcases⟩ := driftEntry_cases h
  refine ⟨htemplate, ?_⟩
  obtain ⟨hmissing, hnone⟩ | ⟨hthere, hdrift⟩ := hcases
  · exact ⟨fun _ => hnone, fun _ => hmissing⟩
  · refine ⟨fun hmissing => ?_, fun hnone => absurd hnone hthere⟩
    obtain hfailed | ⟨x, content, -, -, -, hcompare⟩ := hdrift
    · cases hfailed.symm.trans hmissing
    · exact absurd (hcompare.symm.trans hmissing) (compare_ne_missing _ _ _)

theorem forall₂_of_driftOf_eq_ok {entries : List DriftEntry}
    (h : (driftOf l r s ts).2 = .ok entries) :
    List.Forall₂ (fun template entry => (driftEntry l r s template).2 = .ok entry) ts entries := by
  induction ts generalizing entries with
  | nil =>
    obtain rfl := Except.ok.inj h
    exact .nil
  | cons template rest ih =>
    rw [driftOf, consEntry_snd] at h
    cases hfirst : (driftEntry l r s template).2 with
    | error cause => simp [hfirst] at h
    | ok entry =>
      simp only [hfirst] at h
      cases hrest : (driftOf l r s rest).2 with
      | error cause => simp [hrest, Except.map] at h
      | ok more =>
        rw [hrest] at h
        obtain rfl := Except.ok.inj h
        exact .cons hfirst (ih hrest)

/-! ## Coming to rest -/

/-- Passing over templates one after the other changes nothing but their number. -/
theorem foldl_step_of_isUpToDate {b : Batch} (hforce : mode.force = false) (hstop : b.stop = none)
    (h : ∀ template ∈ ts, isUpToDate b.store template (l.output template)) :
    ts.foldl (Batch.step l r now mode) b =
      { b with report := { b.report with skipped := b.report.skipped + ts.length } } := by
  induction ts generalizing b with
  | nil => rfl
  | cons template rest ih =>
    rw [List.forall_mem_cons] at h
    have hstep : b.step l r now mode template =
        { b with report := { b.report with skipped := b.report.skipped + 1 } } := by
      rw [Batch.step, hstop, hforce, h.1]
      rfl
    rw [List.foldl_cons, hstep]
    refine (ih (b := { b with report := { b.report with skipped := b.report.skipped + 1 } })
      hstop h.2).trans ?_
    simp [Nat.add_assoc, Nat.add_comm 1]

/-- A batch in which every template is passed over does nothing. -/
theorem renderAll_of_isUpToDate (hprepare : prepare l now mode s = (s, .ok ()))
    (hforce : mode.force = false) (hlist : templates l s = .ok ts)
    (h : ∀ template ∈ ts, isUpToDate s template (l.output template)) :
    renderAll l r s now mode =
      { result := .ok { skipped := ts.length }, events := [], store := s } := by
  have hpassed : ts.foldl (Batch.step l r now mode) { store := s } =
      { store := s, report := { skipped := 0 + ts.length } } :=
    foldl_step_of_isUpToDate hforce rfl h
  rw [renderAll_of_prepare hprepare hlist, renderEach, hpassed, Nat.zero_add]
  rfl

/-- Preparing a batch again makes nothing. -/
theorem prepare_of_places {base : Path} (h : Places l s base) (now : Int) (mode : BatchMode) :
    prepare l now mode s = (s, .ok ()) := by
  rw [prepare, makeDirectories_of_directory h.locate_generatedDir h.directory_generated, ite_self]

/-- After a batch in which a template has not failed, its generated file is newer, if the template
is older than the batch. -/
theorem isUpToDate_after {base : Path} (hplaces : Places l s base) (hdry : mode.dryRun = false)
    (hlisted : Listed l ts) (htemplate : template ∈ ts)
    (hname : l.outputName template.name ∉ ["", ".", ".."])
    (hskip : skip template = skips l mode s template)
    (hfailed : (attempt l r now mode skip s template).isFailed = false)
    (hstop : (attempt l r now mode skip s template).stop? = none)
    (htime : ∀ file, s.regularFile? template = some file → file.time < now) :
    isUpToDate ((putFiles s (changesOf l r now mode skip s ts)).touchAll now
      (touchedBy l r now mode skip s ts)) template (l.output template) := by
  have hplaces' : mode.dryRun = true ∨ ∃ base, Places l s base := .inr ⟨base, hplaces⟩
  have hsame : SameDirectories s (putFiles s (changesOf l r now mode skip s ts)) :=
    sameDirectories_changesOf s ts
  have hsource : ∀ location, s.locate template = .ok location →
      s.at? location = (putFiles s (changesOf l r now mode skip s ts)).at? location :=
    fun location hlocate => (at?_changesOf_source hplaces' hlisted htemplate hlocate).symm
  -- A generated file with a name of its own is in no directory's place that has been written in.
  change skips l {} (touchAll ..) template
  rw [skips_touchAll (.inr ⟨base, hplaces.of_sameDirectories hsame⟩) (isSteadyAt_of_name hname)
    hlisted htemplate fun d hd => ⟨rfl, (isWorkplace_of_mem_touchedBy hplaces' hlisted
      hd).2.of_sameDirectories hsame⟩]
  cases hpassed : skip template with
  | true =>
    have hagree : AgreeOn l template s (putFiles s (changesOf l r now mode skip s ts)) := by
      refine ⟨hsame, hsource, fun location hlocate => ?_⟩
      rw [at?_changesOf_output hplaces' hlisted htemplate hlocate, attempt_of_skip hpassed]
      rfl
    rw [← hagree.skips_eq (times_putFiles ..).symm]
    rw [hskip, skips, Bool.and_eq_true] at hpassed
    exact hpassed.2
  | false =>
    obtain ⟨location, file, hchange⟩ := exists_change? hpassed hdry hfailed hstop
    obtain ⟨-, x, hrendering, hreplacement⟩ := exists_of_change? hchange
    obtain ⟨hlocate, -, -, -, rfl⟩ := of_replacement_eq_ok hreplacement
    obtain ⟨source, hfile⟩ := exists_file_of_rendering hrendering
    obtain ⟨place, hplace, hthere⟩ := regularFile?_eq_some_iff.1 hfile
    have houtput := regularFile?_of_change? hplaces' hlisted htemplate hchange
    have hafter : (putFiles s (changesOf l r now mode skip s ts)).regularFile? template =
        some source :=
      regularFile?_eq_some_iff.2 ⟨place, hsame.locate_eq _ ▸ hplace,
        (hsource place hplace).symm.trans hthere⟩
    change isUpToDate _ template (l.output template)
    rw [isUpToDate, time?_of_regularFile? hafter, time?_of_regularFile? houtput]
    simpa using htime source hfile

/-- After a batch without failures over older templates, all are listed as rendered, and another
batch without force does nothing at all. -/
theorem renderAll_rests {report : BatchReport} (hs : s.IsTree) (hdry : mode.dryRun = false)
    (hroot : s.entry? l.root = some .directory ∨ ".." ∉ l.root.names)
    (hlist : templates l s = .ok ts)
    (hproper : ∀ template ∈ ts, l.outputName template.name ∉ ["", ".", ".."])
    (hresult : (renderAll l r s now mode).result = .ok report)
    (hfailures : report.failures = [])
    (htimes : ∀ template ∈ ts, ∀ file, s.regularFile? template = some file → file.time < now) :
    statuses l (renderAll l r s now mode).store =
        .ok (ts.map fun template => ⟨template, l.output template, .rendered⟩) ∧
      ∀ (other : Renderer) (later : Int) (next : BatchMode), next.force = false →
        renderAll l other (renderAll l r s now mode).store later next =
          { result := .ok { skipped := ts.length }, events := []
            store := (renderAll l r s now mode).store } := by
  obtain ⟨prepared, ts', skip, hprepare, hlist', hlisted, hskip, hall, hnames, hstore⟩ :=
    of_renderAll_eq_ok hs hresult
  obtain rfl : ts' = ts :=
    Except.ok.inj (hlist'.symm.trans ((templates_prepare hs hroot hprepare).trans hlist))
  obtain ⟨base, hplaces⟩ := (places_of_prepare hprepare).resolve_left (by simp [hdry])
  rw [hnames, List.map_eq_nil_iff, List.filter_eq_nil_iff] at hfailures
  have hfresh : ∀ template ∈ ts',
      isUpToDate (renderAll l r s now mode).store template (l.output template) := by
    intro template htemplate
    rw [hstore]
    have hname := hproper template htemplate
    refine isUpToDate_after hplaces hdry hlisted htemplate hname ((hskip template htemplate).trans
        (passesOver_eq_skips (.inr ⟨base, hplaces⟩) (isSteadyAt_of_name hname) hlisted htemplate))
      (by simpa using hfailures template htemplate) (hall template htemplate) fun file hfile => ?_
    rw [regularFile?_of_mem hs hlist htemplate hprepare] at hfile
    exact htimes template htemplate file hfile
  have hrest : templates l (renderAll l r s now mode).store = .ok ts' := by
    rw [hstore]
    exact (templates_changesOf hlisted).trans hlist'
  have hagain : Places l (renderAll l r s now mode).store base := by
    rw [hstore]
    exact hplaces.of_sameDirectories ((sameDirectories_changesOf prepared ts').touchAll ..)
  refine ⟨?_, fun other later next hforce =>
    renderAll_of_isUpToDate (prepare_of_places hagain later next) hforce hrest hfresh⟩
  rw [statuses_of_templates hrest]
  refine congrArg Except.ok (List.map_congr_left fun template htemplate => ?_)
  rw [stateOf_eq_rendered_iff.2 (hfresh template htemplate)]

/-! ## The three views -/

/-- The three views of a tree agree on every template. What is listed as rendered is what a batch
without force passes over, of the templates that it comes to; what is listed as not rendered is what
the comparison finds missing, if it is made. After a batch without failures over older templates all
are listed as rendered, and another batch does nothing. -/
theorem statuses_agree (hs : s.IsTree)
    (hroot : s.entry? l.root = some .directory ∨ ".." ∉ l.root.names)
    (hmade : s.makeDirectories now l.generatedDir = (prepared, .ok ()))
    (hlist : templates l s = .ok ts)
    (hnames : ∀ template ∈ ts, l.outputName template.name ∉ ["", ".", ".."]) :
    templates l prepared = .ok ts ∧
      ∃ states, statuses l s = .ok states ∧ states.map (·.template) = ts ∧
        (∀ state ∈ states, (comingTo l r now {} prepared ts state.template).stop.isNone →
          (state.state = .rendered ↔ Counts l r now {} prepared ts state.template .skipped)) ∧
        (IsEncodable r s {} ts → ∀ template ∈ ts,
          (comingTo l r now {} prepared ts template).stop.isNone) ∧
        (∀ entries, (driftAll l r s).2 = .ok entries →
          List.Forall₂ (fun state entry => entry.template = state.template ∧
            (state.state = .notRendered ↔ entry.drift = .missing)) states entries) ∧
        ((∀ template ∈ ts, IsComparable l r s template) →
          ∃ entries, (driftAll l r s).2 = .ok entries) ∧
        ∀ force report, (renderAll l r s now ⟨false, force⟩).result = .ok report →
          report.failures = [] →
          (∀ template ∈ ts, ∀ file, s.regularFile? template = some file → file.time < now) →
          statuses l (renderAll l r s now ⟨false, force⟩).store =
              .ok (ts.map fun template => ⟨template, l.output template, .rendered⟩) ∧
            ∀ later, renderAll l r (renderAll l r s now ⟨false, force⟩).store later {} =
              { result := .ok { skipped := ts.length }, events := []
                store := (renderAll l r s now ⟨false, force⟩).store } := by
  have hprepare : prepare l now {} s = (prepared, .ok ()) := hmade
  have hlist' := (templates_prepare hs hroot hprepare).trans hlist
  have hlisted := listed_templates hs hlist
  have hplaces := places_of_prepare hprepare
  refine ⟨hlist', _, statuses_of_templates hlist, by simp [Function.comp_def], ?_, ?_, ?_, ?_, ?_⟩
  · intro state hstate hcoming
    obtain ⟨template, htemplate, rfl⟩ := List.mem_map.1 hstate
    have houtput := isName_outputName hlisted htemplate (hnames template htemplate)
    have hsteady : IsSteadyAt l now {} prepared template :=
      isSteadyAt_of_name (hnames template htemplate)
    rw [stateOf_eq_rendered_iff, ← isUpToDate_of_mem hs hlist htemplate hprepare houtput,
      counts_iff hplaces hlisted htemplate, and_iff_right hcoming, fate?_attempt_eq_skipped,
      passesOver_eq_skips hplaces hsteady hlisted htemplate]
    rfl
  · intro hencodable template htemplate
    exact stop_comingTo htemplate
      (stop_renderEach_of_isEncodable hs hprepare hlist hencodable)
  · intro entries hentries
    rw [driftAll_eq hlist] at hentries
    refine List.forall₂_map_left_iff.2 ((forall₂_of_driftOf_eq_ok hentries).imp ?_)
    intro template entry hentry
    obtain ⟨htemplate, hmissing⟩ := of_driftEntry_eq_ok hentry
    exact ⟨htemplate, stateOf_eq_notRendered_iff.trans hmissing.symm⟩
  · intro hcomparable
    rw [driftAll_eq hlist]
    exact ⟨_, driftOf_of_forall fun template htemplate =>
      driftEntry_eq_entryOf (hcomparable template htemplate)⟩
  · intro force report hreport hfailures htimes
    obtain ⟨hstatuses, hagain⟩ := renderAll_rests hs rfl hroot hlist hnames hreport hfailures htimes
    exact ⟨hstatuses, fun later => hagain r later {} rfl⟩

/-- Two templates, of which the first has a newer generated file and the second none. -/
def halfRenderedTree : Store :=
  treeAt "root"
    [("a.tmpl", .file ⟨"a".toUTF8, 0o644, 0⟩), ("b.tmpl", .file ⟨"b".toUTF8, 0o644, 0⟩)]
    [("a", .file ⟨"old".toUTF8, 0o644, 1⟩)]

theorem statuses_agree_halfRendered :
    Counts (layoutAt "root") { vars := .empty } 2 {} halfRenderedTree
        (["a.tmpl", "b.tmpl"].map (layoutAt "root").template)
        ((layoutAt "root").template "a.tmpl") .skipped ∧
      (∃ first second, (driftAll (layoutAt "root") { vars := .empty } halfRenderedTree).2 =
        .ok [first, second] ∧ first.drift ≠ .missing ∧ second.drift = .missing) ∧
      (renderAll (layoutAt "root") { vars := .empty }
        (renderAll (layoutAt "root") { vars := .empty } halfRenderedTree 2 {}).store 3 {}).result =
          .ok { skipped := 2 } := by
  have hs : halfRenderedTree.IsTree := isTree_of_forall_entries (by decide +kernel)
  have hroot : halfRenderedTree.entry? (layoutAt "root").root = some .directory := by
    decide +kernel
  have hmade : halfRenderedTree.makeDirectories 2 (layoutAt "root").generatedDir =
      (halfRenderedTree, .ok ()) := by
    decide +kernel
  have hlist : templates (layoutAt "root") halfRenderedTree =
      .ok (["a.tmpl", "b.tmpl"].map (layoutAt "root").template) := by
    decide +kernel
  have hnames : ∀ template ∈ ["a.tmpl", "b.tmpl"].map (layoutAt "root").template,
      (layoutAt "root").outputName template.name ∉ ["", ".", ".."] := by
    decide +kernel
  have hencodable : IsEncodable { vars := .empty } halfRenderedTree {}
      (["a.tmpl", "b.tmpl"].map (layoutAt "root").template) := by
    decide +kernel
  have hcomparable : ∀ template ∈ ["a.tmpl", "b.tmpl"].map (layoutAt "root").template,
      IsComparable (layoutAt "root") { vars := .empty } halfRenderedTree template := by
    decide +kernel
  have hreport : (renderAll (layoutAt "root") { vars := .empty } halfRenderedTree 2 {}).result =
      .ok { rendered := 1, skipped := 1 } := by
    decide +kernel
  have htimes : ∀ template ∈ ["a.tmpl", "b.tmpl"].map (layoutAt "root").template,
      (halfRenderedTree.regularFile? template).all (·.time < 2) := by
    decide +kernel
  obtain ⟨-, states, hstates, -, hrendered, hcoming, hdrift, hcompared, hrests⟩ :=
    statuses_agree hs (.inl hroot) hmade hlist hnames
  have htold : statuses (layoutAt "root") halfRenderedTree =
      .ok [⟨(layoutAt "root").template "a.tmpl",
          (layoutAt "root").output ((layoutAt "root").template "a.tmpl"), .rendered⟩,
        ⟨(layoutAt "root").template "b.tmpl",
          (layoutAt "root").output ((layoutAt "root").template "b.tmpl"), .notRendered⟩] := by
    decide +kernel
  obtain rfl := Except.ok.inj (hstates.symm.trans htold)
  refine ⟨?_, ?_, ?_⟩
  · exact (hrendered _ List.mem_cons_self (hcoming hencodable _ List.mem_cons_self)).1 rfl
  · obtain ⟨entries, hentries⟩ := hcompared hcomparable
    cases hdrift entries hentries with
    | cons hfirst hrest =>
      cases hrest with
      | cons hsecond hnil =>
        cases hnil
        refine ⟨_, _, hentries, ?_, hsecond.2.1 rfl⟩
        rw [ne_eq, ← hfirst.2]
        decide
  · have hagain := (hrests false _ hreport rfl fun template htemplate file hfile => by
      simpa [hfile] using htimes template htemplate).2 3
    rw [hagain]
    rfl

/-- Two templates, of which the first has a generated file that nobody may read. -/
def lockedPairTree : Store :=
  treeAt "root"
    [("a.tmpl", .file ⟨"a".toUTF8, 0o644, 0⟩), ("b.tmpl", .file ⟨"b".toUTF8, 0o644, 0⟩)]
    [("a", .file ⟨"old".toUTF8, 0, 0⟩)]

/-- Where a generated file cannot be read, a template is listed as not rendered, and no comparison
finds its generated file missing. -/
theorem statuses_driftAll_unreadable :
    (statuses (layoutAt "root") lockedPairTree).map (·.map (·.state)) =
        .ok [.stale, .notRendered] ∧
      (driftAll (layoutAt "root") { vars := .empty } lockedPairTree).2 =
        .error (.host .inaccessible) := by
  decide +kernel

end MachineConfig.Generated
