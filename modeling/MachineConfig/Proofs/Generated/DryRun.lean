import MachineConfig.Proofs.Generated.Fates

/-!
A dry run foretells the run. It leaves the tree as it is, passes over what the run passes over,
fails what the run cannot render, and counts as rendered what the run renders or only fails to write
(`renderAll_dryRun_foretells`). That holds of every template that the run comes to: a rendering that
cannot be encoded stops the run, but not the dry run (`renderAll_dryRun_halves`).
-/

namespace MachineConfig.Generated

open Store
open Template (Renderer)

variable {l : Layout} {r : Renderer} {now later : Int} {force : Bool} {skip skip' : Path → Bool}
  {s prepared : Store} {template : Path} {ts : List Path} {cause : Failure}

/-- A batch comes to a template and fails it before anything is written for it. -/
def FailsToRender (l : Layout) (r : Renderer) (now : Int) (mode : BatchMode) (s : Store)
    (ts : List Path) (template : Path) : Prop :=
  Counts l r now mode s ts template .failed ∧
    ∃ cause, rendering r (comingTo l r now mode s ts template).store template = .error cause

/-- A batch comes to a template and renders it, but fails it or is stopped by it. -/
def FailsToWrite (l : Layout) (r : Renderer) (now : Int) (mode : BatchMode) (s : Store)
    (ts : List Path) (template : Path) : Prop :=
  (Counts l r now mode s ts template .failed ∨
      (goingPast l r now mode s ts template).stop.isSome) ∧
    ∃ x, rendering r (comingTo l r now mode s ts template).store template = .ok x

/-- What a dry run at one time counts a template as, against what the run at a later time makes of
it in the tree with the directory of generated files. -/
structure Foretells (l : Layout) (r : Renderer) (now later : Int) (force : Bool)
    (s prepared : Store) (ts : List Path) (template : Path) : Prop where
  skipped : Counts l r now ⟨true, force⟩ s ts template .skipped ↔
    Counts l r later ⟨false, force⟩ prepared ts template .skipped
  failed : Counts l r now ⟨true, force⟩ s ts template .failed ↔
    FailsToRender l r later ⟨false, force⟩ prepared ts template
  rendered : Counts l r now ⟨true, force⟩ s ts template .rendered ↔
    Counts l r later ⟨false, force⟩ prepared ts template .rendered ∨
      FailsToWrite l r later ⟨false, force⟩ prepared ts template

/-- A dry run comes to its end. -/
theorem stop_renderEach_of_dryRun (hs : s.IsTree) (hlist : templates l s = .ok ts) :
    (renderEach l r now ⟨true, force⟩ s ts).stop = none :=
  stop_renderEach_of_isEncodable hs rfl hlist fun hwritten => by cases hwritten

/-- What two attempts at a template come to, the first of them dry, where they pass over it alike
and see the same template. -/
theorem fate?_attempt_cases (l : Layout) (force : Bool) (now later : Int)
    (hskips : skip' template = skip template)
    (hrendering : rendering r prepared template = rendering r s template) :
    ((attempt l r now ⟨true, force⟩ skip s template).fate? = some .skipped ∧
        (attempt l r later ⟨false, force⟩ skip' prepared template).fate? = some .skipped) ∨
      (∃ cause, rendering r s template = .error cause) ∧
        (attempt l r now ⟨true, force⟩ skip s template).fate? = some .failed ∧
        (attempt l r later ⟨false, force⟩ skip' prepared template).fate? = some .failed ∨
      (∃ x, rendering r s template = .ok x) ∧
        (attempt l r now ⟨true, force⟩ skip s template).fate? = some .rendered ∧
        (attempt l r later ⟨false, force⟩ skip' prepared template).fate? ≠ some .skipped := by
  cases hskip : skip template with
  | true =>
    exact .inl ⟨fate?_attempt_eq_skipped.2 hskip, fate?_attempt_eq_skipped.2 (hskips.trans hskip)⟩
  | false =>
    rw [hskip] at hskips
    cases hread : rendering r s template with
    | error cause =>
      rw [hread] at hrendering
      exact .inr <| .inl ⟨⟨cause, rfl⟩, fate?_attempt_of_error hskip hread,
        fate?_attempt_of_error hskips hrendering⟩
    | ok x =>
      refine .inr <| .inr ⟨⟨x, rfl⟩, fate?_attempt_of_dryRun rfl hskip hread, ?_⟩
      rw [ne_eq, fate?_attempt_eq_skipped, hskips]
      exact Bool.false_ne_true

/-- What is foretold of a template that the run comes to. -/
theorem foretells (hs : s.IsTree) (hlist : templates l s = .ok ts)
    (hplaces : ∃ base, Places l prepared base) (htemplate : template ∈ ts)
    (hskips : passesOver l r later ⟨false, force⟩ prepared ts template =
      passesOver l r now ⟨true, force⟩ s ts template)
    (hrendering : rendering r prepared template = rendering r s template)
    (hcoming : (comingTo l r later ⟨false, force⟩ prepared ts template).stop.isNone) :
    Foretells l r now later force s prepared ts template := by
  have hlisted := listed_templates hs hlist
  have hdry : ∀ fate, Counts l r now ⟨true, force⟩ s ts template fate ↔
      (attempt l r now ⟨true, force⟩ (passesOver l r now ⟨true, force⟩ s ts) s template).fate? =
        some fate := by
    intro fate
    rw [counts_iff (.inl rfl) hlisted htemplate]
    exact and_iff_right (stop_comingTo htemplate (stop_renderEach_of_dryRun hs hlist))
  have hreal : ∀ fate, Counts l r later ⟨false, force⟩ prepared ts template fate ↔
      (attempt l r later ⟨false, force⟩ (passesOver l r later ⟨false, force⟩ prepared ts) prepared
        template).fate? = some fate := by
    intro fate
    rw [counts_iff (.inr hplaces) hlisted htemplate]
    exact and_iff_right hcoming
  have hmet : rendering r (comingTo l r later ⟨false, force⟩ prepared ts template).store template =
      rendering r prepared template := rendering_comingTo (.inr hplaces) hlisted htemplate
  have hstop := stop_goingPast (.inr hplaces) hlisted htemplate hcoming
  have hcases := fate?_attempt_cases l force now later hskips hrendering
  generalize attempt l r now _ _ s template = first at hcases hdry
  generalize attempt l r later _ _ prepared template = second at hcases hreal hstop
  rcases hcases with ⟨hfirst, hsecond⟩ | ⟨⟨cause, hread⟩, hfirst, hsecond⟩ |
    ⟨⟨x, hread⟩, hfirst, hsecond⟩
  · have hnone := stop?_eq_none_iff.2 ⟨_, hsecond⟩
    constructor <;> simp [FailsToRender, FailsToWrite, hdry, hreal, hstop, hfirst, hsecond, hnone]
  · constructor <;> simp [FailsToRender, FailsToWrite, hdry, hreal, hmet, hrendering, hread, hfirst,
      hsecond]
  · have hwritten : second.fate? = some .rendered ∨ second.fate? = some .failed ∨
        second.stop?.isSome := by
      cases second <;> simp [Attempt.fate?, Attempt.stop?] at hsecond ⊢
    constructor <;> simp [FailsToRender, FailsToWrite, hdry, hreal, hmet, hrendering, hread, hstop,
      hfirst, hsecond, hwritten]

/-- A dry run leaves the tree as it is. Where templates cannot be listed, it fails as the run does;
otherwise it comes to its end, and foretells what becomes of each template that the run comes to.
The run comes to all of them if it comes to its end, as it does if every rendering can be encoded,
and each report adds up what has been counted. -/
theorem renderAll_dryRun_foretells (hs : s.IsTree)
    (hroot : s.entry? l.root = some .directory ∨ ".." ∉ l.root.names)
    (hmade : s.makeDirectories later l.generatedDir = (prepared, .ok ())) :
    (renderAll l r s now ⟨true, force⟩).store = s ∧
      (∀ fault, templates l s = .error fault →
        (renderAll l r s now ⟨true, force⟩).result = .error (.host fault) ∧
        (renderAll l r s later ⟨false, force⟩).result = .error (.host fault)) ∧
      ∀ ts, templates l s = .ok ts →
        (∀ template ∈ ts, l.outputName template.name ∉ ["", ".", ".."]) →
        (renderAll l r s now ⟨true, force⟩).result =
          .ok (counted l r now ⟨true, force⟩ s ts) ∧
        templates l prepared = .ok ts ∧
        (∀ template ∈ ts,
          (comingTo l r later ⟨false, force⟩ prepared ts template).stop.isNone →
            Foretells l r now later force s prepared ts template) ∧
        (∀ report, (renderAll l r s later ⟨false, force⟩).result = .ok report →
          report = counted l r later ⟨false, force⟩ prepared ts ∧
          ∀ template ∈ ts,
            (comingTo l r later ⟨false, force⟩ prepared ts template).stop.isNone) ∧
        (IsEncodable r s ⟨false, force⟩ ts →
          ∃ report, (renderAll l r s later ⟨false, force⟩).result = .ok report) := by
  have hdry : prepare l now ⟨true, force⟩ s = (s, .ok ()) := rfl
  have hreal : prepare l later ⟨false, force⟩ s = (prepared, .ok ()) := hmade
  have hsame := templates_prepare hs hroot hreal
  refine ⟨store_renderAll_of_dryRun l r s now force, fun fault hfault => ?_,
    fun ts hlist hnames => ?_⟩
  · rw [hfault] at hsame
    constructor
    · rw [renderAll_eq, hdry]
      simp only [hfault]
    · rw [renderAll_eq, hreal]
      simp only [hsame]
  have hlist' := hsame.trans hlist
  have hlisted := listed_templates hs hlist
  have hplaces := (places_of_prepare hreal).resolve_left Bool.false_ne_true
  refine ⟨?_, hlist', fun template htemplate hcoming => ?_, fun report hreport => ?_,
    fun hencodable => ?_⟩
  · exact (result_renderAll_eq_ok_iff hs hdry hlist).2 ⟨stop_renderEach_of_dryRun hs hlist, rfl⟩
  · have hname := hnames template htemplate
    have houtput := isName_outputName hlisted htemplate hname
    have hskips : skips l ⟨false, force⟩ prepared template = skips l ⟨true, force⟩ s template :=
      skips_of_mem hs hlist htemplate hreal houtput
    rw [← passesOver_eq_skips (.inr hplaces) (isSteadyAt_of_name hname) hlisted htemplate,
      ← passesOver_eq_skips (.inl rfl) (isSteadyAt_of_name hname) hlisted htemplate] at hskips
    exact foretells hs hlist hplaces htemplate hskips (rendering_of_mem hs hlist htemplate hreal r)
      hcoming
  · obtain ⟨hstop, heq⟩ := (result_renderAll_eq_ok_iff hs hreal hlist').1 hreport
    exact ⟨heq, fun template htemplate => stop_comingTo htemplate hstop⟩
  · exact ⟨_, (result_renderAll_eq_ok_iff hs hreal hlist').2
      ⟨stop_renderEach_of_isEncodable hs hreal hlist hencodable, rfl⟩⟩

/-- Three templates: the first cannot be read, the generated file of the second is newer, and an
older directory lies in the place of that of the third. -/
def plannedTree : Store :=
  treeAt "root"
    [("a.tmpl", .file ⟨"a".toUTF8, 0, 0⟩), ("b.tmpl", .file ⟨"b".toUTF8, 0o644, 0⟩),
      ("c.tmpl", .file ⟨"c".toUTF8, 0o644, 1⟩)]
    [("b", .file ⟨"old".toUTF8, 0o644, 1⟩), ("c", .directory)]

/-- The templates of that tree. -/
def plannedTemplates : List Path := ["a.tmpl", "b.tmpl", "c.tmpl"].map (layoutAt "root").template

theorem renderAll_dryRun_foretells_planned :
    FailsToRender (layoutAt "root") { vars := .empty } 3 {} plannedTree plannedTemplates
        ((layoutAt "root").template "a.tmpl") ∧
      Counts (layoutAt "root") { vars := .empty } 3 {} plannedTree plannedTemplates
        ((layoutAt "root").template "b.tmpl") .skipped ∧
      FailsToWrite (layoutAt "root") { vars := .empty } 3 {} plannedTree plannedTemplates
        ((layoutAt "root").template "c.tmpl") ∧
      (renderAll (layoutAt "root") { vars := .empty } plannedTree 2 { dryRun := true }).store =
        plannedTree := by
  have hs : plannedTree.IsTree := isTree_of_forall_entries (by decide +kernel)
  have hroot : plannedTree.entry? (layoutAt "root").root = some .directory := by decide +kernel
  have hmade : plannedTree.makeDirectories 3 (layoutAt "root").generatedDir =
      (plannedTree, .ok ()) := by
    decide +kernel
  have hlist : templates (layoutAt "root") plannedTree = .ok plannedTemplates := by decide +kernel
  have hnames : ∀ template ∈ plannedTemplates,
      (layoutAt "root").outputName template.name ∉ ["", ".", ".."] := by
    decide +kernel
  have hencodable : IsEncodable { vars := .empty } plannedTree {} plannedTemplates := by
    decide +kernel
  have hfailed : Counts (layoutAt "root") { vars := .empty } 2 { dryRun := true } plannedTree
      plannedTemplates ((layoutAt "root").template "a.tmpl") .failed := by
    decide +kernel
  have hskipped : Counts (layoutAt "root") { vars := .empty } 2 { dryRun := true } plannedTree
      plannedTemplates ((layoutAt "root").template "b.tmpl") .skipped := by
    decide +kernel
  have hrendered : Counts (layoutAt "root") { vars := .empty } 2 { dryRun := true } plannedTree
      plannedTemplates ((layoutAt "root").template "c.tmpl") .rendered := by
    decide +kernel
  have hnot : ¬ Counts (layoutAt "root") { vars := .empty } 3 {} plannedTree plannedTemplates
      ((layoutAt "root").template "c.tmpl") .rendered := by
    decide +kernel
  obtain ⟨hstore, -, hforetold⟩ := renderAll_dryRun_foretells hs (.inl hroot) hmade
  obtain ⟨-, -, hforetells, hcoming, hends⟩ := hforetold plannedTemplates hlist hnames
  obtain ⟨report, hreport⟩ := hends hencodable
  replace hcoming := (hcoming report hreport).2
  have hfirst : (layoutAt "root").template "a.tmpl" ∈ plannedTemplates := by decide +kernel
  have hsecond : (layoutAt "root").template "b.tmpl" ∈ plannedTemplates := by decide +kernel
  have hthird : (layoutAt "root").template "c.tmpl" ∈ plannedTemplates := by decide +kernel
  exact ⟨(hforetells _ hfirst (hcoming _ hfirst)).failed.1 hfailed,
    (hforetells _ hsecond (hcoming _ hsecond)).skipped.1 hskipped,
    ((hforetells _ hthird (hcoming _ hthird)).rendered.1 hrendered).resolve_left hnot, hstore⟩

/-- A dry run counts two templates as rendered, where the run is stopped by the first and never
comes to the second. -/
theorem renderAll_dryRun_halves :
    (renderAll (layoutAt "root") { vars := halvesVars } halvesTree 1 { dryRun := true }).result =
        .ok { rendered := 2 } ∧
      (renderAll (layoutAt "root") { vars := halvesVars } halvesTree 1 {}).result =
        .error (.host .unencodable) ∧
      (renderAll (layoutAt "root") { vars := halvesVars } halvesTree 1 {}).store.entry?
        ((layoutAt "root").output ((layoutAt "root").template "b.tmpl")) = none := by
  decide +kernel

end MachineConfig.Generated
