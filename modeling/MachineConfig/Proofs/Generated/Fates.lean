import MachineConfig.Proofs.Generated.FootprintLemmas
import MachineConfig.Proofs.Generated.Isolation
import MachineConfig.Proofs.Generated.Preparation

/-!
What becomes of each template of a batch, read off the batch itself: how its report changes as it
goes past the template (`Counts`). Since no template is touched by what is written for another, that
can be told from the tree before the batch and from what is passed over (`counts_iff`), and the
report at the end adds up what has been counted (`result_renderAll_eq_ok_iff`).
-/

namespace MachineConfig.Generated

open Store
open Template (Renderer)

/-- What a template is counted as. -/
inductive Fate where
  | skipped
  | rendered
  | failed
  deriving DecidableEq

/-- A report with one more template. -/
def BatchReport.add (report : BatchReport) (name : String) : Fate → BatchReport
  | .skipped => { report with skipped := report.skipped + 1 }
  | .rendered => { report with rendered := report.rendered + 1 }
  | .failed => { report with failures := report.failures ++ [name] }

variable {l : Layout} {r : Renderer} {now : Int} {mode : BatchMode} {skip : Path → Bool}
  {s t : Store} {b : Batch} {template : Path} {name : String} {ts : List Path} {fate : Fate}

/-- A batch over these templates as it has gone past one of them. -/
def goingPast (l : Layout) (r : Renderer) (now : Int) (mode : BatchMode) (s : Store)
    (ts : List Path) (template : Path) : Batch :=
  (comingTo l r now mode s ts template).step l r now mode template

/-- A batch goes past a template and counts it so. -/
def Counts (l : Layout) (r : Renderer) (now : Int) (mode : BatchMode) (s : Store)
    (ts : List Path) (template : Path) (fate : Fate) : Prop :=
  (goingPast l r now mode s ts template).stop.isNone ∧
    (goingPast l r now mode s ts template).report =
      (comingTo l r now mode s ts template).report.add template.name fate

instance (l : Layout) (r : Renderer) (now : Int) (mode : BatchMode) (s : Store)
    (ts : List Path) (template : Path) (fate : Fate) :
    Decidable (Counts l r now mode s ts template fate) :=
  inferInstanceAs (Decidable (_ ∧ _))

/-- The report that adds up what a batch counts. -/
def counted (l : Layout) (r : Renderer) (now : Int) (mode : BatchMode) (s : Store)
    (ts : List Path) : BatchReport where
  rendered := ts.countP fun template => Counts l r now mode s ts template .rendered
  skipped := ts.countP fun template => Counts l r now mode s ts template .skipped
  failures :=
    (ts.filter fun template => Counts l r now mode s ts template .failed).map Path.name

/-- What an attempt is counted as; one that stops the batch is not counted. -/
def Attempt.fate? : Attempt → Option Fate
  | skipped => some .skipped
  | rendered .. => some .rendered
  | failed .. => some .failed
  | stopped .. => none

theorem Attempt.isSkipped_eq (a : Attempt) : a.isSkipped = decide (a.fate? = some .skipped) := by
  cases a <;> rfl

theorem Attempt.isRendered_eq (a : Attempt) :
    a.isRendered = decide (a.fate? = some .rendered) := by
  cases a <;> rfl

theorem Attempt.isFailed_eq (a : Attempt) : a.isFailed = decide (a.fate? = some .failed) := by
  cases a <;> rfl

theorem BatchReport.add_inj {report : BatchReport} {other : Fate} :
    report.add name fate = report.add name other ↔ fate = other := by
  constructor
  · intro heq
    have hskipped := congrArg BatchReport.skipped heq
    have hrendered := congrArg BatchReport.rendered heq
    cases fate <;> cases other <;> simp [BatchReport.add] at hskipped hrendered ⊢
  · rintro rfl
    rfl

theorem report_record {a : Attempt} (hstop : b.stop = none) (ha : a.fate? = some fate) :
    (b.record now template a).report = b.report.add template.name fate := by
  rw [Batch.record, hstop]
  cases a <;> obtain ⟨rfl⟩ := ha <;> simp [BatchReport.add, Attempt.isRendered, Attempt.isSkipped,
    Attempt.isFailed]

theorem stop?_eq_none_iff {a : Attempt} : a.stop? = none ↔ ∃ fate, a.fate? = some fate := by
  cases a <;> simp [Attempt.stop?, Attempt.fate?]

theorem fate?_attempt_eq_skipped :
    (attempt l r now mode skip s template).fate? = some .skipped ↔ skip template := by
  have hskipped : (attempt l r now mode skip s template).isSkipped = skip template :=
    isSkipped_attempt
  rw [← hskipped, Attempt.isSkipped_eq, decide_eq_true_iff]

theorem fate?_attempt_of_error {cause : Failure} (hskip : skip template = false)
    (h : rendering r s template = .error cause) :
    (attempt l r now mode skip s template).fate? = some .failed := by
  simp only [attempt, hskip, h, Bool.false_eq_true, if_false]
  rfl

theorem fate?_attempt_of_dryRun {x : Template.Rendering} (hdry : mode.dryRun = true)
    (hskip : skip template = false) (h : rendering r s template = .ok x) :
    (attempt l r now mode skip s template).fate? = some .rendered := by
  simp only [attempt, hskip, h, hdry, Bool.false_eq_true, if_false, if_true]
  rfl

/-! ## What is counted -/

section

variable (hplaces : mode.dryRun = true ∨ ∃ base, Places l s base) (hlisted : Listed l ts)
  (htemplate : template ∈ ts)
include hplaces hlisted htemplate

theorem rendering_comingTo :
    rendering r (comingTo l r now mode s ts template).store template = rendering r s template :=
  ((spares_comingTo hplaces hlisted htemplate).agree.rendering_eq r).symm

theorem goingPast_eq_record : goingPast l r now mode s ts template =
    (comingTo l r now mode s ts template).record now template
      (attempt l r now mode (passesOver l r now mode s ts) s template) := by
  have hspares : Spares l now mode template s (comingTo l r now mode s ts template).store :=
    spares_comingTo hplaces hlisted htemplate
  have hplaces' := places_of_sameDirectories hplaces hspares.agree.directories
  obtain ⟨name, hname, -, rfl⟩ := hlisted.template template htemplate
  rw [goingPast, step_eq_record hplaces' hname, ← hspares.agree.attempt_eq rfl]
  rfl

/-- A template is counted as what becomes of it by itself, if the batch comes to it. -/
theorem counts_iff : Counts l r now mode s ts template fate ↔
    (comingTo l r now mode s ts template).stop.isNone ∧
      (attempt l r now mode (passesOver l r now mode s ts) s template).fate? = some fate := by
  rw [Counts, goingPast_eq_record hplaces hlisted htemplate]
  generalize comingTo l r now mode s ts template = before
  generalize attempt l r now mode (passesOver l r now mode s ts) s template = a
  cases hstop : before.stop with
  | some cause => simp [Batch.record, hstop]
  | none =>
    have hafter : (before.record now template a).stop = a.stop? := by rw [Batch.record, hstop]; rfl
    cases hfate : a.fate? with
    | none =>
      have hnone : a.stop? ≠ none := fun hnone => by
        obtain ⟨fate, hsome⟩ := stop?_eq_none_iff.1 hnone
        simp [hfate] at hsome
      simp [hafter, hnone]
    | some made =>
      rw [hafter, stop?_eq_none_iff.2 ⟨made, hfate⟩, report_record hstop hfate,
        BatchReport.add_inj]
      simp

theorem stop_goingPast (hcoming : (comingTo l r now mode s ts template).stop.isNone) :
    (goingPast l r now mode s ts template).stop =
      (attempt l r now mode (passesOver l r now mode s ts) s template).stop? := by
  have hnone := Option.isNone_iff_eq_none.1 hcoming
  rw [goingPast_eq_record hplaces hlisted htemplate, Batch.record, hnone]
  rfl

end

theorem foldl_step_of_isSome (hstop : b.stop.isSome) (ts : List Path) :
    ts.foldl (Batch.step l r now mode) b = b := by
  induction ts with
  | nil => rfl
  | cons template rest ih => rw [List.foldl_cons, Batch.step, if_pos hstop, ih]

/-- A batch that comes to its end comes to every template. -/
theorem stop_comingTo (htemplate : template ∈ ts)
    (hstop : (renderEach l r now mode s ts).stop = none) :
    (comingTo l r now mode s ts template).stop.isNone := by
  obtain ⟨rest, hrest⟩ := (List.prefix_append _ _).trans (prefix_takeWhile_append htemplate)
  rw [← hrest, renderEach, List.foldl_append] at hstop
  change (rest.foldl (Batch.step l r now mode) (comingTo l r now mode s ts template)).stop = none
    at hstop
  rw [← Option.not_isSome, Bool.not_eq_true', Bool.eq_false_iff]
  intro hstopped
  rw [foldl_step_of_isSome hstopped] at hstop
  rw [hstop] at hstopped
  cases hstopped

/-- The report of a batch that comes to its end adds up what has been counted. -/
theorem report_renderEach (hplaces : mode.dryRun = true ∨ ∃ base, Places l s base)
    (hlisted : Listed l ts) (hstop : (renderEach l r now mode s ts).stop = none) :
    (renderEach l r now mode s ts).report = counted l r now mode s ts := by
  have hskip := @decides_passesOver l r now mode s ts
  have hcounts : ∀ fate, ∀ p ∈ ts,
      decide ((attempt l r now mode (passesOver l r now mode s ts) s p).fate? = some fate) =
        decide (Counts l r now mode s ts p fate) := by
    intro fate p hp
    rw [decide_eq_decide, counts_iff hplaces hlisted hp]
    exact (and_iff_right (stop_comingTo hp hstop)).symm
  generalize passesOver l r now mode s ts = skip at hskip hcounts
  have hcountP : ∀ fate, (ts.countP fun p => (attempt l r now mode skip s p).fate? = some fate) =
      ts.countP fun p => Counts l r now mode s ts p fate :=
    fun fate => List.countP_congr fun p hp => by rw [hcounts fate p hp]
  have hall := hstop
  rw [stop_renderEach hplaces hlisted hskip, List.findSome?_eq_none_iff] at hall
  rw [renderEach_eq hplaces hlisted hskip hall]
  simp only [counted, Attempt.isSkipped_eq, Attempt.isRendered_eq, Attempt.isFailed_eq, hcountP,
    List.filter_congr (hcounts .failed)]

/-- A batch comes to its end exactly where it comes to a report, which then is what it has
counted. -/
theorem result_renderAll_eq_ok_iff {prepared : Store} {report : BatchReport} (hs : s.IsTree)
    (hprepare : prepare l now mode s = (prepared, .ok ())) (hlist : templates l prepared = .ok ts) :
    (renderAll l r s now mode).result = .ok report ↔
      (renderEach l r now mode prepared ts).stop = none ∧
        report = counted l r now mode prepared ts := by
  have hplaces := places_of_prepare hprepare
  have hlisted := listed_templates (isTree_of_prepare hs hprepare) hlist
  rw [renderAll_of_prepare hprepare hlist, Batch.outcome]
  cases hstop : (renderEach l r now mode prepared ts).stop with
  | some cause => simp
  | none => simp [report_renderEach hplaces hlisted hstop, eq_comm]

/-- Nothing stops a batch whose renderings can be encoded in the tree before it. -/
theorem stop_renderEach_of_isEncodable {prepared : Store} (hs : s.IsTree)
    (hprepare : prepare l now mode s = (prepared, .ok ())) (hlist : templates l s = .ok ts)
    (hencodable : IsEncodable r s mode ts) : (renderEach l r now mode prepared ts).stop = none := by
  have hplaces := places_of_prepare hprepare
  have hlisted := listed_templates hs hlist
  have hprepared : IsEncodable r prepared mode ts := by
    intro hwritten template htemplate x hx
    rw [rendering_of_mem hs hlist htemplate hprepare] at hx
    exact hencodable hwritten template htemplate x hx
  rw [stop_renderEach hplaces hlisted decides_passesOver, List.findSome?_eq_none_iff]
  exact stop?_attempt_of_mem hplaces hlisted hprepared now _

end MachineConfig.Generated
