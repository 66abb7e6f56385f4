import MachineConfig.Proofs.Generated.AttemptLemmas

/-!
A batch is the sum of what becomes of its templates one by one (`renderEach_eq`): no template is
touched by what is written for another, so that every attempt can be told from the tree that the
batch starts with. Only whether a template is passed over is told from the tree in which the batch
comes to it (`Decides`), for a directory in the place of a generated file changes when something is
written in it; where that does not count (`IsSteady`), this too can be told before the batch
(`decides_of_isSteady`).
-/

namespace MachineConfig.Generated

open Store
open Template (Renderer Rendering)

variable {l : Layout} {r : Renderer} {now : Int} {mode : BatchMode} {skip skip' : Path → Bool}
  {s t : Store} {b : Batch} {base location template other p : Path} {name : String}
  {file : RegularFile} {ts : List Path}

/-- The files that a batch writes. -/
def changesOf (l : Layout) (r : Renderer) (now : Int) (mode : BatchMode) (skip : Path → Bool)
    (s : Store) (ts : List Path) : List (Path × RegularFile) :=
  ts.filterMap fun template => (attempt l r now mode skip s template).change?

/-- The directories that a batch writes in. -/
def touchedBy (l : Layout) (r : Renderer) (now : Int) (mode : BatchMode) (skip : Path → Bool)
    (s : Store) (ts : List Path) : List Path :=
  ts.filterMap fun template => (attempt l r now mode skip s template).touched?

/-- A batch with one more attempt, unless it has been stopped. -/
def Batch.record (b : Batch) (now : Int) (template : Path) (a : Attempt) : Batch :=
  if b.stop.isSome then b
  else
    { report :=
        { rendered := b.report.rendered + a.isRendered.toNat
          skipped := b.report.skipped + a.isSkipped.toNat
          failures := b.report.failures ++ if a.isFailed then [template.name] else [] }
      events := b.events ++ a.told
      store := (putFiles b.store a.change?.toList).touchAll now a.touched?.toList
      stop := a.stop? }

section

variable (hstop : b.stop = none) (now : Int) (template : Path) (told : List Event)
  (touched : Option Path)
include hstop

theorem record_skipped : b.record now template .skipped =
    { b with report := { b.report with skipped := b.report.skipped + 1 } } := by
  simp [Batch.record, hstop, Attempt.isRendered, Attempt.isSkipped, Attempt.isFailed, Attempt.told,
    Attempt.change?, Attempt.touched?, Attempt.stop?, putFiles]

theorem record_rendered (change : Option (Path × RegularFile)) :
    b.record now template (.rendered told change touched) =
      { report := { b.report with rendered := b.report.rendered + 1 }
        events := b.events ++ told
        store := (putFiles b.store change.toList).touchAll now touched.toList } := by
  simp [Batch.record, hstop, Attempt.isRendered, Attempt.isSkipped, Attempt.isFailed, Attempt.told,
    Attempt.change?, Attempt.touched?, Attempt.stop?]

theorem record_failed : b.record now template (.failed told touched) =
    { report := { b.report with failures := b.report.failures ++ [template.name] }
      events := b.events ++ told
      store := b.store.touchAll now touched.toList } := by
  simp [Batch.record, hstop, Attempt.isRendered, Attempt.isSkipped, Attempt.isFailed, Attempt.told,
    Attempt.change?, Attempt.touched?, Attempt.stop?, putFiles]

theorem record_stopped (cause : Failure) : b.record now template (.stopped told cause touched) =
    { b with
      events := b.events ++ told
      store := b.store.touchAll now touched.toList
      stop := some cause } := by
  simp [Batch.record, hstop, Attempt.isRendered, Attempt.isSkipped, Attempt.isFailed, Attempt.told,
    Attempt.change?, Attempt.touched?, Attempt.stop?, putFiles]

end

theorem toList_touched_of_isLate (refusal : Refusal) (directory : Option Path) (s : Store) :
    s.touchAll now (if refusal.isLate then directory else none).toList =
      if refusal.isLate then s.touchAll now directory.toList else s := by
  split <;> rfl

/-- Going on with a template records the attempt at it. -/
theorem step_eq_record (h : mode.dryRun = true ∨ ∃ base, Places l b.store base)
    (hname : IsName name) :
    Batch.step l r now mode b (l.template name) =
      b.record now (l.template name)
        (attempt l r now mode (skips l mode b.store) b.store (l.template name)) := by
  rw [Batch.step]
  by_cases hstop : b.stop.isSome
  · simp only [hstop, if_true, Batch.record]
  have hnone : b.stop = none := Option.not_isSome_iff_eq_none.1 hstop
  simp only [if_neg hstop, renderFile_eq h hname, attempt]
  by_cases hskip : skips l mode b.store (l.template name)
  · rw [if_pos hskip, record_skipped hnone]
    exact if_pos hskip
  rw [if_neg hskip]
  refine (if_neg hskip).trans ?_
  cases hrendering : rendering r b.store (l.template name) with
  | error cause => simp [record_failed hnone, isIsolated_of_rendering hrendering]
  | ok x =>
    by_cases hdry : mode.dryRun = true
    · simp [hdry, record_rendered hnone, putFiles]
    simp only [if_neg hdry]
    rcases b.store.replacement now (l.output (l.template name)) x.text with
      refusal | ⟨location, file⟩
    · by_cases hisolated : (Failure.host refusal.fault).isIsolated
      · simp [hisolated, record_failed hnone, toList_touched_of_isLate]
      · simp [hisolated, record_stopped hnone, toList_touched_of_isLate]
    · simp [record_rendered hnone, putFiles]

theorem putFiles_touchAll (s : Store) (now : Int) (directories : List Path)
    (changes : List (Path × RegularFile)) :
    putFiles (s.touchAll now directories) changes =
      (putFiles s changes).touchAll now directories := by
  induction changes generalizing s with
  | nil => rfl
  | cons change changes ih => exact ih (s.put change.1 (.file change.2))

theorem places_of_sameDirectories (hplaces : mode.dryRun = true ∨ ∃ base, Places l s base)
    (hsame : SameDirectories s t) : mode.dryRun = true ∨ ∃ base, Places l t base :=
  hplaces.imp_right fun ⟨base, hbase⟩ => ⟨base, hbase.of_sameDirectories hsame⟩

section

variable (hplaces : mode.dryRun = true ∨ ∃ base, Places l b.store base)
  (hlisted : Listed l (template :: ts))
include hplaces hlisted

theorem sameDirectories_step : SameDirectories b.store (b.step l r now mode template).store := by
  obtain ⟨name, hname, -, rfl⟩ := hlisted.template template (List.mem_cons_self ..)
  rw [step_eq_record hplaces hname, Batch.record]
  split
  · exact .refl b.store
  · exact (sameDirectories_of_change b.store _).touchAll ..

theorem places_step :
    mode.dryRun = true ∨ ∃ base, Places l (b.step l r now mode template).store base :=
  places_of_sameDirectories hplaces (sameDirectories_step hplaces hlisted)

end

/-! ## What is passed over -/

/-- A batch over these templates as it comes to one of them. -/
def comingTo (l : Layout) (r : Renderer) (now : Int) (mode : BatchMode) (s : Store)
    (ts : List Path) (template : Path) : Batch :=
  renderEach l r now mode s (ts.takeWhile (· ≠ template))

/-- A batch over these templates passes one of them over when it comes to it. -/
def passesOver (l : Layout) (r : Renderer) (now : Int) (mode : BatchMode) (s : Store)
    (ts : List Path) (template : Path) : Bool :=
  skips l mode (comingTo l r now mode s ts template).store template

/-- These are the templates that a batch passes over. -/
def Decides (l : Layout) (r : Renderer) (now : Int) (mode : BatchMode) (s : Store)
    (ts : List Path) (skip : Path → Bool) : Prop :=
  ∀ template ∈ ts, skip template = passesOver l r now mode s ts template

theorem decides_passesOver : Decides l r now mode s ts (passesOver l r now mode s ts) :=
  fun _ _ => rfl

theorem AgreeOn.skips_eq (h : AgreeOn l template s t) (htimes : s.times = t.times) :
    skips l mode s template = skips l mode t template := by
  rw [skips, skips, h.isUpToDate_eq htimes]

/-- A batch does not change whether it passes a template over: where this leaves nothing to name a
file by, so that its output falls on a directory, it does not count that the batch writes in this
one. -/
def IsSteadyAt (l : Layout) (now : Int) (mode : BatchMode) (s : Store) (template : Path) : Prop :=
  mode.dryRun = false → l.outputName template.name ∈ ["", ".", ".."] →
    ∀ directory, s.locate (l.output template) = .ok directory →
      skips l mode (s.touch now directory) template = skips l mode s template

instance (l : Layout) (now : Int) (mode : BatchMode) (s : Store) (template : Path) :
    Decidable (IsSteadyAt l now mode s template) :=
  decidable_of_iff (mode.dryRun = false → l.outputName template.name ∈ ["", ".", ".."] →
      ((s.locate (l.output template)).toOption.all fun directory =>
        skips l mode (s.touch now directory) template = skips l mode s template) = true) <| by
    refine imp_congr_right fun _ => imp_congr_right fun _ => ?_
    cases s.locate (l.output template) with
    | error obstacle => simp [Except.toOption]
    | ok directory =>
      rw [Except.toOption, Option.all_some, decide_eq_true_iff]
      exact ⟨fun h _ heq => Except.ok.inj heq ▸ h, fun h => h directory rfl⟩

/-- A batch does not change what it passes over. -/
def IsSteady (l : Layout) (now : Int) (mode : BatchMode) (s : Store) (ts : List Path) : Prop :=
  ∀ template ∈ ts, IsSteadyAt l now mode s template

instance (l : Layout) (now : Int) (mode : BatchMode) (s : Store) (ts : List Path) :
    Decidable (IsSteady l now mode s ts) :=
  inferInstanceAs (Decidable (∀ _ ∈ _, _))

theorem isSteady_of_force (h : mode.force = true) : IsSteady l now mode s ts := by
  intro _ _ _ _ _ _
  rw [skips, skips, h]
  rfl

theorem IsSteadyAt.of_agreeOn (h : IsSteadyAt l now mode s template)
    (hagree : AgreeOn l template s t) (htimes : s.times = t.times) :
    IsSteadyAt l now mode t template := by
  intro hdry hnothing directory hlocate
  rw [← hagree.directories.locate_eq] at hlocate
  have htouched : AgreeOn l template (s.touchAll now [directory]) (t.touchAll now [directory]) :=
    (hagree.touchAll_left now _).touchAll now _
  have htimes' : (s.touchAll now [directory]).times = (t.touchAll now [directory]).times :=
    congrArg (Table.insertAll · _) htimes
  rw [← hagree.skips_eq htimes, touch_eq_touchAll, ← htouched.skips_eq htimes']
  exact h hdry hnothing directory hlocate

theorem isSteadyAt_of_name (h : l.outputName template.name ∉ ["", ".", ".."]) :
    IsSteadyAt l now mode s template :=
  fun _ hnothing => (h hnothing).elim

/-- Where two trees have the same times for a template and its generated file, it is as new in both.
-/
theorem isUpToDate_congr {output : Path} (hsource : s.time? template = t.time? template)
    (houtput : s.time? output = t.time? output) :
    isUpToDate s template output = isUpToDate t template output := by
  rw [isUpToDate, isUpToDate, hsource, houtput]

section

variable {directories : List Path}

theorem time?_touchAll_of_not_mem
    (h : ∀ location, s.locate p = .ok location → location ∉ directories) (now : Int) :
    (s.touchAll now directories).time? p = s.time? p := by
  rw [time?, time?, locate_touchAll]
  cases hlocate : s.locate p with
  | error obstacle => rfl
  | ok location => exact timeAt?_touchAll_of_not_mem (h location hlocate) now

theorem time?_touchAll_of_mem (hlocate : s.locate p = .ok location)
    (h : location ∈ directories) (now : Int) :
    (s.touchAll now directories).time? p = (s.touch now location).time? p := by
  rw [time?, time?, locate_touchAll, touch_eq_touchAll, locate_touchAll, hlocate]
  exact timeAt?_touchAll_of_mem h now

theorem IsWorkplace.eq (h : IsWorkplace l s location) (hbase : Places l s base) :
    location = base ∨ location = base.below ["generated"] :=
  h.imp (fun hroot => Except.ok.inj (hroot.symm.trans hbase.locate_root))
    (fun hgenerated => Except.ok.inj (hgenerated.symm.trans hbase.locate_generatedDir))

/-- A batch writes in no place that lies deeper. -/
theorem IsWorkplace.ne_below (h : IsWorkplace l s location) (hbase : Places l s base)
    {first second : String} {names : List String} :
    location ≠ base.below (first :: second :: names) := by
  rintro rfl
  rcases h.eq hbase with heq | heq
  · exact Path.ne_below_of_ne_nil (List.cons_ne_nil _ _) heq
  · simp at heq

/-- The output of a template that a batch writes in has no name of its own. -/
theorem outputName_of_isWorkplace (hbase : Places l s base) (hlisted : Listed l ts)
    (htemplate : template ∈ ts) (hlocate : s.locate (l.output template) = .ok location)
    (hworkplace : IsWorkplace l s location) :
    l.outputName template.name ∈ ["", ".", ".."] := by
  obtain ⟨name, hname, -, rfl⟩ := hlisted.template template htemplate
  by_contra hproper
  have houtput := isName_outputName hlisted htemplate hproper
  rw [Layout.name_template hname] at houtput
  rw [Layout.output_of_isName hname houtput] at hlocate
  have hnames : ".." ∉ ["generated", l.outputName name] := by simp [Ne.symm houtput.ne_above]
  obtain rfl := eq_below_of_locate hbase.walk_root hnames hlocate
  exact hworkplace.ne_below hbase rfl

/-- What a batch writes in is nothing to whether it passes a template over, if it is steady. -/
theorem skips_touchAll (hplaces : mode.dryRun = true ∨ ∃ base, Places l s base)
    (hsteady : IsSteadyAt l now mode s template) (hlisted : Listed l ts) (htemplate : template ∈ ts)
    (hdirectories : ∀ d ∈ directories, mode.dryRun = false ∧ IsWorkplace l s d) :
    skips l mode (s.touchAll now directories) template = skips l mode s template := by
  by_cases hnone : directories = []
  · rw [hnone, touchAll_nil]
  obtain ⟨first, hfirst⟩ := List.exists_mem_of_ne_nil _ hnone
  have hdry := (hdirectories first hfirst).1
  obtain ⟨base, hbase⟩ := hplaces.resolve_left (by simp [hdry])
  have hsource (ds : List Path) (hds : ds ⊆ directories) :
      (s.touchAll now ds).time? template = s.time? template := by
    obtain ⟨name, hname, -, rfl⟩ := hlisted.template template htemplate
    refine time?_touchAll_of_not_mem (fun location hlocate hmem => ?_) now
    obtain rfl := hbase.locate_template hname hlocate
    exact (hdirectories _ (hds hmem)).2.ne_below hbase rfl
  by_cases houtput : ∃ d ∈ directories, s.locate (l.output template) = .ok d
  · obtain ⟨d, hd, hlocate⟩ := houtput
    have hnothing := outputName_of_isWorkplace hbase hlisted htemplate hlocate (hdirectories d hd).2
    rw [← hsteady hdry hnothing d hlocate, skips, skips]
    refine congrArg (!mode.force && ·) (isUpToDate_congr ?_ (time?_touchAll_of_mem hlocate hd now))
    exact (hsource _ (List.Subset.refl _)).trans (hsource [d] (by simpa using hd)).symm
  · rw [skips, skips]
    refine congrArg (!mode.force && ·) (isUpToDate_congr (hsource _ (List.Subset.refl _)) ?_)
    exact time?_touchAll_of_not_mem (fun d hlocate hd => houtput ⟨d, hd, hlocate⟩) now

end

/-! ## What the other templates leave in place -/

theorem times_putFiles (s : Store) (changes : List (Path × RegularFile)) :
    (putFiles s changes).times = s.times := by
  induction changes generalizing s with
  | nil => rfl
  | cons change changes ih => exact ih _

/-- A template and its generated file are as they were; the directories that a batch works in may
have been written in. -/
structure Spares (l : Layout) (now : Int) (mode : BatchMode) (template : Path) (s t : Store) :
    Prop where
  agree : AgreeOn l template s t
  times : ∃ directories, (∀ d ∈ directories, mode.dryRun = false ∧ IsWorkplace l s d) ∧
    t.times = (s.touchAll now directories).times

namespace Spares

theorem refl (s : Store) : Spares l now mode template s s := ⟨.refl template s, [], nofun, rfl⟩

theorem trans {u : Store} (h : Spares l now mode template s t)
    (h' : Spares l now mode template t u) : Spares l now mode template s u := by
  obtain ⟨ds, hds, htimes⟩ := h.times
  obtain ⟨more, hmore, htimes'⟩ := h'.times
  refine ⟨h.agree.trans h'.agree, ds ++ more, fun d hd => ?_, ?_⟩
  · rcases List.mem_append.1 hd with hd | hd
    · exact hds d hd
    · rw [IsWorkplace, h.agree.directories.locate_eq, h.agree.directories.locate_eq]
      exact hmore d hd
  · rw [htimes', ← touchAll_touchAll, touchAll, touchAll, htimes]

/-- What is passed over can be told before. -/
theorem skips_eq (h : Spares l now mode template s t)
    (hplaces : mode.dryRun = true ∨ ∃ base, Places l s base)
    (hsteady : IsSteadyAt l now mode s template) (hlisted : Listed l ts)
    (htemplate : template ∈ ts) : skips l mode t template = skips l mode s template := by
  obtain ⟨ds, hds, htimes⟩ := h.times
  rw [← skips_touchAll hplaces hsteady hlisted htemplate hds,
    (h.agree.touchAll_left now ds).skips_eq htimes.symm]

/-- One attempt spares the other templates. -/
theorem attempt (hplaces : mode.dryRun = true ∨ ∃ base, Places l s base)
    (hlisted : Listed l (template :: ts)) (hother : other ∈ ts) :
    Spares l now mode other s
      ((putFiles s (attempt l r now mode skip s template).change?.toList).touchAll now
        (Generated.attempt l r now mode skip s template).touched?.toList) := by
  obtain ⟨name, hname, -, rfl⟩ := hlisted.template template (List.mem_cons_self ..)
  refine ⟨(agreeOn_of_change hplaces hlisted hother).touchAll .., _, fun d hd => ?_,
    congrArg (Table.insertAll · _) (times_putFiles ..)⟩
  exact isWorkplace_of_touched? hplaces hname (Option.mem_toList.1 hd)

theorem step (hplaces : mode.dryRun = true ∨ ∃ base, Places l b.store base)
    (hlisted : Listed l (template :: ts)) (hother : other ∈ ts) :
    Spares l now mode other b.store (b.step l r now mode template).store := by
  obtain ⟨name, hname, -, rfl⟩ := hlisted.template template (List.mem_cons_self ..)
  rw [step_eq_record hplaces hname, Batch.record]
  split
  · exact refl b.store
  · exact Spares.attempt hplaces hlisted hother

theorem foldl_step (hplaces : mode.dryRun = true ∨ ∃ base, Places l b.store base)
    (hlisted : Listed l (ts ++ [other])) :
    Spares l now mode other b.store (ts.foldl (Batch.step l r now mode) b).store := by
  induction ts generalizing b with
  | nil => exact refl b.store
  | cons template rest ih =>
    have hfirst : Spares l now mode other b.store (b.step l r now mode template).store :=
      step hplaces hlisted (by simp)
    exact hfirst.trans (ih (places_step hplaces hlisted) hlisted.tail)

end Spares

/-! ## Whole batches -/

/-- What is done to other templates before a batch comes to one. -/
theorem takeWhile_eq_of_nodup {front back : List Path}
    (hnodup : (front ++ template :: back).Nodup) :
    (front ++ template :: back).takeWhile (· ≠ template) = front := by
  have hfront : ∀ p ∈ front, decide (p ≠ template) = true := fun p hp => by
    simpa using (List.nodup_append.1 hnodup).2.2 p hp template (List.mem_cons_self ..)
  rw [List.takeWhile_append_of_pos hfront, List.takeWhile_cons, if_neg (by simp), List.append_nil]

theorem prefix_takeWhile_append (htemplate : template ∈ ts) :
    ts.takeWhile (· ≠ template) ++ [template] <+: ts := by
  induction ts with
  | nil => cases htemplate
  | cons first rest ih =>
    by_cases hfirst : first = template
    · subst hfirst
      simp
    · rw [List.takeWhile_cons, if_pos (by simpa using hfirst), List.cons_append,
        List.prefix_cons_inj]
      exact ih ((List.mem_cons.1 htemplate).resolve_left (Ne.symm hfirst))

theorem Listed.of_prefix {front : List Path} (h : Listed l ts) (hfront : front <+: ts) :
    Listed l front :=
  ⟨h.nodup.sublist hfront.sublist, fun p hp => h.template p (hfront.subset hp)⟩

/-- What templates come to one after the other can be told from the tree before the first, but for
what is passed over. -/
theorem foldl_step_eq (hplaces : mode.dryRun = true ∨ ∃ base, Places l b.store base)
    (hlisted : Listed l ts) (hagree : ∀ template ∈ ts, AgreeOn l template s b.store)
    (hskip : ∀ front template back, ts = front ++ template :: back →
      skip template = skips l mode (front.foldl (Batch.step l r now mode) b).store template) :
    ts.foldl (Batch.step l r now mode) b =
      ts.foldl
        (fun b template => b.record now template (attempt l r now mode skip s template)) b := by
  induction ts generalizing b with
  | nil => rfl
  | cons template rest ih =>
    have hfirst : b.step l r now mode template =
        b.record now template (attempt l r now mode skip s template) := by
      obtain ⟨name, hname, -, rfl⟩ := hlisted.template template (List.mem_cons_self ..)
      have hagree' := hagree _ (List.mem_cons_self ..)
      rw [step_eq_record hplaces hname, hagree'.attempt_eq (hskip [] _ rest rfl)]
      rfl
    have hspares : ∀ other ∈ rest,
        Spares l now mode other b.store (b.step l r now mode template).store :=
      fun other hother => .step hplaces hlisted hother
    rw [List.foldl_cons, List.foldl_cons, ← hfirst]
    refine ih (places_step hplaces hlisted) hlisted.tail (fun other hother => ?_)
      fun front other back heq => ?_
    · exact (hagree other (List.mem_cons_of_mem _ hother)).trans (hspares other hother).agree
    · exact hskip (template :: front) other back (by rw [heq, List.cons_append])

theorem stop_foldl_record (outcome : Path → Attempt) (b : Batch) (now : Int) (ts : List Path) :
    (ts.foldl (fun b template => b.record now template (outcome template)) b).stop =
      b.stop.or (ts.findSome? fun template => (outcome template).stop?) := by
  induction ts generalizing b with
  | nil => simp
  | cons template rest ih =>
    rw [List.foldl_cons, ih, List.findSome?_cons, Batch.record]
    cases hstop : b.stop with
    | some cause => simp [hstop]
    | none => cases (outcome template).stop? <;> simp

theorem filterMap_cons_eq_append {α β : Type} (f : α → Option β) (a : α) (as : List α) :
    (a :: as).filterMap f = (f a).toList ++ as.filterMap f := by
  rw [List.filterMap_cons]
  cases f a <;> rfl

theorem foldl_record (outcome : Path → Attempt) (hstop : b.stop = none)
    (hall : ∀ template ∈ ts, (outcome template).stop? = none) :
    ts.foldl (fun b template => b.record now template (outcome template)) b =
      { report :=
          { rendered := b.report.rendered + ts.countP fun template => (outcome template).isRendered
            skipped := b.report.skipped + ts.countP fun template => (outcome template).isSkipped
            failures := b.report.failures ++
              (ts.filter fun template => (outcome template).isFailed).map Path.name }
        events := b.events ++ ts.flatMap fun template => (outcome template).told
        store :=
          (putFiles b.store (ts.filterMap fun template => (outcome template).change?)).touchAll now
            (ts.filterMap fun template => (outcome template).touched?) } := by
  induction ts generalizing b with
  | nil =>
    obtain ⟨⟨rendered, skipped, failures⟩, events, store, stop⟩ := b
    obtain rfl : stop = none := hstop
    simp [putFiles]
  | cons template rest ih =>
    rw [List.forall_mem_cons] at hall
    have hnext : (b.record now template (outcome template)).stop = none := by
      rw [Batch.record, hstop]
      exact hall.1
    rw [List.foldl_cons, ih hnext hall.2]
    simp only [Batch.record, hstop, Option.isSome_none, Bool.false_eq_true, if_false]
    refine (Batch.mk.injEq ..).mpr ⟨?_, List.append_assoc .., ?_, rfl⟩
    · simp only [List.countP_cons, List.filter_cons]
      cases outcome template <;>
        simp [Attempt.isRendered, Attempt.isSkipped, Attempt.isFailed, Nat.add_assoc, Nat.add_comm]
    · rw [filterMap_cons_eq_append, filterMap_cons_eq_append, putFiles_touchAll, touchAll_touchAll]
      simp only [putFiles, List.foldl_append]

section

variable (hplaces : mode.dryRun = true ∨ ∃ base, Places l s base) (hlisted : Listed l ts)
  (hskip : Decides l r now mode s ts skip)
include hplaces hlisted hskip

theorem renderEach_eq_foldl : renderEach l r now mode s ts =
    ts.foldl (fun b template => b.record now template (attempt l r now mode skip s template))
      { store := s } := by
  refine foldl_step_eq hplaces hlisted (fun template _ => .refl template s)
    fun front template back heq => ?_
  have hmem : template ∈ ts := by simp [heq]
  have hfront : ts.takeWhile (· ≠ template) = front := by
    rw [heq]
    exact takeWhile_eq_of_nodup (heq ▸ hlisted.nodup)
  rw [hskip template hmem, passesOver, comingTo, renderEach, hfront]

/-- A batch that nothing stops is the sum of its attempts. -/
theorem renderEach_eq
    (hall : ∀ template ∈ ts, (attempt l r now mode skip s template).stop? = none) :
    renderEach l r now mode s ts =
      { report :=
          { rendered := ts.countP fun template => (attempt l r now mode skip s template).isRendered
            skipped := ts.countP fun template => (attempt l r now mode skip s template).isSkipped
            failures := (ts.filter fun template =>
              (attempt l r now mode skip s template).isFailed).map Path.name }
        events := ts.flatMap fun template => (attempt l r now mode skip s template).told
        store := (putFiles s (changesOf l r now mode skip s ts)).touchAll now
          (touchedBy l r now mode skip s ts) } := by
  rw [renderEach_eq_foldl hplaces hlisted hskip, foldl_record _ rfl hall]
  simp [changesOf, touchedBy]

theorem stop_renderEach : (renderEach l r now mode s ts).stop =
    ts.findSome? fun template => (attempt l r now mode skip s template).stop? := by
  rw [renderEach_eq_foldl hplaces hlisted hskip, stop_foldl_record]
  rfl

end

/-- A batch comes to a template and finds it as it was before. -/
theorem spares_comingTo (hplaces : mode.dryRun = true ∨ ∃ base, Places l s base)
    (hlisted : Listed l ts) (htemplate : template ∈ ts) :
    Spares l now mode template s (comingTo l r now mode s ts template).store :=
  Spares.foldl_step (b := { store := s }) hplaces
    (hlisted.of_prefix (prefix_takeWhile_append htemplate))

/-- What is passed over steadily can be told from the tree before the batch. -/
theorem passesOver_eq_skips (hplaces : mode.dryRun = true ∨ ∃ base, Places l s base)
    (hsteady : IsSteadyAt l now mode s template) (hlisted : Listed l ts)
    (htemplate : template ∈ ts) :
    passesOver l r now mode s ts template = skips l mode s template :=
  (spares_comingTo hplaces hlisted htemplate).skips_eq hplaces hsteady hlisted htemplate

theorem decides_of_isSteady (hplaces : mode.dryRun = true ∨ ∃ base, Places l s base)
    (hsteady : IsSteady l now mode s ts) (hlisted : Listed l ts) (r : Renderer) :
    Decides l r now mode s ts (skips l mode s) := fun template htemplate =>
  (passesOver_eq_skips hplaces (hsteady template htemplate) hlisted htemplate).symm

/-! ## The tree after a batch -/

theorem isWorkplace_of_mem_touchedBy (hplaces : mode.dryRun = true ∨ ∃ base, Places l s base)
    (hlisted : Listed l ts) (h : location ∈ touchedBy l r now mode skip s ts) :
    mode.dryRun = false ∧ IsWorkplace l s location := by
  obtain ⟨template, htemplate, htouched⟩ := List.mem_filterMap.1 h
  obtain ⟨name, hname, -, rfl⟩ := hlisted.template template htemplate
  exact isWorkplace_of_touched? hplaces hname htouched

section

variable {changes : List (Path × RegularFile)}

theorem at?_putFiles_of_forall_ne (h : ∀ change ∈ changes, location ≠ change.1) (s : Store) :
    (putFiles s changes).at? location = s.at? location := by
  induction changes generalizing s with
  | nil => rfl
  | cons change changes ih =>
    rw [List.forall_mem_cons] at h
    exact (ih h.2 _).trans (at?_put_of_ne h.1)

theorem namesIn_putFiles_of_forall_ne {directory : Path}
    (h : ∀ change ∈ changes, change.1.parent ≠ directory) (s : Store) :
    (putFiles s changes).namesIn directory = s.namesIn directory := by
  induction changes generalizing s with
  | nil => rfl
  | cons change changes ih =>
    rw [List.forall_mem_cons] at h
    exact (ih h.2 _).trans (namesIn_put_of_ne h.1 _)

theorem sameDirectories_putFiles (h : ∀ change ∈ changes, s.at? change.1 ≠ some .directory) :
    SameDirectories s (putFiles s changes) := by
  induction changes generalizing s with
  | nil => exact .refl s
  | cons change changes ih =>
    rw [List.forall_mem_cons] at h
    have hfirst := sameDirectories_put h.1 change.2
    refine hfirst.trans (ih fun other hother => ?_)
    rw [ne_eq, ← hfirst.directory]
    exact h.2 other hother

end

theorem mem_changesOf {change : Path × RegularFile} : change ∈ changesOf l r now mode skip s ts ↔
    ∃ template ∈ ts, (attempt l r now mode skip s template).change? = some change :=
  List.mem_filterMap

theorem sameDirectories_changesOf (s : Store) (ts : List Path) :
    SameDirectories s (putFiles s (changesOf l r now mode skip s ts)) := by
  refine sameDirectories_putFiles fun change hchange => ?_
  obtain ⟨template, -, hchange⟩ := mem_changesOf.1 hchange
  exact (locate_of_change? hchange).2

section

variable (hplaces : mode.dryRun = true ∨ ∃ base, Places l s base) (hlisted : Listed l ts)
include hplaces hlisted

theorem ne_of_change? (htemplate : template ∈ ts) (hother : other ∈ ts) (hne : template ≠ other)
    (hchange : (attempt l r now mode skip s template).change? = some (p, file))
    (hlocate : s.locate (l.output other) = .ok location) : location ≠ p := by
  rintro rfl
  obtain ⟨hdry, -⟩ := exists_of_change? hchange
  obtain ⟨base, hplaces⟩ := hplaces.resolve_left (by simp [hdry])
  obtain ⟨houtput, hplace⟩ := locate_of_change? hchange
  obtain ⟨name, hname, hends, rfl⟩ := hlisted.template template htemplate
  obtain ⟨otherName, hotherName, hends', rfl⟩ := hlisted.template other hother
  exact hne (congrArg l.template
    (hplaces.template_inj hname hotherName hends hends' houtput hlocate hplace))

/-- After a batch a generated file is what the attempt at its template wrote, or as it was. -/
theorem at?_changesOf_output (htemplate : template ∈ ts)
    (hlocate : s.locate (l.output template) = .ok location) :
    (putFiles s (changesOf l r now mode skip s ts)).at? location =
      ((attempt l r now mode skip s template).change?.map fun change => .file change.2).or
        (s.at? location) := by
  have hmain : ∀ rest ⊆ ts, rest.Nodup → ∀ u : Store,
      (putFiles u (changesOf l r now mode skip s rest)).at? location =
        (if template ∈ rest then
          (attempt l r now mode skip s template).change?.map fun change => Entry.file change.2
        else none).or (u.at? location) := by
    intro rest hrest hnodup u
    induction rest generalizing u with
    | nil => simp [changesOf, putFiles]
    | cons first rest ih =>
      rw [List.nodup_cons] at hnodup
      have hfirst : first ∈ ts := hrest (List.mem_cons_self ..)
      replace ih := ih (fun p hp => hrest (List.mem_cons_of_mem _ hp)) hnodup.2
      rw [changesOf, List.filterMap_cons]
      cases hchange : (attempt l r now mode skip s first).change? with
      | none =>
        refine (ih u).trans ?_
        by_cases heq : template = first
        · simp [heq, hchange]
        · simp [heq]
      | some change =>
        refine (ih (u.put change.1 (.file change.2))).trans ?_
        by_cases heq : template = first
        · subst heq
          obtain ⟨hplace, hdirectory⟩ := locate_of_change? hchange
          obtain rfl := Except.ok.inj (hlocate.symm.trans hplace)
          simp [hnodup.1, hchange, at?_put_self (names_ne_nil_of_at?_ne_directory hdirectory)]
        · have hne : location ≠ change.1 :=
            ne_of_change? hplaces hlisted hfirst htemplate (Ne.symm heq) hchange hlocate
          simp [heq, at?_put_of_ne hne]
  simpa [htemplate] using hmain ts (List.Subset.refl ts) hlisted.nodup s

theorem at?_of_change? (htemplate : template ∈ ts)
    (hchange : (attempt l r now mode skip s template).change? = some (location, file)) :
    (putFiles s (changesOf l r now mode skip s ts)).at? location = some (.file file) := by
  rw [at?_changesOf_output hplaces hlisted htemplate (locate_of_change? hchange).1, hchange]
  rfl

/-- A file that is written lies where the generated file of its template does. -/
theorem regularFile?_of_change? (htemplate : template ∈ ts)
    (hchange : (attempt l r now mode skip s template).change? = some (location, file)) :
    (putFiles s (changesOf l r now mode skip s ts)).regularFile? (l.output template) =
      some file := by
  have hsame : SameDirectories s (putFiles s (changesOf l r now mode skip s ts)) :=
    sameDirectories_changesOf s ts
  exact regularFile?_eq_some_iff.2 ⟨location, hsame.locate_eq _ ▸ (locate_of_change? hchange).1,
    at?_of_change? hplaces hlisted htemplate hchange⟩

/-- A batch leaves the templates as they are. -/
theorem at?_changesOf_source (htemplate : template ∈ ts)
    (hlocate : s.locate template = .ok location) :
    (putFiles s (changesOf l r now mode skip s ts)).at? location = s.at? location := by
  refine at?_putFiles_of_forall_ne (fun change hchange => ?_) s
  obtain ⟨written, hwritten, hchange⟩ := mem_changesOf.1 hchange
  obtain ⟨hdry, -⟩ := exists_of_change? hchange
  obtain ⟨base, hplaces⟩ := hplaces.resolve_left (by simp [hdry])
  obtain ⟨houtput, hplace⟩ := locate_of_change? hchange
  obtain ⟨writtenName, hwrittenName, -, rfl⟩ := hlisted.template written hwritten
  obtain ⟨name, hname, -, rfl⟩ := hlisted.template template htemplate
  exact hplaces.source_ne hwrittenName hname houtput hplace hlocate

theorem rendering_changesOf (htemplate : template ∈ ts) :
    rendering r (putFiles s (changesOf l r now mode skip s ts)) template = rendering r s template :=
  (rendering_eq_of_source (sameDirectories_changesOf s ts) fun _ hlocate =>
    (at?_changesOf_source hplaces hlisted htemplate hlocate).symm).symm

end

/-- A batch leaves the list of templates as it is. -/
theorem templates_changesOf (hlisted : Listed l ts) :
    templates l (putFiles s (changesOf l r now mode skip s ts)) = templates l s := by
  refine (templates_eq_of_namesIn (sameDirectories_changesOf s ts) fun directory hdirectory =>
    (namesIn_putFiles_of_forall_ne (fun change hchange => ?_) s).symm).symm
  obtain ⟨written, hwritten, hchange⟩ := mem_changesOf.1 hchange
  obtain ⟨writtenName, hwrittenName, -, rfl⟩ := hlisted.template written hwritten
  obtain ⟨hlocate, hplace⟩ := locate_of_change? hchange
  intro hparent
  refine ne_source_of_locate_output hwrittenName hlocate hdirectory change.1.name ?_
  rw [← hparent, Path.below_parent_name (names_ne_nil_of_at?_ne_directory hplace)]

end MachineConfig.Generated
