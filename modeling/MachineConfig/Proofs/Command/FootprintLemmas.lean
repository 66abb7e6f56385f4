import MachineConfig.Command.Run
import MachineConfig.Proofs.Generated.FootprintLemmas
import MachineConfig.Proofs.Setup.FileLemmas

/-!
Which files the commands change. Setting up writes the local variables file and the list of ignored
files, rendering writes generated files, and every other command leaves the tree as it is
(`runAction_writes`, `store_runAction`).
-/

namespace MachineConfig

open Store

namespace Outcome

variable {α β : Type} {o : Outcome α} {next : α → Store → Outcome β} {s : Store}
  {places : Store → Path → Prop}

@[simp] theorem store_map (o : Outcome α) (f : α → β) : (o.map f).store = o.store := rfl

theorem andThen_of_ok {a : α} (h : o.result = .ok a) (next : α → Store → Outcome β) :
    o.andThen next =
      { next a o.store with events := o.events ++ (next a o.store).events } := by
  rw [andThen, h]

/-- Where the first step and the second leave the tree as it is, both together do. -/
theorem store_andThen (h : o.store = s) (hnext : ∀ a, (next a s).store = s) :
    (o.andThen next).store = s := by
  rw [andThen]
  split
  · exact h
  · rw [h]
    exact hnext _

theorem writes_andThen (hstable : Stable places) (h : Writes places s o.store)
    (hnext : ∀ a, Writes places o.store (next a o.store).store) :
    Writes places s (o.andThen next).store := by
  rw [andThen]
  split
  · exact h
  · exact h.trans hstable (hnext _)

end Outcome

namespace Command

open Generated Template

variable {s : Session} {l : Layout} {names : List String} {name : String} {template : Path}

/-! ## Commands that only look -/

theorem Session.store_withLook {α : Type} {look : Except HostFault α} {next : α → Result}
    (h : ∀ a, (next a).store = s.store) : (s.withLook look next).store = s.store := by
  cases look with
  | error fault => rfl
  | ok a => exact h a

theorem Session.withSources_cases (s : Session) (l : Layout) (next : Sources → Result) :
    (s.withSources l next).store = s.store ∨
      ∃ sources, (s.withSources l next).store = (next sources).store := by
  simp only [Session.withSources]
  split
  · exact .inl rfl
  · split
    · exact .inr ⟨_, rfl⟩
    · exact .inl rfl

theorem Session.store_withSources {next : Sources → Result}
    (h : ∀ sources, (next sources).store = s.store) : (s.withSources l next).store = s.store :=
  (s.withSources_cases l next).elim id fun ⟨sources, hsources⟩ => hsources.trans (h sources)

theorem store_runCheck (s : Session) (l : Layout) (names : List String) :
    (runCheck s l names).store = s.store := by
  refine Session.store_withLook fun templates => ?_
  simp only
  split
  · rfl
  · split <;> rfl

theorem store_runList (s : Session) (l : Layout) : (runList s l).store = s.store := by
  refine Session.store_withLook fun statuses => ?_
  simp only
  split <;> rfl

theorem store_runDiff (s : Session) (l : Layout) (verbose : Bool) :
    (runDiff s l verbose).store = s.store := by
  refine Session.store_withSources fun sources => ?_
  simp only
  split <;> rfl

theorem store_runVars (s : Session) (l : Layout) (namesOnly : Bool) :
    (runVars s l namesOnly).store = s.store :=
  Session.store_withSources fun _ => rfl

theorem store_runArrays (s : Session) (l : Layout) : (runArrays s l).store = s.store := by
  refine Session.store_withSources fun sources => ?_
  simp only
  split <;> rfl

/-! ## Rendering -/

/-- A template that one of these names can mean. -/
def IsMeant (l : Layout) (names : List String) (template : Path) : Prop :=
  ∃ name ∈ names, template ∈
    [Path.ofText name, l.templatesDir.child name, l.templatesDir.child (name ++ l.extension)]

theorem isMeant_of_findTemplate (h : s.findTemplate l name = .ok template) (hmem : name ∈ names) :
    IsMeant l names template := by
  refine ⟨name, hmem, ?_⟩
  simp only [Session.findTemplate, bind, Except.bind, pure, Except.pure] at h
  split at h
  · obtain rfl := Except.ok.inj h
    exact List.mem_cons_self
  split at h
  · cases h
  split at h
  · obtain rfl := Except.ok.inj h
    exact List.mem_cons_self
  split at h
  · cases h
  split at h
  · obtain rfl := Except.ok.inj h
    simp
  split at h
  · obtain rfl := Except.ok.inj h
    simp
  split at h
  · cases h
  obtain rfl := Except.ok.inj h
  split <;> simp

/-- The name of a template that is meant has no slash. -/
theorem IsMeant.noSlash (h : IsMeant l names template) : '/' ∉ template.name.toList := by
  have hchild (name : String) : '/' ∉ (l.templatesDir.child name).name.toList :=
    Path.noSlash_name_child (Layout.noSlash_templatesDir l) name
  obtain ⟨name, -, hmem⟩ := h
  simp only [List.mem_cons, List.not_mem_nil, or_false] at hmem
  rcases hmem with rfl | rfl | rfl
  · exact Path.noSlash_name_ofText name
  · exact hchild name
  · exact hchild _

/-- Where a name cannot be looked for, a path that it could mean is too long. -/
theorem of_findTemplate_eq_error {fault : HostFault} (h : s.findTemplate l name = .error fault) :
    fault = .inaccessible ∧ ∃ p, IsMeant l [name] p ∧ s.store.locate p = .error .tooLong := by
  have hlong {p : Path} (hp : p ∈ [Path.ofText name, l.templatesDir.child name,
      l.templatesDir.child (name ++ l.extension)]) (hcontains : s.store.contains p = .error fault) :
      fault = .inaccessible ∧ ∃ p, IsMeant l [name] p ∧ s.store.locate p = .error .tooLong := by
    by_cases hlocate : s.store.locate p = .error .tooLong
    · rw [contains, look, hlocate] at hcontains
      exact ⟨(Except.error.inj hcontains).symm, p, ⟨name, List.mem_singleton_self _, hp⟩, hlocate⟩
    · rw [contains_eq hlocate] at hcontains
      cases hcontains
  simp only [Session.findTemplate, bind, Except.bind, pure, Except.pure] at h
  split at h
  · cases h
  split at h
  · next hcontains => exact hlong (by simp) (Except.error.inj h ▸ hcontains)
  split at h
  · cases h
  split at h
  · next hcontains => exact hlong (by simp) (Except.error.inj h ▸ hcontains)
  split at h
  · cases h
  split at h
  · cases h
  split at h
  · next hcontains => exact hlong (by simp) (Except.error.inj h ▸ hcontains)
  · cases h

theorem store_renderOne (s : Session) (l : Layout) (r : Renderer) (target : Target) (alone : Bool)
    (name : String) (store : Store) : (renderOne s l r target alone name store).store = store ∨
      ∃ template, { s with store }.findTemplate l name = .ok template ∧
        (renderOne s l r target alone name store).store =
          (renderFile r store s.now (target = .dryRun) template
            (if target = .print then none else some (l.output template))).store := by
  simp only [renderOne]
  split
  · exact .inl rfl
  next template hfind =>
  refine .inr ⟨template, hfind, ?_⟩
  split <;> rfl

theorem store_renderOne_of_ne_write (s : Session) (l : Layout) (r : Renderer) {target : Target}
    (htarget : target ≠ .write) (alone : Bool) (name : String) (store : Store) :
    (renderOne s l r target alone name store).store = store := by
  rcases store_renderOne s l r target alone name store with hsame | ⟨template, -, hrender⟩
  · exact hsame
  · cases target with
    | print => exact hrender.trans (store_renderFile_of_print ..)
    | dryRun => exact hrender.trans (store_renderFile_of_dryRun ..)
    | write => exact (htarget rfl).elim

theorem store_renderNamed_of_ne_write (s : Session) (l : Layout) (r : Renderer) {target : Target}
    (htarget : target ≠ .write) (alone : Bool) (names : List String) (store : Store) :
    (renderNamed s l r target alone names store).store = store := by
  induction names generalizing store with
  | nil => rfl
  | cons name names ih =>
    rw [renderNamed]
    exact Outcome.store_andThen (store_renderOne_of_ne_write s l r htarget alone name store)
      fun _ => ih store

theorem renderOne_writes (s : Session) (l : Layout) (r : Renderer) (alone : Bool) (store : Store)
    (hmem : name ∈ names) : Writes (IsOutput l fun _ => IsMeant l names) store
      (renderOne s l r .write alone name store).store := by
  rcases store_renderOne s l r .write alone name store with hsame | ⟨template, hfind, hrender⟩
  · rw [hsame]
    exact .refl _ store
  · rw [hrender]
    exact (renderFile_writes l r store s.now false template).mono fun _ houtput =>
      houtput.mono fun _ heq => heq ▸ isMeant_of_findTemplate hfind hmem

theorem renderNamed_writes (s : Session) (l : Layout) (r : Renderer) (alone : Bool)
    (names rest : List String) (hrest : rest ⊆ names) (store : Store) :
    Writes (IsOutput l fun _ => IsMeant l names) store
      (renderNamed s l r .write alone rest store).store := by
  induction rest generalizing store with
  | nil => exact .refl _ store
  | cons name rest ih =>
    rw [List.cons_subset] at hrest
    rw [renderNamed]
    exact Outcome.writes_andThen (stable_isOutput l ⟨fun _ => id⟩)
      (renderOne_writes s l r alone store hrest.1) fun _ => ih hrest.2 _

theorem store_renderBatch_of_dryRun (s : Session) (l : Layout) (sources : Sources) (force : Bool) :
    (renderBatch s l sources ⟨true, force⟩).store = s.store :=
  Outcome.store_andThen rfl fun _ =>
    Outcome.store_andThen (store_renderAll_of_dryRun ..) fun _ => rfl

theorem renderBatch_writes (s : Session) (l : Layout) (sources : Sources) (mode : BatchMode) :
    Writes (IsOutput l (IsListed l)) s.store (renderBatch s l sources mode).store := by
  have hstable := stable_isOutput l (stable_isListed l)
  exact Outcome.writes_andThen hstable (.refl _ s.store) fun _ =>
    Outcome.writes_andThen hstable (renderAll_writes ..) fun _ => .refl _ _

/-- A template that the rendering command may render: any that is listed, or any that a name means.
-/
def MayRender (l : Layout) (names : List String) (s : Store) (template : Path) : Prop :=
  if names = [] then IsListed l s template else IsMeant l names template

theorem store_runRender (s : Session) (l : Layout) (names : List String) {dryRun print : Bool}
    (force : Bool) (h : (dryRun || print) = true) :
    (runRender s l names dryRun force print).store = s.store := by
  refine Session.store_withSources fun sources => ?_
  have htarget : (if print then Target.print else if dryRun then .dryRun else .write) ≠ .write := by
    cases print <;> cases dryRun <;> simp_all
  simp only
  split
  · exact store_renderNamed_of_ne_write s l _ htarget _ names s.store
  split
  · exact Session.store_withLook fun ts =>
      store_renderNamed_of_ne_write s l _ (by decide : Target.print ≠ .write) _ _ s.store
  · next hprint =>
    obtain rfl : dryRun = true := by simpa [hprint] using h
    exact store_renderBatch_of_dryRun s l sources force

theorem runRender_writes (s : Session) (l : Layout) (names : List String)
    (force : Bool) : Writes (IsOutput l (MayRender l names)) s.store
      (runRender s l names false force false).store := by
  rcases s.withSources_cases l _ with hsame | ⟨sources, hsources⟩
  · rw [runRender, hsame]
    exact .refl _ s.store
  rw [runRender, hsources]
  by_cases hnames : names = []
  · subst hnames
    exact renderBatch_writes s l sources ⟨false, force⟩
  · have hsome : (!names.isEmpty) = true := by simpa using hnames
    simp only [hsome, if_true, Bool.false_eq_true, if_false]
    refine (renderNamed_writes s l _ _ names names (List.Subset.refl _) s.store).mono fun _ h =>
      h.mono fun template hmeant => ?_
    rwa [MayRender, if_neg hnames]

end Command

end MachineConfig
