import MachineConfig.Proofs.Generated.RemovalLemmas

/-!
Comparing keeps failures apart too. Where every rendering can be encoded and every generated file
that is compared can be read, there is one entry per template, and no entry depends on the other
templates (`driftAll_isolates_failures`). A generated file that cannot be read is the exception: it
breaks the whole comparison off (`driftAll_stops`).
-/

namespace MachineConfig.Generated

open Store
open Template (Renderer Rendering)

variable {l : Layout} {r : Renderer} {s t : Store} {template : Path} {ts : List Path}
  {cause : Failure}

/-- The comparison of a template fails: there is a generated file, and the template cannot be
rendered, or not be written under that name. -/
def driftFails (l : Layout) (r : Renderer) (s : Store) (template : Path) : Bool :=
  (s.entry? (l.output template)).isSome &&
    match rendering r s template with
    | .error _ => true
    | .ok x => (scratchFault? (l.output template).name x.text).isSome

/-- If it comes to a comparison, the rendering can be encoded and the generated file be read. -/
def IsComparable (l : Layout) (r : Renderer) (s : Store) (template : Path) : Prop :=
  ∀ x, rendering r s template = .ok x → (s.entry? (l.output template)).isSome →
    Text.isEncodable x.text ∧
      ((scratchFault? (l.output template).name x.text).isNone → (s.read (l.output template)).isOk)

instance (l : Layout) (r : Renderer) (s : Store) (template : Path) :
    Decidable (IsComparable l r s template) :=
  match h : rendering r s template with
  | .error _ => .isTrue fun x hx => by rw [h] at hx; cases hx
  | .ok y => decidable_of_iff ((s.entry? (l.output template)).isSome →
      Text.isEncodable y.text ∧
        ((scratchFault? (l.output template).name y.text).isNone →
          (s.read (l.output template)).isOk)) <| by
    rw [IsComparable, h]
    exact ⟨fun hy x hx => Except.ok.inj hx ▸ hy, fun hx => hx y rfl⟩

theorem isIsolated_of_scratchFault? {name text : String} {fault : HostFault}
    (hencodable : Text.isEncodable text) (h : scratchFault? name text = some fault) :
    (Failure.host fault).isIsolated := by
  rw [scratchFault?, hencodable] at h
  split at h
  · obtain rfl := Option.some.inj h
    rfl
  split at h
  · next hbad => cases hbad
  split at h
  · obtain rfl := Option.some.inj h
    rfl
  · cases h

/-- A template that can be compared has an entry. -/
theorem exists_driftEntry (h : IsComparable l r s template) :
    ∃ drift, (driftEntry l r s template).2 = .ok ⟨template, l.output template, drift⟩ ∧
      (drift = .failed ↔ driftFails l r s template) := by
  rw [driftEntry, driftFails]
  cases hentry : s.entry? (l.output template) with
  | none => exact ⟨.missing, by simp, by simp⟩
  | some entry =>
    simp only [Option.isNone_some, Bool.false_eq_true, if_false, Option.isSome_some, Bool.true_and]
    cases hrendering : rendering r s template with
    | error cause => exact ⟨.failed, rfl, by simp⟩
    | ok x =>
      obtain ⟨hencodable, hread⟩ := h x hrendering (by simp [hentry])
      cases hscratch : scratchFault? (l.output template).name x.text with
      | some fault =>
        refine ⟨.failed, ?_, by simp [hscratch]⟩
        simp only [hscratch, isIsolated_of_scratchFault? hencodable hscratch, if_true]
      | none =>
        rw [hscratch] at hread
        cases hcontent : s.read (l.output template) with
        | error fault =>
          rw [hcontent] at hread
          cases hread rfl
        | ok content =>
          refine ⟨compare (l.output template) content x.text, ?_, ?_⟩
          · simp only [hscratch]
          · simp only [hscratch, compare]
            split <;> simp

theorem consEntry_snd (told : List Event × Except Failure DriftEntry)
    (rest : List Event × Except Failure (List DriftEntry)) :
    (consEntry told rest).2 =
      match told.2 with
      | .error cause => .error cause
      | .ok entry => rest.2.map (entry :: ·) := by
  obtain ⟨events, fault | entry⟩ := told <;> rfl

theorem driftOf_of_forall {f : Path → DriftEntry}
    (h : ∀ template ∈ ts, (driftEntry l r s template).2 = .ok (f template)) :
    (driftOf l r s ts).2 = .ok (ts.map f) := by
  induction ts with
  | nil => rfl
  | cons template rest ih =>
    rw [List.forall_mem_cons] at h
    rw [driftOf, consEntry_snd, h.1, ih h.2]
    rfl

theorem driftOf_of_error (htemplate : template ∈ ts)
    (h : (driftEntry l r s template).2 = .error cause) :
    ∃ cause, (driftOf l r s ts).2 = .error cause := by
  induction ts with
  | nil => cases htemplate
  | cons first rest ih =>
    rw [driftOf, consEntry_snd]
    cases hfirst : (driftEntry l r s first).2 with
    | error fault => exact ⟨fault, rfl⟩
    | ok entry =>
      rcases List.mem_cons.1 htemplate with rfl | hrest
      · rw [hfirst] at h
        cases h
      · obtain ⟨fault, hfault⟩ := ih hrest
        rw [hfault]
        exact ⟨fault, rfl⟩

theorem driftAll_eq (hlist : templates l s = .ok ts) : driftAll l r s = driftOf l r s ts := by
  rw [driftAll, hlist]

/-- The entry of a template depends on what it sees of the tree. -/
theorem AgreeOn.driftEntry_eq (h : AgreeOn l template s t) :
    driftEntry l r s template = driftEntry l r t template := by
  simp only [driftEntry, h.entry?_output, h.rendering_eq, h.directories.read_eq h.output]

/-- The entry of a template that can be compared. -/
def entryOf (l : Layout) (r : Renderer) (s : Store) (template : Path) : DriftEntry :=
  (driftEntry l r s template).2.toOption.getD default

theorem driftEntry_eq_entryOf (h : IsComparable l r s template) :
    (driftEntry l r s template).2 = .ok (entryOf l r s template) := by
  obtain ⟨drift, hentry, -⟩ := exists_driftEntry h
  rw [entryOf, hentry]
  rfl

/-- Where every template can be compared, there is one entry for each, in the order of the list. An
entry is an error where the comparison of its template fails, and without any of the templates the
entries of the others are the same. -/
theorem driftAll_isolates_failures (hs : s.IsTree) (hlist : templates l s = .ok ts)
    (hcomparable : ∀ template ∈ ts, IsComparable l r s template) :
    ∃ entries, (driftAll l r s).2 = .ok entries ∧
      entries.map (·.template) = ts ∧
      (∀ entry ∈ entries, entry.output = l.output entry.template ∧
        (entry.drift = .failed ↔ driftFails l r s entry.template)) ∧
      ∀ gone : List String, (∀ name ∈ gone, ∃ p ∈ ts, p.name = name) →
        (driftAll l r (s.removeAll (sources l s gone))).2 =
          .ok (entries.filter fun entry => entry.template.name ∉ gone) := by
  have hentry : ∀ template ∈ ts, (entryOf l r s template).template = template ∧
      (entryOf l r s template).output = l.output template ∧
      ((entryOf l r s template).drift = .failed ↔ driftFails l r s template) := by
    intro template htemplate
    obtain ⟨drift, hdrift, hfails⟩ := exists_driftEntry (hcomparable template htemplate)
    rw [entryOf, hdrift]
    exact ⟨rfl, rfl, hfails⟩
  refine ⟨ts.map (entryOf l r s), ?_, ?_, ?_, fun gone hgone => ?_⟩
  · rw [driftAll_eq hlist]
    exact driftOf_of_forall fun p hp => driftEntry_eq_entryOf (hcomparable p hp)
  · rw [List.map_map]
    exact (List.map_congr_left fun p hp => (hentry p hp).1).trans (List.map_id ts)
  · intro entry hmem
    obtain ⟨p, hp, rfl⟩ := List.mem_map.1 hmem
    obtain ⟨htemplate, houtput, hfails⟩ := hentry p hp
    rw [htemplate]
    exact ⟨houtput, hfails⟩
  · rw [driftAll_eq (templates_removeAll hs hlist hgone), List.filter_map]
    have hfilter : ts.filter ((fun entry => decide (entry.template.name ∉ gone)) ∘ entryOf l r s) =
        ts.filter fun p => p.name ∉ gone :=
      List.filter_congr fun p hp => by rw [Function.comp_apply, (hentry p hp).1]
    rw [hfilter]
    refine driftOf_of_forall fun p hp => ?_
    obtain ⟨hp, hleft⟩ := List.mem_filter.1 hp
    rw [← (agreeOn_removeAll hs hlist hgone hp (by simpa using hleft)).driftEntry_eq]
    exact driftEntry_eq_entryOf (hcomparable p hp)

/-- Three templates: the first cannot be read, the second has no generated file, and that of the
third is not well-formed UTF-8. -/
def mixedTree : Store :=
  treeAt "root"
    [("a.tmpl", .file ⟨"a".toUTF8, 0, 0⟩), ("b.tmpl", .file ⟨"b".toUTF8, 0o644, 0⟩),
      ("c.tmpl", .file ⟨"c".toUTF8, 0o644, 0⟩)]
    [("a", .file ⟨"old".toUTF8, 0o644, 0⟩), ("c", .file ⟨⟨#[0xFF]⟩, 0o644, 0⟩)]

theorem driftAll_isolates_failures_mixed :
    ∃ entries, (driftAll (layoutAt "root") { vars := .empty } mixedTree).2 = .ok entries ∧
      entries.map (·.template.name) = ["a.tmpl", "b.tmpl", "c.tmpl"] ∧
      ∀ entry ∈ entries, entry.drift = .failed ↔ entry.template.name = "a.tmpl" := by
  have hs : mixedTree.IsTree := isTree_of_forall_entries (by decide +kernel)
  have hlist : templates (layoutAt "root") mixedTree =
      .ok (["a.tmpl", "b.tmpl", "c.tmpl"].map (layoutAt "root").template) := by
    decide +kernel
  have hcomparable : ∀ template ∈ ["a.tmpl", "b.tmpl", "c.tmpl"].map (layoutAt "root").template,
      IsComparable (layoutAt "root") { vars := .empty } mixedTree template := by
    decide +kernel
  obtain ⟨entries, hresult, htemplates, hentry, -⟩ :=
    driftAll_isolates_failures hs hlist hcomparable
  have hfails : ∀ template ∈ ["a.tmpl", "b.tmpl", "c.tmpl"].map (layoutAt "root").template,
      driftFails (layoutAt "root") { vars := .empty } mixedTree template ↔
        template.name = "a.tmpl" := by
    decide +kernel
  refine ⟨entries, hresult, ?_, fun entry hmem => ?_⟩
  · have hnames := congrArg (List.map Path.name) htemplates
    rw [List.map_map] at hnames
    exact hnames.trans (by decide +kernel)
  · exact (hentry entry hmem).2.trans
      (hfails _ (htemplates ▸ List.mem_map_of_mem hmem))

/-- One template that breaks off breaks off the whole comparison. -/
theorem driftAll_stops (hlist : templates l s = .ok ts) (htemplate : template ∈ ts)
    (h : (driftEntry l r s template).2 = .error cause) :
    ∃ cause, (driftAll l r s).2 = .error cause := by
  rw [driftAll_eq hlist]
  exact driftOf_of_error htemplate h

/-- Two templates, where a directory has the name of the first generated file. -/
def directoryTree : Store :=
  treeAt "root"
    [("a.tmpl", .file ⟨"a".toUTF8, 0o644, 0⟩), ("b.tmpl", .file ⟨"b".toUTF8, 0o644, 0⟩)]
    [("a", .directory)]

theorem driftAll_stops_directory :
    (driftAll (layoutAt "root") { vars := .empty } directoryTree).2 =
      .error (.host .inaccessible) := by
  decide +kernel

end MachineConfig.Generated
