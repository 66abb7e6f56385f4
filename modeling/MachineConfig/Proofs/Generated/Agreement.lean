import MachineConfig.Proofs.Generated.DriftIsolation
import MachineConfig.Proofs.Generated.ReportLemmas

/-!
Rendering and comparing agree. After all templates have been rendered with force and none has
failed, comparing finds every generated file up to date (`driftAll_renderAll`), if those that were
replaced can be read by their owner: a replaced file keeps its permissions, and a file that cannot
be read cannot be compared (`driftAll_renderAll_locked`).
-/

namespace MachineConfig

theorem RegularFile.isReadable_land (f : RegularFile) (content : ByteArray) (time : Int) :
    isReadable ⟨content, f.mode &&& 0o777, time⟩ = f.isReadable := by
  rw [isReadable, isReadable, Nat.and_assoc]
  rfl

namespace Generated

open Store
open Template (Renderer Rendering)

variable {l : Layout} {r : Renderer} {now : Int} {mode : BatchMode} {skip : Path → Bool}
  {s t prepared : Store} {location template : Path} {name : String} {file : RegularFile}
  {ts : List Path} {x : Rendering}

/-- A generated file with the content of the rendering is up to date. -/
theorem driftEntry_eq_upToDate (hrendering : rendering r s template = .ok x)
    (hencodable : Text.isEncodable x.text) (hroom : allowsTemporary (l.output template).name)
    (hname : (l.output template).name ≠ "..")
    (hlocate : s.locate (l.output template) = .ok location)
    (hfile : s.at? location = some (.file file)) (hreadable : file.isReadable)
    (hcontent : file.content = Text.utf8 x.text) :
    (driftEntry l r s template).2 = .ok ⟨template, l.output template, .upToDate⟩ := by
  have hentry : s.entry? (l.output template) = some (.file file) :=
    (entry?_eq_of_locate hlocate).trans hfile
  have hscratch : scratchFault? (l.output template).name x.text = none := by
    rw [scratchFault?, hroom, hencodable, if_neg hname]
    rfl
  have hread : s.read (l.output template) = .ok file.content := by
    rw [Store.read, hlocate]
    simp only [Except.mapError, bind, Except.bind, hfile, hreadable, if_true]
    rfl
  rw [driftEntry]
  simp only [hentry, hrendering, hscratch, hread, compare, hcontent]
  rfl

/-- What was written by a batch is up to date after it, if it can be read. -/
theorem driftEntry_after_change (hplaces : mode.dryRun = true ∨ ∃ base, Places l s base)
    (hlisted : Listed l ts) (htemplate : template ∈ ts)
    (hchange : (attempt l r now mode skip s template).change? = some (location, file))
    (hreadable : file.isReadable) :
    (driftEntry l r ((putFiles s (changesOf l r now mode skip s ts)).touchAll now
      (touchedBy l r now mode skip s ts)) template).2 =
        .ok ⟨template, l.output template, .upToDate⟩ := by
  obtain ⟨hdry, x, hrendering, hreplacement⟩ := exists_of_change? hchange
  obtain ⟨hlocate, hplace, hencodable, hroom, hfile⟩ := of_replacement_eq_ok hreplacement
  obtain ⟨base, hbase⟩ := hplaces.resolve_left (by simp [hdry])
  obtain ⟨name, hname, -, rfl⟩ := hlisted.template template htemplate
  obtain ⟨houtput, -⟩ := hbase.locate_output hname hlocate hplace
  have hsame : SameDirectories s (putFiles s (changesOf l r now mode skip s ts)) :=
    sameDirectories_changesOf s ts
  have hwritten := at?_of_change? hplaces hlisted htemplate hchange
  have hafter : rendering r (putFiles s (changesOf l r now mode skip s ts)) (l.template name) =
      .ok x :=
    (rendering_changesOf hplaces hlisted htemplate).trans hrendering
  generalize putFiles s (changesOf l r now mode skip s ts) = after at hsame hwritten hafter ⊢
  have hagree : AgreeOn l (l.template name) (after.touchAll now (touchedBy l r now mode skip s ts))
      after := (AgreeOn.refl _ after).touchAll_left now _
  refine driftEntry_eq_upToDate ((hagree.rendering_eq r).trans hafter) hencodable hroom ?_ ?_
    hwritten hreadable (by rw [hfile])
  · rw [Layout.name_output hname houtput]
    exact houtput.ne_above
  · rw [locate_touchAll, ← hsame.locate_eq]
    exact hlocate

/-- A file that replaces one that can be read, or none, can be read. -/
theorem isReadable_of_change?
    (h : (attempt l r now mode skip s template).change? = some (location, file))
    (hbefore : ∀ old, s.regularFile? (l.output template) = some old → old.isReadable) :
    file.isReadable := by
  obtain ⟨-, x, -, hreplacement⟩ := exists_of_change? h
  obtain ⟨hlocate, -, -, -, rfl⟩ := of_replacement_eq_ok hreplacement
  rcases hplace : s.at? location with _ | _ | old
  · simp [modeOver, RegularFile.isReadable]
  · simp [modeOver, RegularFile.isReadable]
  · rw [modeOver, RegularFile.isReadable_land]
    exact hbefore old (regularFile?_eq_some_iff.2 ⟨location, hlocate, hplace⟩)

theorem changedCount_eq_zero {entries : List DriftEntry}
    (h : ∀ entry ∈ entries, entry.drift = .upToDate) : changedCount entries = 0 := by
  refine List.countP_eq_zero.2 fun entry hentry => ?_
  rw [h entry hentry]
  exact Bool.false_ne_true

theorem missingCount_eq_zero {entries : List DriftEntry}
    (h : ∀ entry ∈ entries, entry.drift = .upToDate) : missingCount entries = 0 := by
  refine List.countP_eq_zero.2 fun entry hentry => ?_
  rw [h entry hentry]
  decide

/-- After all templates have been rendered with force and none has failed, comparing finds every
generated file up to date, if each that was there before can be read by its owner. -/
theorem driftAll_renderAll {report : BatchReport} (hs : s.IsTree)
    (hresult : (renderAll l r s now { force := true }).result = .ok report)
    (hfailures : report.failures = []) :
    ∃ ts, templates l (renderAll l r s now { force := true }).store = .ok ts ∧
      ((∀ template ∈ ts, ∀ file,
          (s.makeDirectories now l.generatedDir).1.regularFile? (l.output template) = some file →
          file.isReadable) →
        ∃ entries, (driftAll l r (renderAll l r s now { force := true }).store).2 = .ok entries ∧
          entries = ts.map (fun template => ⟨template, l.output template, .upToDate⟩) ∧
          changedCount entries = 0 ∧ missingCount entries = 0) := by
  obtain ⟨prepared, ts, skip, hprepare, hlist, hlisted, hskip, hall, hnames, hstore⟩ :=
    of_renderAll_eq_ok hs hresult
  have hplaces := places_of_prepare hprepare
  have hmade : s.makeDirectories now l.generatedDir = (prepared, .ok ()) := hprepare
  rw [hnames, List.map_eq_nil_iff, List.filter_eq_nil_iff] at hfailures
  have hlist' : templates l (renderAll l r s now { force := true }).store = .ok ts := by
    rw [hstore]
    exact (templates_changesOf hlisted).trans hlist
  refine ⟨ts, hlist', fun hreadable => ⟨_, ?_, rfl, ?_, ?_⟩⟩
  · rw [driftAll_eq hlist', hstore]
    refine driftOf_of_forall fun template htemplate => ?_
    obtain ⟨location, file, hchange⟩ := exists_change? (hskip template htemplate) rfl
      (by simpa using hfailures template htemplate) (hall template htemplate)
    refine driftEntry_after_change hplaces hlisted htemplate hchange
      (isReadable_of_change? hchange fun old hold => hreadable template htemplate old ?_)
    rw [hmade]
    exact hold
  · exact changedCount_eq_zero fun entry hentry => by
      obtain ⟨template, -, rfl⟩ := List.mem_map.1 hentry
      rfl
  · exact missingCount_eq_zero fun entry hentry => by
      obtain ⟨template, -, rfl⟩ := List.mem_map.1 hentry
      rfl

/-- A template whose generated file is older and private. -/
def privateTree : Store :=
  treeAt "root" [("a.tmpl", .file ⟨"a".toUTF8, 0o644, 0⟩)] [("a", .file ⟨"old".toUTF8, 0o600, 0⟩)]

theorem driftAll_renderAll_private :
    ∃ entries, (driftAll (layoutAt "root") { vars := .empty }
        (renderAll (layoutAt "root") { vars := .empty } privateTree 1 { force := true }).store).2 =
          .ok entries ∧
      entries.length = 1 ∧ changedCount entries = 0 ∧ missingCount entries = 0 := by
  have hs : privateTree.IsTree := isTree_of_forall_entries (by decide +kernel)
  have hresult : (renderAll (layoutAt "root") { vars := .empty } privateTree 1
      { force := true }).result = .ok { rendered := 1 } := by
    decide +kernel
  obtain ⟨ts, hlist, hreadable⟩ := driftAll_renderAll hs hresult rfl
  have hlisted : templates (layoutAt "root") (renderAll (layoutAt "root") { vars := .empty }
      privateTree 1 { force := true }).store = .ok [(layoutAt "root").template "a.tmpl"] := by
    decide +kernel
  obtain rfl := Except.ok.inj (hlist.symm.trans hlisted)
  obtain ⟨entries, hentries, rfl, hchanged, hmissing⟩ := hreadable (by
    have hall : ∀ template ∈ [(layoutAt "root").template "a.tmpl"],
        ((privateTree.makeDirectories 1 (layoutAt "root").generatedDir).1.regularFile?
          ((layoutAt "root").output template)).all (·.isReadable) := by
      decide +kernel
    intro template htemplate file hfile
    simpa [hfile] using hall template htemplate)
  exact ⟨_, hentries, rfl, hchanged, hmissing⟩

/-- A template whose generated file nobody may read. -/
def lockedTree : Store :=
  treeAt "root" [("a.tmpl", .file ⟨"a".toUTF8, 0o644, 0⟩)] [("a", .file ⟨"old".toUTF8, 0, 0⟩)]

theorem driftAll_renderAll_locked :
    (renderAll (layoutAt "root") { vars := .empty } lockedTree 1 { force := true }).result =
        .ok { rendered := 1 } ∧
      (driftAll (layoutAt "root") { vars := .empty }
        (renderAll (layoutAt "root") { vars := .empty } lockedTree 1 { force := true }).store).2 =
          .error (.host .inaccessible) := by
  decide +kernel

end Generated

end MachineConfig
