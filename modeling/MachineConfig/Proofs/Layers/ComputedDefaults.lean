import MachineConfig.Proofs.Layers.Resolution
import MachineConfig.Proofs.OverlayLemmas

/-!
Which workspace the computed defaults see. They are filled in from the facts as these are given,
while the names in the layer of the facts are in lower case (`Sources.load_computedDefaults`). So
facts that name the workspace in another case may leave a directory empty
(`Sources.load_capitalWorkspace`).
-/

namespace MachineConfig

variable {defaults auto other : Vars} {name value : String}

/-- The workspace that the facts give. -/
def workspaceOf (auto : Vars) : String := auto.getD "workspace" ""

/-- The directory is computed, and the defaults leave it empty. -/
def IsUnfilled (defaults : Vars) (name : String) : Prop :=
  name ∈ computedDirectories.map (·.1) ∧ defaults.get? name = some ""

theorem isLower_lowerNames {α : Type} (t : Table String α) : (lowerNames t).IsLower := by
  refine Table.isLower_ofList fun e he => ?_
  obtain ⟨entry, -, rfl⟩ := List.mem_map.1 he
  exact Text.lower_lower _

theorem lowerNames_lowerNames {α : Type} (t : Table String α) :
    lowerNames (lowerNames t) = lowerNames t :=
  Table.mapKeys_of_forall (isLower_lowerNames t)

/-! ## Computed defaults -/

theorem defaultValue_of_not_mem (h : name ∉ computedDirectories.map (·.1)) (workspace : String) :
    defaultValue workspace name value = value := by
  simp only [computedDirectories, List.map_cons, List.map_nil, List.mem_cons, List.not_mem_nil,
    or_false, not_or] at h
  rw [defaultValue, if_neg h.1, if_neg h.2.1, if_neg h.2.2, ite_self]

theorem defaultValue_of_ne_empty (h : value ≠ "") (workspace : String) :
    defaultValue workspace name value = value := if_pos (.inr h)

theorem exists_place (h : name ∈ computedDirectories.map (·.1)) :
    ∃ place, place ≠ "" ∧ ∀ workspace,
      defaultValue workspace name "" = if workspace = "" then "" else workspace ++ place := by
  simp only [computedDirectories, List.map_cons, List.map_nil, List.mem_cons, List.not_mem_nil,
    or_false] at h
  obtain rfl | rfl | rfl := h
  · exact ⟨"/projects", by decide, fun workspace => by simp [defaultValue]⟩
  · exact ⟨"/notes", by decide, fun workspace => by simp [defaultValue]⟩
  · exact ⟨"/scripts", by decide, fun workspace => by simp [defaultValue]⟩

/-- A directory that is left empty tells the workspace that it lies in. -/
theorem defaultValue_inj (h : name ∈ computedDirectories.map (·.1)) {workspace other : String} :
    defaultValue workspace name "" = defaultValue other name "" ↔ workspace = other := by
  obtain ⟨place, hplace, hvalue⟩ := exists_place h
  rw [hvalue, hvalue]
  by_cases hworkspace : workspace = "" <;> by_cases hother : other = ""
  · simp [hworkspace, hother]
  · simp [hworkspace, hother, hplace, Ne.symm hother]
  · simp [hworkspace, hother, hplace]
  · rw [if_neg hworkspace, if_neg hother, String.append_left_inj]

theorem foldl_fillDirectory_of_forall {ds : List (String × String)} (workspace : String)
    (h : ∀ d ∈ ds, defaults.get? d.1 ≠ some "") :
    ds.foldl (fillDirectory workspace) defaults = defaults := by
  induction ds with
  | nil => rfl
  | cons d ds ih =>
    rw [List.forall_mem_cons] at h
    rw [List.foldl_cons, fillDirectory, if_neg h.1, ih h.2]

theorem withComputedDefaults_of_forall (h : ∀ name, ¬IsUnfilled defaults name) (auto : Vars) :
    withComputedDefaults defaults auto = defaults := by
  rw [withComputedDefaults_eq, foldl_fillDirectory_of_forall, ite_self]
  intro d hd hempty
  exact h d.1 ⟨List.mem_map_of_mem hd, hempty⟩

/-- Where the defaults differ, a directory lies in another workspace. -/
theorem get?_withComputedDefaults_ne
    (h : (withComputedDefaults defaults auto).get? name ≠
      (withComputedDefaults defaults other).get? name) :
    IsUnfilled defaults name ∧ workspaceOf auto ≠ workspaceOf other := by
  simp only [get?_withComputedDefaults] at h
  cases hvalue : defaults.get? name with
  | none => simp [hvalue] at h
  | some value =>
    simp only [hvalue, Option.map_some, ne_eq, Option.some.injEq] at h
    have hempty : value = "" := by
      by_contra hne
      exact h ((defaultValue_of_ne_empty hne _).trans (defaultValue_of_ne_empty hne _).symm)
    have hname : name ∈ computedDirectories.map (·.1) := by
      by_contra hname
      exact h ((defaultValue_of_not_mem hname _).trans (defaultValue_of_not_mem hname _).symm)
    exact ⟨⟨hname, hempty ▸ hvalue⟩, fun hsame => h (congrArg (defaultValue · name value) hsame)⟩

theorem withComputedDefaults_eq_iff :
    withComputedDefaults defaults auto = withComputedDefaults defaults other ↔
      workspaceOf auto = workspaceOf other ∨ ∀ name, ¬IsUnfilled defaults name := by
  constructor
  · intro hsame
    refine or_iff_not_imp_right.2 fun hunfilled => ?_
    obtain ⟨name, hname, hempty⟩ : ∃ name, IsUnfilled defaults name := by simpa using hunfilled
    have hvalue := congrArg (·.get? name) hsame
    simpa [get?_withComputedDefaults, hempty, defaultValue_inj hname, workspaceOf] using hvalue
  · rintro (hworkspace | hnone)
    · rw [withComputedDefaults_eq, withComputedDefaults_eq]
      exact congrArg (fun workspace => if workspace = "" then defaults
        else computedDirectories.foldl (fillDirectory workspace) defaults) hworkspace
    · rw [withComputedDefaults_of_forall hnone, withComputedDefaults_of_forall hnone]

/-! ## Loading -/

/-- A variable that two default layers give alike results alike, if both select one machine type. -/
theorem Layers.get?_merged_congr {l : Layers} {default : Vars}
    (htype : default.get? "machine_type" = l.default.get? "machine_type")
    (hname : default.get? name = l.default.get? name) (machineType : Option String) :
    (({ l with default } : Layers).merged machineType).get? name =
      (l.merged machineType).get? name := by
  simp only [get?_merged, selectedMachineType, Table.getD, htype, hname]

namespace Sources

open Variables

variable {read : Loader} {store : Store} {l : Layout} {defaults top : File}

theorem get?_effective_lowerNames (hdefaults : defaults.IsLower) (htop : top.IsLower)
    {auto environ : Vars} {machineType : Option String}
    (h : ((ofFiles auto defaults top environ).effective machineType).get? name ≠
      ((ofFiles (lowerNames auto) defaults top environ).effective machineType).get? name) :
    IsUnfilled defaults.vars name ∧ workspaceOf auto ≠ workspaceOf (lowerNames auto) := by
  have htype : (withComputedDefaults defaults.vars (lowerNames auto)).get? "machine_type" =
      (withComputedDefaults defaults.vars auto).get? "machine_type" := by
    by_contra hne
    exact absurd (get?_withComputedDefaults_ne hne).1.1 (by decide)
  refine get?_withComputedDefaults_ne fun hname => h ?_
  rw [effective, effective, layers_ofFiles_lowerNames auto environ hdefaults htop,
    layers_ofFiles_lowerNames _ environ hdefaults htop, lowerNames_lowerNames]
  exact (Layers.get?_merged_congr htype hname.symm machineType).symm

/-- Where the facts name a workspace in one case only, or no directory is left empty, the computed
defaults are those of the layer of the facts. Else the case of the names counts, but only for the
directories that are left empty. -/
theorem load_computedDefaults (hdefaults : File.load read store l.defaultsFile = .ok defaults)
    (htop : File.load read store l.localFile = .ok top) (auto environ : Vars) :
    ∃ sources lowered, (load read store l auto environ).2 = .ok sources ∧
      (load read store l (lowerNames auto) environ).2 = .ok lowered ∧
      sources.layers.auto = lowerNames auto ∧
      sources.layers.default = withComputedDefaults defaults.vars auto ∧
      (sources.layers.default = withComputedDefaults defaults.vars sources.layers.auto ↔
        workspaceOf auto = workspaceOf sources.layers.auto ∨
          ∀ name, ¬IsUnfilled defaults.vars name) ∧
      ∀ machineType name, (sources.effective machineType).get? name ≠
          (lowered.effective machineType).get? name →
        IsUnfilled defaults.vars name ∧ workspaceOf auto ≠ workspaceOf sources.layers.auto := by
  have hload (auto : Vars) :
      (load read store l auto environ).2 = .ok (ofFiles auto defaults top environ) := by
    rw [load, hdefaults, htop]
    rfl
  have hlower := File.isLower_load hdefaults
  have hlower' := File.isLower_load htop
  refine ⟨_, _, hload auto, hload (lowerNames auto), ?_⟩
  have hlayers := layers_ofFiles_lowerNames auto environ hlower hlower'
  rw [hlayers]
  exact ⟨rfl, rfl, withComputedDefaults_eq_iff,
    fun _ _ hne => get?_effective_lowerNames hlower hlower' hne⟩

/-- A root directory whose defaults leave a directory empty. -/
def unfilledRoot : Layout × Store :=
  let l : Layout := { root := ⟨.root, ["home"]⟩ }
  (l, { entries := .ofList [
    (l.root, .directory), (l.variablesDir, .directory),
    (l.defaultsFile, .file { content := Text.utf8 "vars:\n  projects_dir: \"\"", time := 0 })] })

/-- Reads the defaults of this directory. -/
def readUnfilled : Loader := .known [("vars:\n  projects_dir: \"\"",
  .map [(.string "vars", .map [(.string "projects_dir", .string "")])])]

theorem load_unfilledRoot_defaults :
    File.load readUnfilled unfilledRoot.2 unfilledRoot.1.defaultsFile =
      .ok { vars := .ofList [("projects_dir", "")] } := by
  have hvalue : readUnfilled (Text.utf8 "vars:\n  projects_dir: \"\"") = _ :=
    Loader.known_utf8 (by decide +kernel) rfl
  have hfile : unfilledRoot.2.regularFile? unfilledRoot.1.defaultsFile =
      some { content := Text.utf8 "vars:\n  projects_dir: \"\"", time := 0 } := rfl
  rw [File.load_of_regularFile? hfile (by decide), File.ofContent, hvalue]
  rfl

theorem load_unfilledRoot_local :
    File.load readUnfilled unfilledRoot.2 unfilledRoot.1.localFile = .ok {} := rfl

/-- The workspace is named in lower case, another fact is not. -/
theorem load_computedDefaults_unfilled :
    let auto : Vars := .ofList [("workspace", "/ws"), ("OS", "linux")]
    ∃ defaults top sources,
      File.load readUnfilled unfilledRoot.2 unfilledRoot.1.defaultsFile = .ok defaults ∧
      File.load readUnfilled unfilledRoot.2 unfilledRoot.1.localFile = .ok top ∧
      (load readUnfilled unfilledRoot.2 unfilledRoot.1 auto .empty).2 = .ok sources ∧
      sources.layers.default = withComputedDefaults defaults.vars sources.layers.auto ∧
      sources.layers.default.get? "projects_dir" = some "/ws/projects" := by
  intro auto
  obtain ⟨sources, -, hload, -, hauto, hdefault, hiff, -⟩ :=
    load_computedDefaults load_unfilledRoot_defaults load_unfilledRoot_local auto .empty
  refine ⟨_, _, sources, load_unfilledRoot_defaults, load_unfilledRoot_local, hload, ?_, ?_⟩
  · refine hiff.2 (.inl ?_)
    rw [hauto]
    decide
  · rw [hdefault]
    decide

/-- The workspace is named in capitals: it is in the layer of the facts, and the directory stays
empty. -/
theorem load_capitalWorkspace :
    let auto : Vars := .ofList [("WORKSPACE", "/ws")]
    ∃ defaults top sources,
      File.load readUnfilled unfilledRoot.2 unfilledRoot.1.defaultsFile = .ok defaults ∧
      File.load readUnfilled unfilledRoot.2 unfilledRoot.1.localFile = .ok top ∧
      (load readUnfilled unfilledRoot.2 unfilledRoot.1 auto .empty).2 = .ok sources ∧
      sources.layers.default ≠ withComputedDefaults defaults.vars sources.layers.auto ∧
      (sources.effective none).get? "projects_dir" = some "" := by
  intro auto
  refine ⟨_, _, ofFiles auto { vars := .ofList [("projects_dir", "")] } {} .empty,
    load_unfilledRoot_defaults, load_unfilledRoot_local, ?_, by decide, by decide⟩
  rw [load, load_unfilledRoot_defaults, load_unfilledRoot_local]
  rfl

end Sources

end MachineConfig
