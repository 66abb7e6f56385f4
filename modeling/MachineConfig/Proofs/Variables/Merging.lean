import MachineConfig.Proofs.Variables.Rereading

/-!
Laying one variables file over another. What is in the file on top counts (`File.IsMerge`), and
what the two give together is settled, so that reading it again does not change it. Files may be
merged in any grouping; merging with itself or with an empty one changes nothing
(`File.merge_lawful`).
-/

namespace MachineConfig.Variables.File

attribute [ext] File

/-- The value of the variable `name` in the overlay of the machine type `label`. -/
def override? (f : File) (label name : String) : Option String :=
  (f.machineTypes.get? label).bind (·.get? name)

/-- In `merged` the names of `top` hide those of `base`: of the overlays one variable at a time, of
arrays and schemas as a whole. -/
structure IsMerge (base top merged : File) : Prop where
  vars : merged.vars = base.vars
  labels : ∀ label, label ∈ merged.machineTypes.keys ↔
    label ∈ base.machineTypes.keys ∨ label ∈ top.machineTypes.keys
  overrides : ∀ label name,
    merged.override? label name = (top.override? label name).or (base.override? label name)
  arrays : ∀ name, merged.arrays.get? name = (top.arrays.get? name).or (base.arrays.get? name)
  schemas : ∀ name, merged.schemas.get? name = (top.schemas.get? name).or (base.schemas.get? name)

/-! ## Overlays of machine types -/

theorem layVars_none (vars : Vars) : layVars none vars = vars := vars.empty_overlay

theorem layVars_self (vars : Vars) : layVars (some vars) vars = vars := vars.overlay_self

theorem layVars_assoc (older : Option Vars) (vars newer : Vars) :
    layVars (some (layVars older vars)) newer = layVars older (layVars (some vars) newer) :=
  Table.overlay_assoc _ vars newer

theorem override?_merge (base top : File) (label name : String) :
    (base.merge top).override? label name =
      (top.override? label name).or (base.override? label name) := by
  rw [override?, merge_machineTypes_eq_overlayWith, Table.get?_overlayWith, override?, override?]
  cases top.machineTypes.get? label with
  | none => rfl
  | some vars =>
    change ((base.machineTypes.get? label).getD .empty |>.overlay vars).get? name = _
    rw [Table.get?_overlay]
    cases base.machineTypes.get? label <;> rfl

theorem isMerge_merge (base top : File) : IsMerge base top (base.merge top) where
  vars := rfl
  labels label := by
    rw [merge_machineTypes_eq_overlayWith, Table.keys_overlayWith, List.mem_append, List.mem_filter]
    by_cases h : label ∈ base.machineTypes.keys <;> simp [h]
  overrides := override?_merge base top
  arrays := Table.get?_overlay base.arrays top.arrays
  schemas := Table.get?_overlay base.schemas top.schemas

/-! ## Laws -/

theorem merge_assoc (base top newest : File) :
    (base.merge top).merge newest = base.merge (top.merge newest) := by
  refine File.ext rfl ?_ (Table.overlay_assoc _ _ _) (Table.overlay_assoc _ _ _)
  simp only [merge_machineTypes_eq_overlayWith]
  exact Table.overlayWith_assoc _ _ _ layVars_none layVars_assoc

theorem merge_self (f : File) : f.merge f = f := by
  refine File.ext rfl ?_ (Table.overlay_self _) (Table.overlay_self _)
  rw [merge_machineTypes_eq_overlayWith]
  exact Table.overlayWith_self _ layVars_self

theorem merge_empty (f : File) : f.merge {} = f := rfl

/-- Of two files that were read, the one on top counts. The merged file is read as it is. -/
theorem merge_lawful {older newer : Table String Value} {base top : File}
    (hbase : ofWritten older = .ok base) (htop : ofWritten newer = .ok top) (newest : File) :
    IsMerge base top (base.merge top) ∧
      ofWritten (base.merge top).toSections = .ok (base.merge top) ∧
      (base.merge top).merge newest = base.merge (top.merge newest) ∧
      base.merge base = base ∧ base.merge {} = base := by
  have hsettled := (isSettled_ofWritten hbase).merge (isSettled_ofWritten htop)
  exact ⟨isMerge_merge base top, ofWritten_toSections hsettled, merge_assoc base top newest,
    merge_self base, merge_empty base⟩

/-- The local file has another editor for machines at work. -/
theorem merge_lawful_work :
    let older : Table String Value := .ofList [
      ("vars", .map [(.string "Depth", .int 1)]),
      ("machine_types", .map [(.string "Work", .map [
        (.string "Editor", .string "vi"), (.string "Depth", .int 2)])]),
      ("schemas", .map [(.string "Repos", .string "Name | URL")])]
    let newer : Table String Value := .ofList [
      ("machine_types", .map [(.string "work", .map [(.string "EDITOR", .string "emacs")])]),
      ("arrays", .map [(.string "repos", .list [.string "a|b", .map [(.string "Name", .null)]])])]
    ∃ base top, ofWritten older = .ok base ∧ ofWritten newer = .ok top ∧
      (base.merge top).override? "work" "editor" = some "emacs" ∧
      (base.merge top).override? "work" "depth" = some "2" ∧
      (base.merge top).schemas.get? "repos" = some ["name", "url"] ∧
      ofWritten (base.merge top).toSections = .ok (base.merge top) := by
  intro older newer
  have hbase : ofWritten older = .ok {
      vars := .ofList [("depth", "1")]
      machineTypes := .ofList [("work", .ofList [("editor", "vi"), ("depth", "2")])]
      schemas := .ofList [("repos", ["name", "url"])] } := by decide +kernel
  have htop : ofWritten newer = .ok {
      machineTypes := .ofList [("work", .ofList [("editor", "emacs")])]
      arrays := .ofList [("repos", [.joined "a|b", .named (.ofList [("name", "")])])] } := by
    decide +kernel
  obtain ⟨hmerge, hread, -⟩ := merge_lawful hbase htop {}
  refine ⟨_, _, hbase, htop, ?_, ?_, ?_, hread⟩
  · rw [hmerge.overrides]
    decide +kernel
  · rw [hmerge.overrides]
    decide +kernel
  · rw [hmerge.schemas]
    decide +kernel

end MachineConfig.Variables.File
