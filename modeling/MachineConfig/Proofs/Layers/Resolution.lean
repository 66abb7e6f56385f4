import MachineConfig.Proofs.Layers.LayerLemmas

/-!
Where the value of a variable comes from. `Resolution.value?` names the sources in order, each as it
is given or read; the variables that the sources give are these (`Sources.get?_effective`).
-/

namespace MachineConfig

/-- The facts, the environment and the two variables files that a rendering starts from. -/
structure Resolution where
  auto : Vars
  environ : Vars
  defaults : Variables.File
  top : Variables.File

namespace Resolution

/-- The machine type whose overlays count. -/
def selected (r : Resolution) (machineType : Option String) : String :=
  Text.lower <| Option.getD
    (machineType <|> r.defaults.vars.get? "machine_type" <|> r.auto.get? "machine_type") ""

/-- The value of a variable, from the first source that has one. -/
def value? (r : Resolution) (machineType : Option String) (name : String) : Option String :=
  let type := r.selected machineType
  Environment.lastSetting? r.environ name <|>
    r.top.vars.get? name <|>
    (r.top.machineTypes.get? type).bind (·.get? name) <|>
    (r.defaults.machineTypes.get? type).bind (·.get? name) <|>
    (r.defaults.vars.get? name).map (defaultValue (r.auto.getD "workspace" "") name) <|>
    r.auto.get? name

end Resolution

namespace Sources

open Variables

variable {auto environ : Vars} {defaults top : File}

theorem layers_ofFiles_lowerNames (auto environ : Vars) (hdefaults : defaults.IsLower)
    (htop : top.IsLower) :
    (ofFiles auto defaults top environ).layers =
      { auto := lowerNames auto
        default := withComputedDefaults defaults.vars auto
        machineTypes := (defaults.merge top).machineTypes
        localOverride := top.vars
        environment := Environment.layer environ } := by
  have hlower : Layers.IsLower
      { default := withComputedDefaults defaults.vars auto
        machineTypes := (defaults.merge top).machineTypes
        localOverride := top.vars
        environment := Environment.layer environ } := by
    refine ⟨Table.isLower_empty, ?_, ?_, htop.vars, ?_⟩
    · exact isLower_withComputedDefaults hdefaults.vars auto
    · exact (hdefaults.merge htop).machineTypes
    · exact Environment.isLower_layer environ
  exact congrArg (fun l : Layers => { l with auto := lowerNames auto }) hlower.normalize_eq

theorem layers_ofFiles (hauto : auto.IsLower) (hdefaults : defaults.IsLower)
    (htop : top.IsLower) :
    (ofFiles auto defaults top environ).layers =
      { auto
        default := withComputedDefaults defaults.vars auto
        machineTypes := (defaults.merge top).machineTypes
        localOverride := top.vars
        environment := Environment.layer environ } := by
  rw [layers_ofFiles_lowerNames auto environ hdefaults htop, lowerNames,
    Table.mapKeys_of_forall hauto]

theorem selectedMachineType_ofFiles (hauto : auto.IsLower) (hdefaults : defaults.IsLower)
    (htop : top.IsLower) (machineType : Option String) :
    Text.lower (machineType.getD (ofFiles auto defaults top environ).layers.selectedMachineType) =
      (⟨auto, environ, defaults, top⟩ : Resolution).selected machineType := by
  have hkept : defaultValue (auto.getD "workspace" "") "machine_type" = id := by
    funext value
    simp [defaultValue]
  rw [layers_ofFiles hauto hdefaults htop, Layers.selectedMachineType, Resolution.selected,
    Table.getD, get?_withComputedDefaults, hkept, Option.map_id_apply, Table.getD]
  cases machineType with
  | some type => rfl
  | none => cases defaults.vars.get? "machine_type" <;> rfl

theorem get?_getD_empty (types : Table String Vars) (type name : String) :
    (types.getD type .empty).get? name = (types.get? type).bind (·.get? name) := by
  rw [Table.getD]
  cases types.get? type <;> rfl

theorem get?_effective_ofFiles (hauto : auto.IsLower) (hdefaults : defaults.IsLower)
    (htop : top.IsLower) (machineType : Option String) (name : String) :
    ((ofFiles auto defaults top environ).effective machineType).get? name =
      (⟨auto, environ, defaults, top⟩ : Resolution).value? machineType name := by
  rw [effective, Layers.get?_merged, selectedMachineType_ofFiles hauto hdefaults htop,
    layers_ofFiles hauto hdefaults htop, Environment.get?_layer, File.getD_machineTypes_merge,
    Table.get?_overlay, get?_getD_empty, get?_getD_empty, get?_withComputedDefaults,
    Resolution.value?]
  simp only [Option.orElse_eq_orElse, Option.orElse_eq_or, Option.or_assoc]

/-- If both files can be loaded, however that is done, a variable has the value of the first source
that defines it, and no others are defined. -/
theorem get?_effective (read : Loader) (environ : Vars) {store : Store} {l : Layout}
    (hauto : ∀ name ∈ auto.keys, Text.lower name = name)
    (hdefaults : File.load read store l.defaultsFile = .ok defaults)
    (htop : File.load read store l.localFile = .ok top) :
    ∃ sources, (load read store l auto environ).2 = .ok sources ∧
      ∀ machineType name, (sources.effective machineType).get? name =
        (⟨auto, environ, defaults, top⟩ : Resolution).value? machineType name := by
  refine ⟨ofFiles auto defaults top environ, ?_, fun machineType name => ?_⟩
  · rw [load, hdefaults, htop]
    rfl
  · have hdefaults' := File.isLower_load hdefaults
    have htop' := File.isLower_load htop
    exact get?_effective_ofFiles hauto hdefaults' htop' machineType name

/-- The facts choose the machine type, whose overlay hides the defaults; the environment defines a
name that no file has, as the empty text. -/
theorem get?_effective_work :
    let l : Layout := { root := ⟨.root, ["home"]⟩ }
    let file (content : String) : Entry := .file { content := Text.utf8 content, time := 0 }
    let store : Store := { entries := .ofList [
      (l.root, .directory), (l.variablesDir, .directory),
      (l.defaultsFile, file "vars:\n  a: x"),
      (l.localFile, file "machine_types:\n  Work:\n    A: y")] }
    let read : Loader := .known [
      ("vars:\n  a: x", .map [(.string "vars", .map [(.string "a", .string "x")])]),
      ("machine_types:\n  Work:\n    A: y",
        .map [(.string "machine_types",
          .map [(.string "Work", .map [(.string "A", .string "y")])])])]
    let auto : Vars := .ofList [("machine_type", "work")]
    let environ : Vars := .ofList [("DOTPLATE_TMPL_B", "")]
    (∀ name ∈ auto.keys, Text.lower name = name) ∧
      ∃ defaults top sources, File.load read store l.defaultsFile = .ok defaults ∧
        File.load read store l.localFile = .ok top ∧
        (load read store l auto environ).2 = .ok sources ∧
        (sources.effective none).get? "a" = some "y" ∧
        (sources.effective none).get? "b" = some "" := by
  intro l file store read auto environ
  have hauto : ∀ name ∈ auto.keys, Text.lower name = name := by decide
  have hdefaults : File.load read store l.defaultsFile =
      .ok { vars := .ofList [("a", "x")] } := by
    have hvalue : read (Text.utf8 "vars:\n  a: x") = _ :=
      Loader.known_utf8 (by decide +kernel) rfl
    have hfile : store.regularFile? l.defaultsFile =
        some { content := Text.utf8 "vars:\n  a: x", time := 0 } := by
      decide
    rw [File.load_of_regularFile? hfile (by decide), File.ofContent, hvalue]
    rfl
  have htop : File.load read store l.localFile =
      .ok { machineTypes := .ofList [("work", .ofList [("a", "y")])] } := by
    have hvalue : read (Text.utf8 "machine_types:\n  Work:\n    A: y") = _ :=
      Loader.known_utf8 (by decide +kernel) rfl
    have hfile : store.regularFile? l.localFile =
        some { content := Text.utf8 "machine_types:\n  Work:\n    A: y", time := 0 } := by
      decide
    rw [File.load_of_regularFile? hfile (by decide), File.ofContent, hvalue]
    rfl
  obtain ⟨sources, hload, hget⟩ := get?_effective read environ hauto hdefaults htop
  refine ⟨hauto, _, _, sources, hdefaults, htop, hload, ?_, ?_⟩
  · rw [hget]
    decide
  · rw [hget]
    decide

end Sources

end MachineConfig
