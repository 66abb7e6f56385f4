import MachineConfig.Layers.Sources
import MachineConfig.Proofs.Variables.FileLemmas

/-!
What a name looks up in a layer and in layers laid over one another: in the layer of the
environment the last entry that sets the name (`Environment.get?_layer`), in the defaults the text
of the file with the empty directories filled in (`get?_withComputedDefaults`), and in the result
what the highest layer has (`Layers.get?_merged`).
-/

namespace MachineConfig

namespace Environment

/-- An entry of the environment sets a variable, in whatever case it writes the name. -/
def Sets (entry name : String) : Prop :=
  ∃ key, key ≠ "" ∧ entry = "DOTPLATE_TMPL_" ++ key ∧ Text.lower key = name

theorem variableName?_eq_some_iff {entry name : String} :
    variableName? entry = some name ↔ Sets entry name := by
  rw [variableName?]
  constructor
  · intro h
    split at h
    · next hstart =>
      rw [Bool.and_eq_true, List.isPrefixOf_iff_prefix, decide_eq_true_eq] at hstart
      obtain ⟨⟨cs, hcs⟩, hlength⟩ := hstart
      rw [← hcs, List.drop_left] at h
      have hne : cs ≠ [] := by
        rintro rfl
        simp [← hcs] at hlength
      have hentry : entry = variableStart ++ String.ofList cs := by
        rw [← String.toList_inj, ← hcs, String.toList_append, String.toList_ofList]
      exact ⟨String.ofList cs, by simpa using hne, hentry, Option.some.inj h⟩
    · cases h
  · rintro ⟨key, hkey, rfl, rfl⟩
    have hne : key.toList ≠ [] := by simpa using hkey
    rw [show "DOTPLATE_TMPL_" = variableStart from rfl, String.toList_append, if_pos,
      List.drop_left, String.ofList_toList]
    rw [Bool.and_eq_true, List.isPrefixOf_iff_prefix, decide_eq_true_eq, List.length_append]
    exact ⟨List.prefix_append .., Nat.lt_add_of_pos_right (List.length_pos_iff.2 hne)⟩

instance (entry name : String) : Decidable (Sets entry name) :=
  decidable_of_iff _ variableName?_eq_some_iff

theorem lookup_filterMap_variableName? (es : List (String × String)) (name : String) :
    (es.filterMap fun e => (variableName? e.1).map (·, e.2)).lookup name =
      (es.find? fun e => Sets e.1 name).map (·.2) := by
  simp only [← variableName?_eq_some_iff]
  induction es with
  | nil => rfl
  | cons e es ih =>
    cases he : variableName? e.1 with
    | none => simp [he, ih]
    | some other =>
      by_cases hname : name = other
      · simp [he, hname]
      · simp [he, List.lookup_cons, beq_false_of_ne hname, ih, Ne.symm hname]

/-- The value of the last entry that sets a variable. -/
def lastSetting? (environ : Vars) (name : String) : Option String :=
  (environ.entries.reverse.find? fun e => Sets e.1 name).map (·.2)

theorem get?_layer (environ : Vars) (name : String) :
    (layer environ).get? name = lastSetting? environ name := by
  rw [layer, Table.get?_ofList, ← List.filterMap_reverse, lookup_filterMap_variableName?,
    lastSetting?]

theorem isLower_layer (environ : Vars) : (layer environ).IsLower := by
  refine Table.isLower_ofList fun e he => ?_
  obtain ⟨entry, -, hentry⟩ := List.mem_filterMap.1 he
  obtain ⟨name, hname, rfl⟩ := Option.map_eq_some_iff.1 hentry
  obtain ⟨key, -, -, rfl⟩ := variableName?_eq_some_iff.1 hname
  exact Text.lower_lower key

end Environment

section computed

variable (workspace : String)

/-- The value of the defaults file as it counts: a directory left empty lies in the workspace. -/
def defaultValue (name value : String) : String :=
  if workspace = "" ∨ value ≠ "" then value
  else if name = "projects_dir" then workspace ++ "/projects"
  else if name = "notes_dir" then workspace ++ "/notes"
  else if name = "scripts_dir" then workspace ++ "/scripts"
  else value

/-- Fills in one directory. -/
def fillDirectory (vars : Vars) (d : String × String) : Vars :=
  if vars.get? d.1 = some "" then vars.insert d.1 (workspace ++ "/" ++ d.2) else vars

theorem withComputedDefaults_eq (defaults auto : Vars) :
    withComputedDefaults defaults auto =
      if auto.getD "workspace" "" = "" then defaults
      else computedDirectories.foldl (fillDirectory (auto.getD "workspace" "")) defaults := by
  rw [withComputedDefaults]
  simp only [String.isEmpty_iff]
  rfl

theorem get?_fillDirectory (vars : Vars) (d : String × String) (name : String) :
    (fillDirectory workspace vars d).get? name =
      if name = d.1 ∧ vars.get? name = some "" then some (workspace ++ "/" ++ d.2)
      else vars.get? name := by
  rw [fillDirectory]
  by_cases hname : name = d.1
  · subst hname
    split <;> simp [*]
  · split <;> simp [*]

theorem get?_foldl_fillDirectory {vars : Vars} {ds : List (String × String)}
    (h : (ds.map (·.1)).Nodup) (name : String) :
    (ds.foldl (fillDirectory workspace) vars).get? name =
      if vars.get? name = some "" then some ((ds.lookup name).elim "" (workspace ++ "/" ++ ·))
      else vars.get? name := by
  induction ds generalizing vars with
  | nil =>
    split
    · assumption
    · rfl
  | cons d ds ih =>
    rw [List.map_cons, List.nodup_cons] at h
    rw [List.foldl_cons, ih h.2, get?_fillDirectory, List.lookup_cons]
    by_cases hname : name = d.1
    · subst hname
      by_cases hempty : vars.get? d.1 = some "" <;> simp [hempty]
    · simp [hname, beq_false_of_ne hname]

theorem defaultValue_empty (h : workspace ≠ "") (name : String) :
    defaultValue workspace name "" =
      (computedDirectories.lookup name).elim "" (workspace ++ "/" ++ ·) := by
  rw [defaultValue, if_neg (by simpa using h), computedDirectories]
  simp only [List.lookup_cons, List.lookup_nil, String.append_assoc]
  by_cases hprojects : name = "projects_dir"
  · simp [hprojects]
  by_cases hnotes : name = "notes_dir"
  · simp [hnotes]
  by_cases hscripts : name = "scripts_dir"
  · simp [hscripts]
  rw [beq_false_of_ne hprojects, beq_false_of_ne hnotes, beq_false_of_ne hscripts, if_neg hprojects,
    if_neg hnotes, if_neg hscripts, Option.elim_none]

theorem get?_withComputedDefaults (defaults auto : Vars) (name : String) :
    (withComputedDefaults defaults auto).get? name =
      (defaults.get? name).map (defaultValue (auto.getD "workspace" "") name) := by
  rw [withComputedDefaults_eq]
  generalize auto.getD "workspace" "" = workspace
  by_cases hworkspace : workspace = ""
  · have hsame : defaultValue workspace name = id := funext fun _ => if_pos (.inl hworkspace)
    rw [if_pos hworkspace, hsame, Option.map_id_apply]
  · rw [if_neg hworkspace, get?_foldl_fillDirectory _ (by decide)]
    cases hvalue : defaults.get? name with
    | none => rfl
    | some value =>
      by_cases hempty : value = ""
      · rw [hempty, if_pos rfl, Option.map_some, defaultValue_empty _ hworkspace]
      · rw [if_neg (by simpa using hempty), Option.map_some, defaultValue, if_pos (.inr hempty)]

theorem isLower_fillDirectory {vars : Vars} (h : vars.IsLower) (d : String × String) :
    (fillDirectory workspace vars d).IsLower := by
  rw [fillDirectory]
  split
  · next hempty =>
    have hname : d.1 ∈ vars.keys := List.mem_map.2 ⟨_, Table.mem_of_get?_eq_some hempty, rfl⟩
    exact h.insert (h d.1 hname) _
  · exact h

theorem isLower_foldl_fillDirectory {vars : Vars} (h : vars.IsLower)
    (ds : List (String × String)) : (ds.foldl (fillDirectory workspace) vars).IsLower := by
  induction ds generalizing vars with
  | nil => exact h
  | cons d ds ih => exact ih (isLower_fillDirectory workspace h d)

theorem isLower_withComputedDefaults {defaults : Vars} (h : defaults.IsLower) (auto : Vars) :
    (withComputedDefaults defaults auto).IsLower := by
  rw [withComputedDefaults_eq]
  split
  · exact h
  · exact isLower_foldl_fillDirectory _ h _

end computed

namespace Layers

/-- The names of all layers are in lower case. -/
structure IsLower (l : Layers) : Prop where
  auto : l.auto.IsLower
  default : l.default.IsLower
  machineTypes : l.machineTypes.AreLower
  localOverride : l.localOverride.IsLower
  environment : l.environment.IsLower

theorem IsLower.normalize_eq {l : Layers} (h : l.IsLower) : l.normalize = l := by
  have hnames : l.machineTypes.map lowerNames = l.machineTypes :=
    Table.map_of_forall fun e he => Table.mapKeys_of_forall (h.machineTypes.names e he)
  rw [normalize, hnames]
  simp only [lowerNames]
  rw [Table.mapKeys_of_forall h.auto, Table.mapKeys_of_forall h.default,
    Table.mapKeys_of_forall h.machineTypes.labels, Table.mapKeys_of_forall h.localOverride,
    Table.mapKeys_of_forall h.environment]

/-- The highest layer that has a name gives its value. -/
theorem get?_merged (l : Layers) (machineType : Option String) (name : String) :
    (l.merged machineType).get? name =
      (l.environment.get? name <|> l.localOverride.get? name <|>
        (l.machineTypes.getD (Text.lower (machineType.getD l.selectedMachineType)) .empty).get? name
        <|> l.default.get? name <|> l.auto.get? name) := by
  rw [merged, overlays]
  simp only [List.foldl_cons, List.foldl_nil, Table.get?_overlay, Table.get?_empty, Option.or_none,
    Option.orElse_eq_orElse, Option.orElse_eq_or]

end Layers

end MachineConfig
