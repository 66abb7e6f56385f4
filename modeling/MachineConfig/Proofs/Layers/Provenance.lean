import Mathlib.Data.List.Induction
import MachineConfig.Proofs.Layers.LayerLemmas

/-!
Where a variable comes from. The variables and their sources are one fold over the layers, which
keeps of every entry its value for the one and its layer for the other (`overlaid`); so both have
the same names, and the source of a name is the highest layer that defines it, with the value that
the variable has (`Layers.sources_agree_merged`).
-/

namespace MachineConfig.Layers

variable {α β : Type}

section overlaid

variable (f : Role → String → α) (os : List (Role × Vars)) (name : String)

/-- Layers laid over one another, the lowest first, with what `f` keeps of each entry. -/
def overlaid : Table String α :=
  os.foldl (fun t o => t.overlay (o.2.map (f o.1))) .empty

theorem overlaid_concat (o : Role × Vars) :
    overlaid f (os ++ [o]) = (overlaid f os).overlay (o.2.map (f o.1)) := by
  rw [overlaid, List.foldl_append]
  rfl

theorem merged_eq_overlaid (l : Layers) (machineType : Option String) :
    l.merged machineType = overlaid (fun _ value => value) (l.overlays machineType) := by
  have hvalues (t : Vars) : t.map (fun value => value) = t := Table.map_of_forall fun _ _ => rfl
  simp only [merged, overlaid, hvalues]

theorem sources_eq_overlaid (l : Layers) (machineType : Option String) :
    l.sources machineType = overlaid (fun role _ => role) (l.overlays machineType) := by
  simp only [sources, overlaid, Table.overlay, Table.keys, Table.map, List.map_map]
  rfl

/-- Which names are defined, and in which order, does not hang on what is kept of them. -/
theorem keys_overlaid (g : Role → String → β) : (overlaid f os).keys = (overlaid g os).keys := by
  induction os using List.reverseRecOn with
  | nil => rfl
  | append_singleton os o ih =>
    rw [overlaid_concat, overlaid_concat]
    refine Table.keys_overlay_congr ih ?_
    rw [Table.keys_map, Table.keys_map]

/-- The highest layer that defines a name. -/
def provider? : Option (Role × Vars) := os.reverse.find? fun o => o.2.contains name

theorem provider?_concat (o : Role × Vars) :
    provider? (os ++ [o]) name = if o.2.contains name then some o else provider? os name := by
  rw [provider?, List.reverse_concat, List.find?_cons]
  cases o.2.contains name <;> rfl

/-- Of every name there is what is kept of the entry that its provider has. -/
theorem get?_overlaid :
    (overlaid f os).get? name =
      (provider? os name).bind fun o => (o.2.get? name).map (f o.1) := by
  induction os using List.reverseRecOn with
  | nil => rfl
  | append_singleton os o ih =>
    rw [overlaid_concat, Table.get?_overlay, Table.get?_map, provider?_concat, ih, Table.contains]
    cases hvalue : o.2.get? name with
    | none => rfl
    | some value => simp [hvalue]

end overlaid

/-- The value of a name is the one in the layer of this role, and no higher layer defines it. -/
def ComesFrom (os : List (Role × Vars)) (name : String) (role : Role) (value : String) : Prop :=
  ∃ lower values higher, os = lower ++ (role, values) :: higher ∧
    values.get? name = some value ∧ ∀ o ∈ higher, o.2.get? name = none

theorem provider?_eq_some_iff {os : List (Role × Vars)} {name : String} {o : Role × Vars} :
    provider? os name = some o ↔ ∃ lower higher, os = lower ++ o :: higher ∧
      (o.2.get? name).isSome ∧ ∀ p ∈ higher, p.2.get? name = none := by
  rw [provider?, List.find?_eq_some_iff_append]
  constructor
  · rintro ⟨hdefines, higher, lower, heq, hhigher⟩
    refine ⟨lower.reverse, higher.reverse, ?_, hdefines, fun p hp => ?_⟩
    · rw [← List.reverse_inj, heq]
      simp
    · simpa [Table.contains] using hhigher p (List.mem_reverse.1 hp)
  · rintro ⟨lower, higher, rfl, hdefines, hhigher⟩
    refine ⟨hdefines, higher.reverse, lower.reverse, by simp, fun p hp => ?_⟩
    simpa [Table.contains] using hhigher p (List.mem_reverse.1 hp)

theorem comesFrom_iff {os : List (Role × Vars)} {name value : String} {role : Role} :
    ComesFrom os name role value ↔
      ∃ o, provider? os name = some o ∧ o.1 = role ∧ o.2.get? name = some value := by
  simp only [provider?_eq_some_iff]
  constructor
  · rintro ⟨lower, values, higher, hos, hvalue, hhigher⟩
    refine ⟨(role, values), ⟨lower, higher, hos, ?_, hhigher⟩, rfl, hvalue⟩
    rw [hvalue]
    rfl
  · rintro ⟨⟨_, values⟩, ⟨lower, higher, hos, -, hhigher⟩, rfl, hvalue⟩
    exact ⟨lower, values, higher, hos, hvalue, hhigher⟩

theorem get?_sources_eq_some_iff (l : Layers) (machineType : Option String) {name : String}
    {role : Role} :
    (l.sources machineType).get? name = some role ↔
      ∃ value, (l.merged machineType).get? name = some value ∧
        ComesFrom (l.overlays machineType) name role value := by
  rw [sources_eq_overlaid, merged_eq_overlaid, get?_overlaid, get?_overlaid]
  simp only [comesFrom_iff]
  cases provider? (l.overlays machineType) name with
  | none => simp
  | some o => cases hvalue : o.2.get? name <;> simp [hvalue]

section given

/-- The entry that has this name but for the case: of several the last. -/
def lastNamed? (t : Table String α) (name : String) : Option α :=
  (t.entries.reverse.find? fun e => Text.lower e.1 = name).map (·.2)

theorem get?_lowerNames (t : Table String α) (name : String) :
    (lowerNames t).get? name = lastNamed? t name :=
  Table.get?_mapKeys Text.lower t name

theorem lastNamed?_map (f : α → β) (t : Table String α) (name : String) :
    lastNamed? (t.map f) name = (lastNamed? t name).map f := by
  rw [lastNamed?, lastNamed?, Table.map, ← List.map_reverse, List.find?_map, Option.map_map,
    Option.map_map]
  rfl

variable (given : Layers) (machineType : Option String) (name : String)

/-- The machine type whose overlay counts. -/
def givenMachineType : String :=
  Text.lower (machineType.getD
    ((lastNamed? given.default "machine_type" <|>
      lastNamed? given.auto "machine_type").getD ""))

/-- What each layer defines a name as, the lowest first. -/
def definitions : List (Role × Option String) :=
  [(.auto, lastNamed? given.auto name), (.default, lastNamed? given.default name),
    (.machineType, (lastNamed? given.machineTypes (given.givenMachineType machineType)).bind
      (lastNamed? · name)),
    (.localOverride, lastNamed? given.localOverride name),
    (.environment, lastNamed? given.environment name)]

theorem selectedMachineType_normalize :
    Text.lower (machineType.getD given.normalize.selectedMachineType) =
      given.givenMachineType machineType := by
  rw [selectedMachineType, normalize, givenMachineType, Table.getD, Table.getD, get?_lowerNames,
    get?_lowerNames]
  cases lastNamed? given.default "machine_type" <;> rfl

theorem map_get?_overlays_normalize :
    (given.normalize.overlays machineType).map (fun o => (o.1, o.2.get? name)) =
      given.definitions machineType name := by
  have htype (type : String) :
      ((lowerNames (given.machineTypes.map lowerNames)).getD type .empty).get? name =
        (lastNamed? given.machineTypes type).bind (lastNamed? · name) := by
    rw [Table.getD, get?_lowerNames, lastNamed?_map]
    cases lastNamed? given.machineTypes type with
    | none => rfl
    | some values => exact get?_lowerNames values name
  rw [overlays, selectedMachineType_normalize]
  simp only [List.map_cons, List.map_nil, normalize, htype, get?_lowerNames, definitions]

end given

/-- Variables and sources have the same names. The source of a name is the highest layer that
defines it, there as the value that the variable has; and a layer defines a name as the last of its
entries does that differ from it in case only. -/
theorem sources_agree_merged (given : Layers) (machineType : Option String) :
    (given.normalize.sources machineType).keys = (given.normalize.merged machineType).keys ∧
      (∀ name role, (given.normalize.sources machineType).get? name = some role ↔
        ∃ value, (given.normalize.merged machineType).get? name = some value ∧
          ComesFrom (given.normalize.overlays machineType) name role value) ∧
      ∀ name, (given.normalize.overlays machineType).map (fun o => (o.1, o.2.get? name)) =
        given.definitions machineType name := by
  refine ⟨?_, fun name role => ?_, map_get?_overlays_normalize given machineType⟩
  · rw [sources_eq_overlaid, merged_eq_overlaid]
    exact keys_overlaid _ _ _
  · exact get?_sources_eq_some_iff given.normalize machineType

/-- The overlay of the machine type hides the facts with an empty text, and of two names that
differ in case the later counts. -/
example :
    let given : Layers :=
      { auto := .ofList [("machine_type", "Work"), ("a", "x")]
        machineTypes := .ofList [("WORK", .ofList [("A", "y"), ("a", "")])] }
    (given.normalize.sources none).get? "a" = some .machineType ∧
      (given.normalize.merged none).get? "a" = some "" := by
  decide

end MachineConfig.Layers
