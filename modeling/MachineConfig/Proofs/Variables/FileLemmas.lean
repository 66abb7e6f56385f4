import MachineConfig.Proofs.OverlayLemmas
import MachineConfig.Proofs.Store.TreeLemmas
import MachineConfig.Proofs.Text.CasingLemmas
import MachineConfig.Proofs.Text.EncodingLemmas
import MachineConfig.Variables.Loading

/-!
The names in a variables file that has been read are in lower case (`File.isLower_load`): those of
its variables, of the machine types, and of the variables in their overlays. Merging two files keeps
them so, and lays the overlays of each machine type over one another
(`File.getD_machineTypes_merge`). Where a document is given, `Loader.known` says what it is read as.
-/

namespace MachineConfig

variable {α β : Type}

namespace Table

/-- The names of a table are in lower case. -/
def IsLower (t : Table String α) : Prop := ∀ name ∈ t.keys, Text.lower name = name

theorem isLower_empty : (empty : Table String α).IsLower := fun _ h => by cases h

theorem IsLower.map {t : Table String α} (h : t.IsLower) (f : α → β) : (t.map f).IsLower := by
  intro name hname
  rw [keys_map] at hname
  exact h name hname

theorem IsLower.insert {t : Table String α} (h : t.IsLower) {name : String}
    (hname : Text.lower name = name) (value : α) : (t.insert name value).IsLower := by
  intro other hother
  rcases mem_keys_insert.1 hother with rfl | hother
  · exact hname
  · exact h other hother

theorem isLower_ofList {entries : List (String × α)}
    (h : ∀ e ∈ entries, Text.lower e.1 = e.1) : (ofList entries).IsLower := by
  intro name hname
  obtain ⟨e, he, rfl⟩ := List.mem_map.1 hname
  exact h e (mem_of_mem_ofList he)

theorem IsLower.overlay {s t : Table String α} (hs : s.IsLower) (ht : t.IsLower) :
    (s.overlay t).IsLower := by
  intro name hname
  obtain ⟨e, he, rfl⟩ := List.mem_map.1 hname
  rcases mem_of_mem_insertAll _ _ he with he | he
  · exact hs e.1 (List.mem_map_of_mem he)
  · exact ht e.1 (List.mem_map_of_mem he)

/-- The machine types that have overlays, and the names in those, are in lower case. -/
structure AreLower (types : Table String Vars) : Prop where
  labels : types.IsLower
  names : ∀ e ∈ types.entries, e.2.IsLower

theorem AreLower.getD {types : Table String Vars} (h : types.AreLower) (label : String) :
    (types.getD label .empty).IsLower := by
  rw [Table.getD]
  cases hget : types.get? label with
  | none => exact isLower_empty
  | some vars => exact h.names _ (mem_of_get?_eq_some hget)

theorem AreLower.insert {types : Table String Vars} (h : types.AreLower) {label : String}
    (hlabel : Text.lower label = label) {vars : Vars} (hvars : vars.IsLower) :
    (types.insert label vars).AreLower := by
  refine ⟨h.labels.insert hlabel vars, fun e he => ?_⟩
  rcases mem_of_mem_insert he with rfl | he
  · exact hvars
  · exact h.names e he

end Table

namespace Variables

theorem isLower_members (entries : List (Value × α)) : (members entries).IsLower := by
  refine Table.isLower_ofList fun e he => ?_
  obtain ⟨entry, -, rfl⟩ := List.mem_map.1 he
  exact Text.lower_lower _

theorem isLower_mapping {v : Value} {t : Table String Value} (h : mapping v = .ok t) :
    t.IsLower := by
  cases v <;> cases h
  · exact Table.isLower_empty
  · exact isLower_members _

theorem isLower_definitions {v : Value} {vars : Vars} (h : definitions v = .ok vars) :
    vars.IsLower := by
  rw [definitions] at h
  cases hv : mapping v <;> rw [hv] at h <;> cases h
  exact (isLower_mapping hv).map _

/-- What the reading of a section gives, if `fallback` and what `read` gives have it. -/
theorem readSection_result {p : α → Prop} {read : Value → Except Defect α} {fallback : α}
    (hread : ∀ v result, read v = .ok result → p result) (hfallback : p fallback) (name : String)
    (v : Value) : p (readSection name fallback read v).result := by
  rw [readSection]
  split
  · next result h => exact hread v result h
  · exact hfallback

theorem mem_of_mem_readMembers {name : String} {read : Value → Except Defect α} {v : Value}
    {e : String × α} (h : e ∈ (readMembers name read v).result.entries) :
    ∃ w, (e.1, w) ∈ (readSection name .empty mapping v).result.entries ∧ read w = .ok e.2 := by
  obtain ⟨r, hr, hok⟩ := List.mem_filterMap.1 (Table.mem_of_mem_ofList h)
  obtain ⟨m, hm, rfl⟩ := List.mem_map.1 hr
  cases hread : read m.2 with
  | error defect =>
    rw [hread] at hok
    cases hok
  | ok result =>
    rw [hread] at hok
    cases hok
    exact ⟨m.2, hm, hread⟩

theorem isLower_readMembers (name : String) (read : Value → Except Defect α) (v : Value) :
    (readMembers name read v).result.IsLower := by
  have hsection : (readSection name .empty mapping v).result.IsLower :=
    readSection_result (fun _ _ => isLower_mapping) Table.isLower_empty name v
  intro key hkey
  obtain ⟨e, he, rfl⟩ := List.mem_map.1 hkey
  obtain ⟨w, hw, -⟩ := mem_of_mem_readMembers he
  exact hsection e.1 (List.mem_map_of_mem hw)

namespace File

/-- The names of variables and of machine types are in lower case. -/
structure IsLower (f : File) : Prop where
  vars : f.vars.IsLower
  machineTypes : f.machineTypes.AreLower

theorem isLower_empty : ({} : File).IsLower :=
  ⟨Table.isLower_empty, Table.isLower_empty, fun _ h => by cases h⟩

theorem isLower_ofSections {sections : Table String Value} {f : File}
    (h : ofSections sections = .ok f) : f.IsLower := by
  rw [ofSections] at h
  split at h
  · cases h
    refine ⟨?_, ?_, fun e he => ?_⟩
    · exact readSection_result (fun _ _ => isLower_definitions) Table.isLower_empty _ _
    · exact isLower_readMembers _ _ _
    · obtain ⟨w, -, hw⟩ := mem_of_mem_readMembers he
      exact isLower_definitions hw
  · cases h

theorem isLower_ofWritten {sections : Table String Value} {f : File}
    (h : ofWritten sections = .ok f) : f.IsLower := by
  rw [ofWritten] at h
  split at h
  · exact isLower_ofSections h
  · cases h

theorem isLower_ofContent {read : Loader} {file : Path} {content : ByteArray} {f : File}
    (h : ofContent read file content = .ok f) : f.IsLower := by
  rw [ofContent] at h
  split at h
  · cases h
  · cases h
    exact isLower_empty
  · split at h
    · cases h
    · next sections _ =>
      cases hf : ofWritten sections <;> rw [hf] at h <;> cases h
      exact isLower_ofWritten hf
  · cases h

/-- A file that can be loaded is missing, or its content can be read. -/
theorem load_cases {read : Loader} {store : Store} {file : Path} {f : File}
    (h : load read store file = .ok f) :
    f = {} ∨ ∃ content, store.read file = .ok content ∧ ofContent read file content = .ok f := by
  rw [load] at h
  cases hcontains : store.contains file with
  | error fault =>
    rw [hcontains] at h
    cases h
  | ok found =>
    rw [hcontains] at h
    cases found with
    | false =>
      cases h
      exact .inl rfl
    | true =>
      cases hread : store.read file with
      | error fault =>
        rw [hread] at h
        cases h
      | ok content =>
        rw [hread] at h
        exact .inr ⟨content, rfl, h⟩

theorem load_of_regularFile? {store : Store} {file : Path} {data : RegularFile}
    (h : store.regularFile? file = some data) (hreadable : data.isReadable) (read : Loader) :
    load read store file = ofContent read file data.content := by
  obtain ⟨location, hlocate, hfile⟩ := Store.regularFile?_eq_some_iff.1 h
  have hcontains : store.contains file = .ok true := by
    rw [Store.contains, Store.look_of_locate hlocate, hfile]
    rfl
  have hread : store.read file = .ok data.content := by
    simp [Store.read, hlocate, hfile, hreadable, Except.mapError, bind, Except.bind, pure,
      Except.pure]
  rw [load, hcontains, hread]
  rfl

theorem isLower_load {read : Loader} {store : Store} {file : Path} {f : File}
    (h : load read store file = .ok f) : f.IsLower := by
  obtain rfl | ⟨content, -, hcontent⟩ := load_cases h
  · exact isLower_empty
  · exact isLower_ofContent hcontent

section merge

/-- Lays the overlay of one machine type over the one that is there. -/
def layOver (types : Table String Vars) (e : String × Vars) : Table String Vars :=
  types.insert e.1 ((types.getD e.1 .empty).overlay e.2)

theorem merge_machineTypes (base top : File) :
    (base.merge top).machineTypes = top.machineTypes.entries.foldl layOver base.machineTypes := rfl

/-- Variables laid over those of an older overlay, if there is one. -/
def layVars (older : Option Vars) (vars : Vars) : Vars := (older.getD .empty).overlay vars

theorem merge_machineTypes_eq_overlayWith (base top : File) : (base.merge top).machineTypes =
    base.machineTypes.overlayWith layVars top.machineTypes := rfl

theorem getD_machineTypes_merge (base top : File) (label : String) :
    (base.merge top).machineTypes.getD label .empty =
      (base.machineTypes.getD label .empty).overlay (top.machineTypes.getD label .empty) := by
  rw [merge_machineTypes_eq_overlayWith, Table.getD, Table.get?_overlayWith, Table.getD, Table.getD]
  cases top.machineTypes.get? label <;> rfl

theorem areLower_layOver {types : Table String Vars} (h : types.AreLower) {e : String × Vars}
    (hlabel : Text.lower e.1 = e.1) (hvars : e.2.IsLower) : (layOver types e).AreLower :=
  h.insert hlabel ((h.getD e.1).overlay hvars)

theorem areLower_foldl_layOver {types : Table String Vars} {es : List (String × Vars)}
    (h : types.AreLower) (hes : ∀ e ∈ es, Text.lower e.1 = e.1 ∧ e.2.IsLower) :
    (es.foldl layOver types).AreLower := by
  induction es generalizing types with
  | nil => exact h
  | cons e es ih =>
    obtain ⟨hlabel, hvars⟩ := hes e List.mem_cons_self
    exact ih (areLower_layOver h hlabel hvars) fun d hd => hes d (List.mem_cons_of_mem e hd)

theorem IsLower.merge {base top : File} (hbase : base.IsLower) (htop : top.IsLower) :
    (base.merge top).IsLower := by
  refine ⟨hbase.vars, ?_⟩
  rw [merge_machineTypes]
  refine areLower_foldl_layOver hbase.machineTypes fun e he => ⟨?_, ?_⟩
  · exact htop.machineTypes.labels e.1 (List.mem_map_of_mem he)
  · exact htop.machineTypes.names e he

end merge

end File

/-- A loader that reads these documents, and no others. -/
def Loader.known (documents : List (String × Value)) : Loader := fun content =>
  match Text.decode? content with
  | none => .error .undecodable
  | some text => (documents.lookup text).elim (.error .notYaml) .ok

theorem Loader.known_utf8 {documents : List (String × Value)} {text : String} {v : Value}
    (hencodable : Text.isEncodable text) (h : documents.lookup text = some v) :
    known documents (Text.utf8 text) = .ok v := by
  rw [known, Text.decode?_utf8 hencodable]
  simp only [h, Option.elim_some]

end Variables

end MachineConfig
