import MachineConfig.Proofs.Text.TrimmingLemmas
import MachineConfig.Proofs.Variables.FileLemmas
import MachineConfig.Proofs.Variables.SectionLemmas

/-!
Reading a variables file again from what was read of it. What was read is settled
(`File.isSettled_ofWritten`): names are in lower case, and field names are trimmed. Written out as
the sections of a data file (`File.toSections`), a settled file is read as it is
(`File.ofWritten_toSections`).
-/

namespace MachineConfig

open Variables

/-- A mapping from texts. -/
def Value.ofTable {α : Type} (content : α → Value) (t : Table String α) : Value :=
  .map (t.entries.map fun e => (.string e.1, content e.2))

namespace Arrays.Notation

/-- The field names of a record that is written as a map are in lower case. -/
def IsLower : Notation → Prop
  | named fields => fields.IsLower
  | _ => True

theorem isLower_ofValue (shown : Value → String) (v : Value) : (ofValue shown v).IsLower := by
  cases v with
  | map entries =>
    refine Table.isLower_ofList fun e he => ?_
    obtain ⟨entry, -, rfl⟩ := List.mem_map.1 he
    exact Text.lower_lower _
  | _ => trivial

/-- The value that a record is written as. -/
def toValue : Notation → Value
  | joined text => .string text
  | list values => .list (values.map .string)
  | named fields => .ofTable .string fields

theorem ofValue_toValue {r : Notation} (h : r.IsLower) : ofValue Value.text r.toValue = r := by
  cases r with
  | joined text => rfl
  | list values =>
    have hvalues : (values.map Value.string).map Value.text = values := by
      rw [List.map_map]
      exact List.map_id' values
    exact congrArg list hvalues
  | named fields =>
    have hentries : (fields.entries.map fun e => (Value.string e.1, Value.string e.2)).map
        (fun e => (e.1.keyName, e.2.text)) = fields.entries := by
      rw [List.map_map]
      refine (List.map_congr_left fun e he => ?_).trans (List.map_id' _)
      exact Prod.ext (h e.1 (List.mem_map_of_mem he)) rfl
    exact congrArg named ((congrArg Table.ofList hentries).trans fields.ofList_entries)

end Arrays.Notation

namespace Variables

variable {α : Type} {content : α → Value} {t : Table String α} {read : Value → Except Defect α}

theorem mapping_ofTable (h : t.IsLower) (content : α → Value) :
    mapping (.ofTable content t) = .ok (t.map content) := by
  have hentries : (t.entries.map fun e => (Value.string e.1, content e.2)).map
      (fun e => (e.1.keyName, e.2)) = (t.map content).entries := by
    rw [List.map_map]
    refine List.map_congr_left fun e he => ?_
    exact Prod.ext (h e.1 (List.mem_map_of_mem he)) rfl
  exact congrArg Except.ok ((congrArg Table.ofList hentries).trans (t.map content).ofList_entries)

theorem definitions_ofTable {vars : Vars} (h : vars.IsLower) :
    definitions (.ofTable .string vars) = .ok vars := by
  have htexts : (vars.map Value.string).map Value.text = vars := by
    refine Table.ext_entries ?_
    simp only [Table.map, List.map_map]
    exact List.map_id' _
  rw [definitions, mapping_ofTable h]
  exact congrArg Except.ok htexts

theorem records_map_toValue {rs : List Arrays.Notation} (h : ∀ r ∈ rs, r.IsLower) :
    records (.list (rs.map Arrays.Notation.toValue)) = .ok rs := by
  have hrecords :
      (rs.map Arrays.Notation.toValue).map (Arrays.Notation.ofValue Value.text) = rs := by
    rw [List.map_map]
    exact (List.map_congr_left fun r hr => Arrays.Notation.ofValue_toValue (h r hr)).trans
      (List.map_id' rs)
  exact congrArg Except.ok hrecords

theorem fieldName_fieldName (s : String) :
    fieldNames.fieldName (fieldNames.fieldName s) = fieldNames.fieldName s := by
  rw [fieldNames.fieldName, fieldNames.fieldName, Text.strip_lower_strip, Text.lower_lower]

theorem fieldNames_map_string {names : List String}
    (h : ∀ name ∈ names, fieldNames.fieldName name = name) :
    fieldNames (.list (names.map .string)) = .ok names := by
  have hnames : (names.map Value.string).map (fun v => fieldNames.fieldName v.display) = names := by
    rw [List.map_map]
    exact (List.map_congr_left h).trans (List.map_id' names)
  exact congrArg Except.ok hnames

/-- Members that are read as they were are all of the section. -/
theorem readMembers_ofTable (h : t.IsLower) (hread : ∀ e ∈ t.entries, read (content e.2) = .ok e.2)
    (name : String) : readMembers name read (.ofTable content t) = ⟨t, []⟩ := by
  have hsection : readSection name .empty mapping (.ofTable content t) = ⟨t.map content, []⟩ := by
    rw [readSection, mapping_ofTable h]
  have hresults : (t.map content).entries.map (fun e => (e.1, read e.2)) =
      t.entries.map fun e => (e.1, .ok e.2) := by
    rw [Table.map, List.map_map]
    exact List.map_congr_left fun e he => by simp [hread e he]
  have hissues : (t.entries.filterMap fun _ => (none : Option Issue)) = [] := by simp
  rw [readMembers, hsection]
  simp only [hresults, List.filterMap_map, List.nil_append]
  have hentries : t.entries.filterMap some = t.entries := List.filterMap_some
  exact congrArg₂ Reading.mk ((congrArg Table.ofList hentries).trans t.ofList_entries) hissues

end Variables

namespace Value

theorem anyOverlong_map_string (texts : List String) : anyOverlong (texts.map string) = false := by
  induction texts with
  | nil => rfl
  | cons text texts ih =>
    rw [List.map_cons, anyOverlong, ih]
    rfl

theorem isOverlong_ofTable {α : Type} {content : α → Value} {t : Table String α}
    (h : ∀ e ∈ t.entries, (content e.2).isOverlong = false) :
    (ofTable content t).isOverlong = false := by
  rw [ofTable, isOverlong]
  generalize t.entries = es at h
  induction es with
  | nil => rfl
  | cons e es ih =>
    rw [List.forall_mem_cons] at h
    rw [List.map_cons, anyEntryOverlong, h.1, ih h.2]
    rfl

theorem any_keysWith_ofTable {α : Type} {parts : Value → List Value} {content : α → Value}
    {t : Table String α} (h : ∀ e ∈ t.entries, (parts (content e.2)).any isOverlong = false) :
    ((ofTable content t).keysWith parts).any isOverlong = false := by
  rw [ofTable, keysWith, List.any_flatMap, List.any_map, List.any_eq_false]
  intro e he
  rw [Function.comp_apply, List.any_cons, h e he]
  exact Bool.false_ne_true

end Value

theorem Arrays.Notation.isOverlong_toValue (r : Notation) : r.toValue.isOverlong = false := by
  cases r with
  | joined text => rfl
  | list values => exact Value.anyOverlong_map_string values
  | named fields => exact Value.isOverlong_ofTable fun _ _ => rfl

namespace Variables.File

/-- The file written out as the sections of a data file. -/
def toSections (f : File) : Table String Value where
  entries := [
    ("vars", .ofTable .string f.vars),
    ("machine_types", .ofTable (.ofTable .string) f.machineTypes),
    ("arrays", .ofTable (fun rs => .list (rs.map Arrays.Notation.toValue)) f.arrays),
    ("schemas", .ofTable (fun names => .list (names.map .string)) f.schemas)]
  nodup := by simp

section sections

variable (f : File) (absent : Value)

theorem getD_vars : f.toSections.getD "vars" absent = .ofTable .string f.vars := rfl

theorem getD_machineTypes :
    f.toSections.getD "machine_types" absent = .ofTable (.ofTable .string) f.machineTypes := rfl

theorem getD_arrays : f.toSections.getD "arrays" absent =
    .ofTable (fun rs => .list (rs.map Arrays.Notation.toValue)) f.arrays := rfl

theorem getD_schemas : f.toSections.getD "schemas" absent =
    .ofTable (fun names => .list (names.map .string)) f.schemas := rfl

end sections

/-- Names are in lower case, and field names are trimmed too. -/
structure IsSettled (f : File) : Prop extends f.IsLower where
  arrays : f.arrays.IsLower
  records : ∀ e ∈ f.arrays.entries, ∀ r ∈ e.2, r.IsLower
  schemas : f.schemas.IsLower
  fieldNames : ∀ e ∈ f.schemas.entries, ∀ name ∈ e.2, fieldNames.fieldName name = name

/-- A list of what is written out as texts has no overlong items. -/
theorem any_items_map {β : Type} {write : β → Value} (h : ∀ b, (write b).isOverlong = false)
    (bs : List β) : (Value.list (bs.map write)).items.any Value.isOverlong = false := by
  rw [Value.items, List.any_map, List.any_eq_false]
  intro b _
  rw [Function.comp_apply, h b]
  exact Bool.false_ne_true

theorem overlongSections_toSections (f : File) : overlongSections f.toSections = [] := by
  have hvars (vars : Vars) : ((Value.ofTable Value.string vars).keysWith ([·])).any
      Value.isOverlong = false := Value.any_keysWith_ofTable fun _ _ => rfl
  rw [overlongSections, List.map_eq_nil_iff, List.filter_eq_nil_iff]
  simp only [toSections, List.forall_mem_cons, Bool.not_eq_true, written_vars, written_machineTypes,
    written_arrays, written_schemas]
  refine ⟨hvars f.vars, Value.any_keysWith_ofTable fun _ _ => hvars _,
    Value.any_keysWith_ofTable fun e _ => ?_, Value.any_keysWith_ofTable fun e _ => ?_, by simp⟩
  · exact any_items_map Arrays.Notation.isOverlong_toValue e.2
  · exact any_items_map (fun _ => rfl) e.2

theorem ofSections_toSections {f : File} (h : f.IsSettled) : ofSections f.toSections = .ok f := by
  have hvars : readSection "vars" .empty definitions (.ofTable .string f.vars) = ⟨f.vars, []⟩ := by
    rw [readSection, definitions_ofTable h.vars]
  have hmachineTypes : readMembers "machine_types" definitions
      (.ofTable (.ofTable .string) f.machineTypes) = ⟨f.machineTypes, []⟩ :=
    readMembers_ofTable h.machineTypes.labels
      (fun e he => definitions_ofTable (h.machineTypes.names e he)) _
  have harrays : readMembers "arrays" records
      (.ofTable (fun rs => .list (rs.map Arrays.Notation.toValue)) f.arrays) = ⟨f.arrays, []⟩ :=
    readMembers_ofTable h.arrays (fun e he => records_map_toValue (h.records e he)) _
  have hschemas : readMembers "schemas" Variables.fieldNames
      (.ofTable (fun names => .list (names.map .string)) f.schemas) = ⟨f.schemas, []⟩ :=
    readMembers_ofTable h.schemas (fun e he => fieldNames_map_string (h.fieldNames e he)) _
  have hunknown : f.toSections.keys.filter (· ∉ File.sections) = [] := rfl
  simp only [ofSections, getD_vars, getD_machineTypes, getD_arrays, getD_schemas, hvars,
    hmachineTypes, harrays, hschemas, hunknown]
  rfl

/-- A settled file is read as it is. -/
theorem ofWritten_toSections {f : File} (h : f.IsSettled) : ofWritten f.toSections = .ok f := by
  rw [ofWritten, overlongSections_toSections]
  exact ofSections_toSections h

theorem fieldName_of_fieldNames {v : Value} {names : List String}
    (h : Variables.fieldNames v = .ok names) {name : String} (hname : name ∈ names) :
    fieldNames.fieldName name = name := by
  cases v <;> cases h
  all_goals
    obtain ⟨_, -, rfl⟩ := List.mem_map.1 hname
    exact fieldName_fieldName _

theorem isLower_of_records {v : Value} {rs : List Arrays.Notation} (h : records v = .ok rs)
    {r : Arrays.Notation} (hr : r ∈ rs) : r.IsLower := by
  cases v <;> cases h
  · cases hr
  · obtain ⟨w, -, rfl⟩ := List.mem_map.1 hr
    exact Arrays.Notation.isLower_ofValue _ w

theorem isSettled_ofSections {sections : Table String Value} {f : File}
    (h : ofSections sections = .ok f) : f.IsSettled := by
  have hlower := isLower_ofSections h
  rw [ofSections] at h
  split at h
  · cases h
    refine ⟨hlower, isLower_readMembers _ _ _, fun e he r hr => ?_, isLower_readMembers _ _ _,
      fun e he name hname => ?_⟩
    · obtain ⟨w, -, hw⟩ := mem_of_mem_readMembers he
      exact isLower_of_records hw hr
    · obtain ⟨w, -, hw⟩ := mem_of_mem_readMembers he
      exact fieldName_of_fieldNames hw hname
  · cases h

/-- What was read is settled. -/
theorem isSettled_ofWritten {sections : Table String Value} {f : File}
    (h : ofWritten sections = .ok f) : f.IsSettled := by
  rw [ofWritten] at h
  split at h
  · exact isSettled_ofSections h
  · cases h

theorem IsSettled.merge {base top : File} (hbase : base.IsSettled) (htop : top.IsSettled) :
    (base.merge top).IsSettled where
  toIsLower := hbase.toIsLower.merge htop.toIsLower
  arrays := hbase.arrays.overlay htop.arrays
  records e he := (Table.mem_of_mem_insertAll _ _ he).elim (hbase.records e) (htop.records e)
  schemas := hbase.schemas.overlay htop.schemas
  fieldNames e he :=
    (Table.mem_of_mem_insertAll _ _ he).elim (hbase.fieldNames e) (htop.fieldNames e)

end Variables.File

end MachineConfig
