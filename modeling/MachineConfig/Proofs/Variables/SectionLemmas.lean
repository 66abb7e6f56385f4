import Mathlib.Data.Nat.Digits.Lemmas
import MachineConfig.Proofs.TableLemmas
import MachineConfig.Variables.Overlong

/-!
What can be wrong in a section of a variables file: its shape (`mem_issues_readSection`), that of a
member (`mem_issues_readMembers`), or a number that has to become text and is too long
(`mem_overlongSections_iff`).
-/

namespace MachineConfig

namespace Value

/-! ## Numbers that are too long -/

/-- The number is the value, or stands somewhere in it. -/
inductive Holds : Value → Int → Prop where
  | int (n : Int) : Holds (.int n) n
  | item {items : List Value} {v : Value} {n : Int} : v ∈ items → Holds v n → Holds (.list items) n
  | key {entries : List (Value × Value)} {e : Value × Value} {n : Int} :
      e ∈ entries → Holds e.1 n → Holds (.map entries) n
  | content {entries : List (Value × Value)} {e : Value × Value} {n : Int} :
      e ∈ entries → Holds e.2 n → Holds (.map entries) n

/-- The number has more digits than can be written. -/
def IsTooLong (n : Int) : Prop := Decimal.digitLimit < (Nat.digits 10 n.natAbs).length

theorem isOverlong_int (n : Int) : (int n).isOverlong ↔ IsTooLong n := by
  rw [isOverlong, decide_eq_true_iff, IsTooLong]
  generalize Decimal.digitLimit = limit
  exact (Nat.lt_digits_length_iff (by decide) _).symm

theorem anyOverlong_iff {vs : List Value} : anyOverlong vs ↔ ∃ v ∈ vs, v.isOverlong := by
  induction vs with
  | nil => simp [anyOverlong]
  | cons v vs ih => simp [anyOverlong, ih]

theorem anyEntryOverlong_iff {es : List (Value × Value)} :
    anyEntryOverlong es ↔ ∃ e ∈ es, e.1.isOverlong ∨ e.2.isOverlong := by
  induction es with
  | nil => simp [anyEntryOverlong]
  | cons e es ih => simp [anyEntryOverlong, ih]

theorem isOverlong_of_holds {v : Value} {n : Int} (h : v.Holds n) (hlong : IsTooLong n) :
    v.isOverlong := by
  induction h with
  | int n => exact (isOverlong_int n).2 hlong
  | item hmem _ ih => exact anyOverlong_iff.2 ⟨_, hmem, ih hlong⟩
  | key hmem _ ih => exact anyEntryOverlong_iff.2 ⟨_, hmem, .inl (ih hlong)⟩
  | content hmem _ ih => exact anyEntryOverlong_iff.2 ⟨_, hmem, .inr (ih hlong)⟩

theorem exists_holds_of_isOverlong (v : Value) (h : v.isOverlong) :
    ∃ n, v.Holds n ∧ IsTooLong n := by
  cases v with
  | int n => exact ⟨n, .int n, (isOverlong_int n).1 h⟩
  | list items =>
    obtain ⟨item, hmem, hlong⟩ := anyOverlong_iff.1 h
    obtain ⟨n, hn, htoo⟩ := exists_holds_of_isOverlong item hlong
    exact ⟨n, .item hmem hn, htoo⟩
  | map entries =>
    obtain ⟨e, hmem, hlong | hlong⟩ := anyEntryOverlong_iff.1 h
    · obtain ⟨n, hn, htoo⟩ := exists_holds_of_isOverlong e.1 hlong
      exact ⟨n, .key hmem hn, htoo⟩
    · obtain ⟨n, hn, htoo⟩ := exists_holds_of_isOverlong e.2 hlong
      exact ⟨n, .content hmem hn, htoo⟩
  | _ => cases h
termination_by sizeOf v
decreasing_by
  all_goals subst_vars
  · have := List.sizeOf_lt_of_mem hmem
    simp only [list.sizeOf_spec]
    omega
  all_goals
    have := List.sizeOf_lt_of_mem hmem
    obtain ⟨key, content⟩ := e
    simp only [map.sizeOf_spec, Prod.mk.sizeOf_spec] at *
    omega

theorem isOverlong_iff {v : Value} : v.isOverlong ↔ ∃ n, v.Holds n ∧ IsTooLong n :=
  ⟨exists_holds_of_isOverlong v, fun ⟨_, hn, hlong⟩ => isOverlong_of_holds hn hlong⟩

theorem mem_keysWith_iff {parts : Value → List Value} {v part : Value} :
    part ∈ v.keysWith parts ↔
      ∃ entries, v = .map entries ∧ ∃ e ∈ entries, part = e.1 ∨ part ∈ parts e.2 := by
  cases v <;> simp [keysWith]

theorem mem_items_iff {v part : Value} :
    part ∈ v.items ↔ ∃ items, v = .list items ∧ part ∈ items := by
  cases v <;> simp [items]

end Value

namespace Variables

open Value

/-! ## What becomes text -/

/-- What becomes text when the section `name` is read: the names in it, and the variables, records
or field names under them. -/
inductive BecomesText : (name : String) → (v part : Value) → Prop where
  | name {name : String} {entries : List (Value × Value)} {e : Value × Value} :
      name ∈ File.sections → e ∈ entries → BecomesText name (.map entries) e.1
  | definition {entries : List (Value × Value)} {e : Value × Value} :
      e ∈ entries → BecomesText "vars" (.map entries) e.2
  | override {entries overrides : List (Value × Value)} {label part : Value} {e : Value × Value} :
      (label, .map overrides) ∈ entries → e ∈ overrides → part = e.1 ∨ part = e.2 →
        BecomesText "machine_types" (.map entries) part
  | item {name : String} {entries : List (Value × Value)} {key part : Value} {items : List Value} :
      name = "arrays" ∨ name = "schemas" → (key, .list items) ∈ entries → part ∈ items →
        BecomesText name (.map entries) part

variable {sections : Table String Value} {name : String} {v part : Value}

theorem mem_sections_iff : name ∈ File.sections ↔
    name = "vars" ∨ name = "machine_types" ∨ name = "arrays" ∨ name = "schemas" := by
  simp [File.sections]

theorem written_vars : written "vars" = keysWith ([·]) := rfl

theorem written_machineTypes : written "machine_types" = keysWith (keysWith ([·])) := rfl

theorem written_arrays : written "arrays" = keysWith items := rfl

theorem written_schemas : written "schemas" = keysWith items := rfl

theorem written_of_not_mem (h : name ∉ File.sections) : written name v = [] := by
  have hnames := h
  simp only [mem_sections_iff, not_or] at hnames
  rw [written, if_neg hnames.1, if_neg hnames.2.1, if_neg h]

theorem mem_written_of_becomesText (h : BecomesText name v part) : part ∈ written name v := by
  cases h with
  | name hname he =>
    obtain ⟨parts, hparts⟩ : ∃ parts, written name = keysWith parts := by
      obtain rfl | rfl | rfl | rfl := mem_sections_iff.1 hname
      exacts [⟨_, written_vars⟩, ⟨_, written_machineTypes⟩, ⟨_, written_arrays⟩,
        ⟨_, written_schemas⟩]
    rw [hparts]
    exact mem_keysWith_iff.2 ⟨_, rfl, _, he, .inl rfl⟩
  | definition he =>
    rw [written_vars]
    exact mem_keysWith_iff.2 ⟨_, rfl, _, he, .inr (List.mem_singleton_self _)⟩
  | override hlabel he hpart =>
    rw [written_machineTypes]
    refine mem_keysWith_iff.2 ⟨_, rfl, _, hlabel, .inr ?_⟩
    exact mem_keysWith_iff.2 ⟨_, rfl, _, he, hpart.imp_right List.mem_singleton.2⟩
  | item hname hkey hpart =>
    have hitems : written name = keysWith items := by
      obtain rfl | rfl := hname
      exacts [written_arrays, written_schemas]
    rw [hitems]
    exact mem_keysWith_iff.2 ⟨_, rfl, _, hkey, .inr (mem_items_iff.2 ⟨_, rfl, hpart⟩)⟩

theorem becomesText_of_mem_keysWith_items (hname : name = "arrays" ∨ name = "schemas")
    (h : part ∈ keysWith items v) : BecomesText name v part := by
  obtain ⟨entries, rfl, ⟨key, content⟩, he, rfl | hpart⟩ := mem_keysWith_iff.1 h
  · refine .name (mem_sections_iff.2 ?_) he
    exact .inr (.inr hname)
  · obtain ⟨items, rfl, hpart⟩ := mem_items_iff.1 hpart
    exact .item hname he hpart

theorem mem_written_iff : part ∈ written name v ↔ BecomesText name v part := by
  refine ⟨fun h => ?_, mem_written_of_becomesText⟩
  by_cases hname : name ∈ File.sections
  · obtain rfl | rfl | rfl | rfl := mem_sections_iff.1 hname
    · obtain ⟨entries, rfl, e, he, rfl | hpart⟩ := mem_keysWith_iff.1 (written_vars ▸ h)
      · exact .name hname he
      · exact List.mem_singleton.1 hpart ▸ .definition he
    · obtain ⟨entries, rfl, ⟨label, content⟩, he, rfl | hpart⟩ :=
        mem_keysWith_iff.1 (written_machineTypes ▸ h)
      · exact .name hname he
      · obtain ⟨overrides, rfl, e, he', hpart⟩ := mem_keysWith_iff.1 hpart
        exact .override he he' (hpart.imp_right List.mem_singleton.1)
    · exact becomesText_of_mem_keysWith_items (.inl rfl) (written_arrays ▸ h)
    · exact becomesText_of_mem_keysWith_items (.inr rfl) (written_schemas ▸ h)
  · rw [written_of_not_mem hname] at h
    cases h

/-- Some number in the section `name` has to become text, and is too long for that. -/
def IsOverlongSection (sections : Table String Value) (name : String) : Prop :=
  ∃ v part n, sections.get? name = some v ∧ BecomesText name v part ∧ part.Holds n ∧ IsTooLong n

theorem mem_overlongSections_iff :
    name ∈ overlongSections sections ↔ IsOverlongSection sections name := by
  rw [overlongSections, List.mem_map]
  simp only [List.mem_filter, List.any_eq_true, mem_written_iff, isOverlong_iff]
  constructor
  · rintro ⟨e, ⟨he, part, hpart, n, hn, hlong⟩, rfl⟩
    exact ⟨e.2, part, n, Table.get?_eq_some_iff_mem.2 he, hpart, hn, hlong⟩
  · rintro ⟨v, part, n, hv, hpart, hn, hlong⟩
    exact ⟨(name, v), ⟨Table.get?_eq_some_iff_mem.1 hv, part, hpart, n, hn, hlong⟩, rfl⟩

end Variables

/-! ## Shapes -/

namespace Value

/-- It is a mapping, or null in the place of one. -/
def IsMapping (v : Value) : Prop := v = .null ∨ ∃ entries, v = .map entries

/-- It is a list, or null in the place of one. -/
def IsList (v : Value) : Prop := v = .null ∨ ∃ items, v = .list items

/-- It is a list of field names, or one text in the place of one. -/
def IsFieldList (v : Value) : Prop := (∃ s, v = .string s) ∨ ∃ items, v = .list items

end Value

namespace Variables

variable {α : Type} {name : String} {v : Value} {i : Issue} {defect : Defect}

theorem mapping_eq_error_iff : mapping v = .error defect ↔ defect = .notMapping ∧ ¬v.IsMapping := by
  cases v <;> simp [mapping, Value.IsMapping, eq_comm]

theorem definitions_eq_error_iff :
    definitions v = .error defect ↔ defect = .notMapping ∧ ¬v.IsMapping := by
  rw [← mapping_eq_error_iff, definitions]
  cases mapping v <;> simp [Except.map]

theorem records_eq_error_iff : records v = .error defect ↔ defect = .notList ∧ ¬v.IsList := by
  cases v <;> simp [records, Value.IsList, eq_comm]

theorem fieldNames_eq_error_iff :
    fieldNames v = .error defect ↔ defect = .notList ∧ ¬v.IsFieldList := by
  cases v <;> simp [fieldNames, Value.IsFieldList, eq_comm]

/-- The value of the last entry that is filed under `name`. -/
def lastUnder? (entries : List (Value × Value)) (name : String) : Option Value :=
  (entries.reverse.find? fun e => e.1.keyName = name).map (·.2)

theorem get?_members (entries : List (Value × Value)) (name : String) :
    (members entries).get? name = lastUnder? entries name := by
  rw [members, Table.get?_ofList, ← List.map_reverse, lookup_map_fst, lastUnder?]

theorem mem_issues_readSection {read : Value → Except Defect α} {fallback : α} :
    i ∈ (readSection name fallback read v).issues ↔
      ∃ defect, read v = .error defect ∧ i = ⟨[name], defect⟩ := by
  rw [readSection]
  split <;> next h => simp [h]

/-- What is wrong in a section whose members have to be shaped. -/
theorem mem_issues_readMembers {read : Value → Except Defect α} {IsShaped : Value → Prop}
    (hread : ∀ w d, read w = .error d ↔ d = defect ∧ ¬IsShaped w) :
    i ∈ (readMembers name read v).issues ↔
      ¬v.IsMapping ∧ i = ⟨[name], .notMapping⟩ ∨
      ∃ entries key w, v = .map entries ∧ lastUnder? entries key = some w ∧ ¬IsShaped w ∧
        i = ⟨[name, key], defect⟩ := by
  have hmember (key : String) (w : Value) :
      (key, w) ∈ (readSection name .empty mapping v).result.entries ↔
        ∃ entries, v = .map entries ∧ lastUnder? entries key = some w := by
    simp only [← get?_members, Table.get?_eq_some_iff_mem]
    cases v <;> simp [readSection, mapping, Table.empty]
  rw [readMembers, List.mem_append, mem_issues_readSection]
  refine or_congr ?_ ?_
  · simp only [mapping_eq_error_iff]
    constructor
    · rintro ⟨_, ⟨rfl, hshape⟩, rfl⟩
      exact ⟨hshape, rfl⟩
    · rintro ⟨hshape, rfl⟩
      exact ⟨_, ⟨rfl, hshape⟩, rfl⟩
  rw [List.mem_filterMap]
  constructor
  · rintro ⟨r, hr, hi⟩
    obtain ⟨⟨key, w⟩, hmem, rfl⟩ := List.mem_map.1 hr
    obtain ⟨entries, rfl, hlast⟩ := (hmember key w).1 hmem
    cases hw : read w with
    | ok result => simp [hw] at hi
    | error d =>
      obtain ⟨rfl, hshape⟩ := (hread w d).1 hw
      exact ⟨entries, key, w, rfl, hlast, hshape, by simpa [hw] using hi.symm⟩
  · rintro ⟨entries, key, w, rfl, hlast, hshape, rfl⟩
    have hmem := (hmember key w).2 ⟨entries, rfl, hlast⟩
    refine ⟨(key, read w), List.mem_map.2 ⟨(key, w), hmem, rfl⟩, ?_⟩
    simp [(hread w defect).2 ⟨rfl, hshape⟩]

end Variables

end MachineConfig
