import MachineConfig.Proofs.Variables.SectionLemmas

/-!
Which sections a variables file may have. The issues that it is refused with are all that is wrong
in it (`File.ofWritten_refuses`): a section that has no meaning, a section or member of the wrong
shape (`IsViolation`), and a number that is too long where it has to become text. Records may have
any shape, but not such a number (`File.ofWritten_overlong`).
-/

namespace MachineConfig.Variables

variable {α : Type} {sections : Table String Value} {name : String} {i : Issue}

/-- A section or member does not have the shape that it has to have. -/
inductive IsViolation (sections : Table String Value) : Issue → Prop where
  | unknownSection {name : String} {v : Value} : sections.get? name = some v →
      name ∉ File.sections → IsViolation sections ⟨[name], .unknownSection⟩
  | notMapping {name : String} {v : Value} : sections.get? name = some v →
      name ∈ File.sections → ¬v.IsMapping → IsViolation sections ⟨[name], .notMapping⟩
  | machineType {entries : List (Value × Value)} {label : String} {v : Value} :
      sections.get? "machine_types" = some (.map entries) → lastUnder? entries label = some v →
        ¬v.IsMapping → IsViolation sections ⟨["machine_types", label], .notMapping⟩
  | array {entries : List (Value × Value)} {name : String} {v : Value} :
      sections.get? "arrays" = some (.map entries) → lastUnder? entries name = some v →
        ¬v.IsList → IsViolation sections ⟨["arrays", name], .notList⟩
  | schema {entries : List (Value × Value)} {name : String} {v : Value} :
      sections.get? "schemas" = some (.map entries) → lastUnder? entries name = some v →
        ¬v.IsFieldList → IsViolation sections ⟨["schemas", name], .notList⟩

/-- What is wrong with a file: where a number is too long that, and elsewhere the shapes. -/
inductive IsRefusal (sections : Table String Value) : Issue → Prop where
  | overlongNumber {name : String} : IsOverlongSection sections name →
      IsRefusal sections ⟨[name], .overlongNumber⟩
  | violation {i : Issue} : IsViolation sections i →
      (∀ name ∈ i.location.head?, ¬IsOverlongSection sections name) → IsRefusal sections i

namespace File

/-! ## Shapes -/

/-- The issues with the shapes of sections and members. -/
def shapeIssues (sections : Table String Value) : List Issue :=
  let content (name : String) := sections.getD name (.map [])
  (readSection "vars" .empty definitions (content "vars")).issues ++
    (readMembers "machine_types" definitions (content "machine_types")).issues ++
    (readMembers "arrays" records (content "arrays")).issues ++
    (readMembers "schemas" fieldNames (content "schemas")).issues ++
    (sections.keys.filter (· ∉ File.sections)).map fun name => ⟨[name], .unknownSection⟩

theorem ofSections_cases (sections : Table String Value) :
    shapeIssues sections = [] ∧ (∃ f, ofSections sections = .ok f) ∨
      shapeIssues sections ≠ [] ∧ ofSections sections = .error (shapeIssues sections) := by
  by_cases h : shapeIssues sections = []
  · exact .inl ⟨h, _, if_pos (List.isEmpty_iff.2 h)⟩
  · exact .inr ⟨h, if_neg fun hempty => h (List.isEmpty_iff.1 hempty)⟩

/-- The variables have to be a mapping, if there are any. -/
theorem mem_issues_vars :
    i ∈ (readSection "vars" .empty definitions (sections.getD "vars" (.map []))).issues ↔
      ∃ v, sections.get? "vars" = some v ∧ ¬v.IsMapping ∧ i = ⟨["vars"], .notMapping⟩ := by
  simp only [mem_issues_readSection, definitions_eq_error_iff, Table.getD]
  cases sections.get? "vars" <;> simp [Value.IsMapping, and_assoc]

/-- A section that is there has to be a mapping, and its members have to be shaped. -/
theorem mem_issues_members {read : Value → Except Defect α} {IsShaped : Value → Prop}
    {defect : Defect} (hread : ∀ w d, read w = .error d ↔ d = defect ∧ ¬IsShaped w) :
    i ∈ (readMembers name read (sections.getD name (.map []))).issues ↔
      (∃ v, sections.get? name = some v ∧ ¬v.IsMapping ∧ i = ⟨[name], .notMapping⟩) ∨
      ∃ entries key w, sections.get? name = some (.map entries) ∧
        lastUnder? entries key = some w ∧ ¬IsShaped w ∧ i = ⟨[name, key], defect⟩ := by
  rw [mem_issues_readMembers hread, Table.getD]
  cases sections.get? name with
  | none =>
    have hnone (key : String) : lastUnder? [] key = none := rfl
    simp [Value.IsMapping, hnone]
  | some v => simp

theorem mem_unknown :
    i ∈ ((sections.keys.filter (· ∉ File.sections)).map fun name => ⟨[name], .unknownSection⟩) ↔
      ∃ name v, sections.get? name = some v ∧ name ∉ File.sections ∧
        i = ⟨[name], .unknownSection⟩ := by
  simp only [List.mem_map, List.mem_filter, decide_eq_true_eq, Table.mem_keys_iff_get?_ne_none,
    Option.ne_none_iff_exists']
  constructor
  · rintro ⟨name, ⟨⟨v, hv⟩, hname⟩, rfl⟩
    exact ⟨name, v, hv, hname, rfl⟩
  · rintro ⟨name, v, hv, hname, rfl⟩
    exact ⟨name, ⟨⟨v, hv⟩, hname⟩, rfl⟩

theorem mem_shapeIssues_iff : i ∈ shapeIssues sections ↔ IsViolation sections i := by
  simp only [shapeIssues, List.mem_append, mem_issues_vars,
    mem_issues_members fun _ _ => definitions_eq_error_iff,
    mem_issues_members fun _ _ => records_eq_error_iff,
    mem_issues_members fun _ _ => fieldNames_eq_error_iff, mem_unknown]
  constructor
  · rintro ((((hvars | htypes) | harrays) | hschemas) | ⟨name, v, hv, hname, rfl⟩)
    · obtain ⟨v, hv, hshape, rfl⟩ := hvars
      exact .notMapping hv (by decide) hshape
    · obtain ⟨v, hv, hshape, rfl⟩ | ⟨entries, label, v, hv, hlast, hshape, rfl⟩ := htypes
      · exact .notMapping hv (by decide) hshape
      · exact .machineType hv hlast hshape
    · obtain ⟨v, hv, hshape, rfl⟩ | ⟨entries, name, v, hv, hlast, hshape, rfl⟩ := harrays
      · exact .notMapping hv (by decide) hshape
      · exact .array hv hlast hshape
    · obtain ⟨v, hv, hshape, rfl⟩ | ⟨entries, name, v, hv, hlast, hshape, rfl⟩ := hschemas
      · exact .notMapping hv (by decide) hshape
      · exact .schema hv hlast hshape
    · exact .unknownSection hv hname
  · intro h
    cases h with
    | unknownSection hv hname => exact .inr ⟨_, _, hv, hname, rfl⟩
    | notMapping hv hname hshape =>
      obtain rfl | rfl | rfl | rfl := mem_sections_iff.1 hname
      · exact .inl (.inl (.inl (.inl ⟨_, hv, hshape, rfl⟩)))
      · exact .inl (.inl (.inl (.inr (.inl ⟨_, hv, hshape, rfl⟩))))
      · exact .inl (.inl (.inr (.inl ⟨_, hv, hshape, rfl⟩)))
      · exact .inl (.inr (.inl ⟨_, hv, hshape, rfl⟩))
    | machineType hv hlast hshape =>
      exact .inl (.inl (.inl (.inr (.inr ⟨_, _, _, hv, hlast, hshape, rfl⟩))))
    | array hv hlast hshape =>
      exact .inl (.inl (.inr (.inr ⟨_, _, _, hv, hlast, hshape, rfl⟩)))
    | schema hv hlast hshape => exact .inl (.inr (.inr ⟨_, _, _, hv, hlast, hshape, rfl⟩))

/-! ## Numbers that are too long -/

/-- A section with an overlong number has no other issues. -/
theorem ofWritten_of_ne_nil (h : overlongSections sections ≠ []) :
    ofWritten sections = .error ((overlongSections sections).map (⟨[·], .overlongNumber⟩) ++
      (shapeIssues sections).filter fun i =>
        i.location.head?.all (· ∉ overlongSections sections)) := by
  rw [ofWritten]
  split
  · next hnone => exact absurd hnone h
  · obtain ⟨hnil, f, hread⟩ | ⟨-, hread⟩ := ofSections_cases sections
    · simp only [hread, hnil, List.filter_nil]
    · simp only [hread]

theorem forall_head?_iff {i : Issue} : i.location.head?.all (· ∉ overlongSections sections) ↔
    ∀ name ∈ i.location.head?, ¬IsOverlongSection sections name := by
  simp only [← mem_overlongSections_iff]
  cases i.location.head? <;> simp

theorem isRefusal_iff {i : Issue} : IsRefusal sections i ↔
    (∃ name, IsOverlongSection sections name ∧ ⟨[name], .overlongNumber⟩ = i) ∨
      IsViolation sections i ∧ ∀ name ∈ i.location.head?, ¬IsOverlongSection sections name := by
  constructor
  · rintro (⟨hlong⟩ | ⟨hviolation, hhead⟩)
    · exact .inl ⟨_, hlong, rfl⟩
    · exact .inr ⟨hviolation, hhead⟩
  · rintro (⟨name, hlong, rfl⟩ | ⟨hviolation, hhead⟩)
    · exact .overlongNumber hlong
    · exact .violation hviolation hhead

/-- A variables file is refused with all that is wrong with its sections, and read if that is
nothing. -/
theorem ofWritten_refuses (sections : Table String Value) :
    ∃ issues : List Issue, (∀ i, i ∈ issues ↔ IsRefusal sections i) ∧
      (issues = [] ∧ (∃ f, ofWritten sections = .ok f) ∨
        issues ≠ [] ∧ ofWritten sections = .error issues) := by
  by_cases hnone : overlongSections sections = []
  · have hshort (name : String) : ¬IsOverlongSection sections name := by
      rw [← mem_overlongSections_iff, hnone]
      exact List.not_mem_nil
    have hwritten : ofWritten sections = ofSections sections := by
      rw [ofWritten, hnone]
    refine ⟨shapeIssues sections, fun i => ?_, hwritten ▸ ofSections_cases sections⟩
    simp [mem_shapeIssues_iff, isRefusal_iff, hshort]
  · refine ⟨_, fun i => ?_, .inr ⟨?_, ofWritten_of_ne_nil hnone⟩⟩
    · rw [List.mem_append, List.mem_map, List.mem_filter, forall_head?_iff, mem_shapeIssues_iff,
        isRefusal_iff]
      simp only [mem_overlongSections_iff]
    · exact List.append_ne_nil_of_left_ne_nil (by simpa using hnone) _

/-- A variable that is a number of 4301 digits: nothing has a wrong shape, and still the file is
refused. -/
theorem ofWritten_overlong :
    let sections : Table String Value :=
      .ofList [("vars", .map [(.string "a", .int (Int.ofNat (Nat.pow 10 4300)))])]
    ofWritten sections = .error [⟨["vars"], .overlongNumber⟩] ∧ ¬∃ i, IsViolation sections i := by
  refine ⟨by decide +kernel, ?_⟩
  generalize Int.ofNat (Nat.pow 10 4300) = n
  have hget (name : String) (v : Value) :
      (Table.ofList [("vars", Value.map [(.string "a", .int n)])]).get? name = some v ↔
        name = "vars" ∧ v = .map [(.string "a", .int n)] := by
    simp [Table.ofList, eq_comm]
  rintro ⟨i, h⟩
  cases h with
  | unknownSection hv hname => simp [((hget _ _).1 hv).1, mem_sections_iff] at hname
  | notMapping hv _ hshape => exact hshape (.inr ⟨_, ((hget _ _).1 hv).2⟩)
  | machineType hv => simp [hget] at hv
  | array hv => simp [hget] at hv
  | schema hv => simp [hget] at hv

end File

end MachineConfig.Variables
