import MachineConfig.Proofs.Variables.FileLemmas

/-!
How a variables file is refused. Where its content loads as a mapping whose sections are named by
texts, or as no mapping, or is no YAML, a file is read or reported as a fault of its own
(`File.ofContent_of_isReportable`). Any other content comes through as one of three failures that
nothing reports (`Escapes`, `File.ofContent_of_not_isReportable`).
-/

namespace MachineConfig.Variables

variable {read : Loader} {content : ByteArray}

/-- The value is a text, so that it can name a section. -/
def isName : Value → Bool
  | .string _ => true
  | _ => false

/-- All that can be wrong with the content is what the reader of variables files looks for. -/
def IsReportable (read : Loader) (content : ByteArray) : Prop :=
  match read content with
  | .error fault => fault = .notYaml
  | .ok (.map entries) => ∀ e ∈ entries, isName e.1
  | .ok _ => True

/-- The failure that a content comes through as, which is not reported as one of the file. -/
inductive Escapes (read : Loader) (content : ByteArray) : Failure → Prop
  | undecodable (load : read content = .error .undecodable) :
      Escapes read content (.host .undecodable)
  | raised {error : String} (load : read content = .error (.raised error)) :
      Escapes read content (.unloadable error)
  /-- A section is not named by a text. -/
  | unnamed {entries : List (Value × Value)} (load : read content = .ok (.map entries))
      {e : Value × Value} (mem : e ∈ entries) (name : isName e.1 = false) :
      Escapes read content .unnamedSection

theorem Escapes.isReported {cause : Failure} (h : Escapes read content cause) :
    cause.isReported = false := by
  cases h <;> rfl

theorem sections?_eq_none_iff {entries : List (Value × Value)} :
    sections? entries = none ↔ ∃ e ∈ entries, isName e.1 = false := by
  rw [sections?, Option.map_eq_none_iff]
  induction entries with
  | nil => simp
  | cons e entries ih =>
    obtain ⟨key, value⟩ := e
    simp only [List.mapM_cons, List.mem_cons, exists_eq_or_imp, ← ih]
    cases key <;> cases entries.mapM sections?.namedEntry? <;> simp [sections?.namedEntry?, isName]

namespace File

/-- A file that can only be wrong as a variables file is read or reported. -/
theorem ofContent_of_isReportable (h : IsReportable read content) (file : Path) :
    (∃ f, ofContent read file content = .ok f) ∨
      ∃ fault, ofContent read file content = .error (.variablesFile file fault) := by
  rw [IsReportable] at h
  rw [ofContent]
  cases hload : read content with
  | error fault =>
    rw [hload] at h
    obtain rfl : fault = .notYaml := h
    exact .inr ⟨.notYaml, rfl⟩
  | ok value =>
    rw [hload] at h
    cases value with
    | null => exact .inl ⟨_, rfl⟩
    | map entries =>
      cases hsections : sections? entries with
      | none =>
        obtain ⟨e, he, hname⟩ := sections?_eq_none_iff.1 hsections
        rw [h e he] at hname
        cases hname
      | some sections =>
        cases hwritten : ofWritten sections with
        | ok f => exact .inl ⟨f, by simp [hsections, hwritten, Except.mapError]⟩
        | error issues => exact .inr ⟨.shape issues, by simp [hsections, hwritten, Except.mapError]⟩
    | _ => exact .inr ⟨_, rfl⟩

/-- Any other file ends in a failure that is not reported as one of the file. -/
theorem ofContent_of_not_isReportable (h : ¬IsReportable read content) (file : Path) :
    ∃ cause, Escapes read content cause ∧ ofContent read file content = .error cause := by
  rw [IsReportable] at h
  rw [ofContent]
  cases hload : read content with
  | error fault =>
    rw [hload] at h
    cases fault with
    | notYaml => exact absurd rfl h
    | undecodable => exact ⟨_, .undecodable hload, rfl⟩
    | raised error => exact ⟨_, .raised hload, rfl⟩
  | ok value =>
    rw [hload] at h
    cases value with
    | map entries =>
      obtain ⟨e, he, hname⟩ : ∃ e ∈ entries, isName e.1 = false := by simpa using h
      have hsections : sections? entries = none := sections?_eq_none_iff.2 ⟨e, he, hname⟩
      exact ⟨_, .unnamed hload he hname, by simp [hsections]⟩
    | _ => exact absurd trivial h

end File

end MachineConfig.Variables
