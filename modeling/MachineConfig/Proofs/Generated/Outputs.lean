import MachineConfig.Proofs.Generated.PlaceLemmas

/-!
Which file a template is rendered to. A template whose name leaves a proper name without the
extension has a file of its own among the generated ones, and the others lead to the directory of
these or to the one above (`Generated.output_of_mem_templates`); where the extension is empty, that
is all of them.
-/

namespace MachineConfig

namespace Layout

variable {l : Layout} {name other : String}

/-- There is an extension, and what stands before it in the name of a template can name a file. -/
def LeavesName (l : Layout) (name : String) : Prop :=
  l.extension ≠ "" ∧ ∀ front ∈ ["", ".", ".."], name ≠ front ++ l.extension

instance (l : Layout) (name : String) : Decidable (l.LeavesName name) :=
  inferInstanceAs (Decidable (_ ∧ _))

/-- What is left of the name of a template, told by the whole name. -/
theorem outputName_eq_iff (hextension : l.extension ≠ "") (h : l.isTemplateName name) :
    l.outputName name = other ↔ name = other ++ l.extension := by
  rw [← String.append_left_inj l.extension, outputName_append_extension hextension h]

theorem isName_outputName_iff (hname : IsName name) (h : l.isTemplateName name) :
    IsName (l.outputName name) ↔ l.LeavesName name := by
  by_cases hextension : l.extension = ""
  · have hnothing : ¬IsName (l.outputName name) := fun houtput =>
      houtput.ne_empty (outputName_of_extension_eq_empty hextension name)
    simp [hnothing, LeavesName, hextension]
  · have hfront (front : String) : name ≠ front ++ l.extension ↔ l.outputName name ≠ front :=
      (outputName_eq_iff hextension h).symm.not
    simp only [LeavesName, hfront, List.forall_mem_cons, List.not_mem_nil, false_implies,
      implies_true, and_true]
    constructor
    · intro houtput
      exact ⟨hextension, houtput.ne_empty, houtput.ne_here, houtput.ne_above⟩
    · rintro ⟨-, hempty, hhere, habove⟩
      exact ⟨hempty, hhere, habove, noSlash_outputName hname⟩

theorem output_of_leavesName (hname : IsName name) (h : l.isTemplateName name)
    (hleaves : l.LeavesName name) :
    l.output (l.template name) = l.generatedDir.below [l.outputName name] := by
  rw [output_of_isName hname ((isName_outputName_iff hname h).2 hleaves), generatedDir_eq,
    Path.below_below]
  rfl

theorem output_of_not_leavesName (hname : IsName name) (h : l.isTemplateName name)
    (hleaves : ¬l.LeavesName name) :
    l.output (l.template name) =
      if name = ".." ++ l.extension then l.generatedDir.below [".."] else l.generatedDir := by
  rw [output_template hname]
  by_cases hextension : l.extension = ""
  · have hother : name ≠ ".." ++ l.extension := by
      rw [hextension]
      exact hname.ne_above
    rw [if_pos (.inl (outputName_of_extension_eq_empty hextension name)), if_neg hother]
  · by_cases habove : l.outputName name = ".."
    · rw [if_pos ((outputName_eq_iff hextension h).1 habove), habove, if_neg (by decide)]
    · have hnothing : namesNothing (l.outputName name) := by
        by_contra hsomething
        obtain ⟨hempty, hhere⟩ := not_or.1 hsomething
        exact hleaves ((isName_outputName_iff hname h).1
          ⟨hempty, hhere, habove, noSlash_outputName hname⟩)
      rw [if_pos hnothing, if_neg fun heq => habove ((outputName_eq_iff hextension h).2 heq)]

end Layout

namespace Generated

open Store

variable {l : Layout} {s : Store} {ts : List Path} {p : Path}

theorem eq_of_output_eq {q : Path} (h : Listed l ts) (hp : p ∈ ts) (hq : q ∈ ts)
    (hleaves : l.LeavesName p.name) (heq : l.output q = l.output p) : q = p := by
  obtain ⟨name, hname, htemplate, rfl⟩ := h.template p hp
  obtain ⟨other, hother, htemplate', rfl⟩ := h.template q hq
  rw [Layout.name_template hname] at hleaves
  have hproper := (Layout.isName_outputName_iff hname htemplate).2 hleaves
  rw [Layout.output_of_leavesName hname htemplate hleaves] at heq
  by_cases hleaves' : l.LeavesName other
  · rw [Layout.output_of_leavesName hother htemplate' hleaves', Path.below_inj] at heq
    rw [Layout.outputName_inj hleaves.1 htemplate' htemplate (List.cons.inj heq).1]
  · rw [Layout.output_of_not_leavesName hother htemplate' hleaves'] at heq
    split at heq
    · rw [Path.below_inj] at heq
      exact (hproper.ne_above (List.cons.inj heq).1.symm).elim
    · exact (Path.ne_below_of_ne_nil (List.cons_ne_nil _ _) heq.symm).elim

/-- A template whose name leaves a proper name has the file of that name among the generated ones,
and has it to itself. Of any other the output is the directory of the generated files, or the one
above it. -/
theorem output_of_mem_templates (h : s.IsTree) (hlist : templates l s = .ok ts) (hp : p ∈ ts) :
    (l.LeavesName p.name → ∃ name, IsName name ∧ name ++ l.extension = p.name ∧
      l.output p = l.generatedDir.below [name] ∧ ∀ q ∈ ts, l.output q = l.output p → q = p) ∧
    (¬l.LeavesName p.name → l.output p =
      if p.name = ".." ++ l.extension then l.generatedDir.below [".."] else l.generatedDir) := by
  have hlisted := listed_templates h hlist
  obtain ⟨name, hname, htemplate, rfl⟩ := hlisted.template p hp
  constructor
  · intro hleaves
    have halone : ∀ q ∈ ts, l.output q = l.output (l.template name) → q = l.template name :=
      fun q hq heq => eq_of_output_eq hlisted hp hq hleaves heq
    rw [Layout.name_template hname] at hleaves ⊢
    exact ⟨l.outputName name, (Layout.isName_outputName_iff hname htemplate).2 hleaves,
      Layout.outputName_append_extension hleaves.1 htemplate,
      Layout.output_of_leavesName hname htemplate hleaves, halone⟩
  · intro hleaves
    rw [Layout.name_template hname] at hleaves ⊢
    exact Layout.output_of_not_leavesName hname htemplate hleaves

/-- Three templates, two of which leave no name. -/
def namelessTree : Store :=
  treeAt "root"
    [("a.tmpl", .file ⟨"a".toUTF8, 0o644, 0⟩), (".tmpl", .file ⟨"b".toUTF8, 0o644, 0⟩),
      ("...tmpl", .file ⟨"c".toUTF8, 0o644, 0⟩)] []

theorem output_namelessTree :
    namelessTree.IsTree ∧
      templates (layoutAt "root") namelessTree =
        .ok (["a.tmpl", ".tmpl", "...tmpl"].map (layoutAt "root").template) ∧
      (layoutAt "root").output ((layoutAt "root").template "a.tmpl") =
        (layoutAt "root").generatedDir.below ["a"] ∧
      (layoutAt "root").output ((layoutAt "root").template "...tmpl") =
        (layoutAt "root").generatedDir.below [".."] := by
  have hs : namelessTree.IsTree := isTree_of_forall_entries (by decide +kernel)
  have hlist : templates (layoutAt "root") namelessTree =
      .ok (["a.tmpl", ".tmpl", "...tmpl"].map (layoutAt "root").template) := by
    decide +kernel
  refine ⟨hs, hlist, ?_, ?_⟩
  · obtain ⟨name, -, hname, houtput, -⟩ :=
      (output_of_mem_templates hs hlist (p := (layoutAt "root").template "a.tmpl")
        (by decide)).1 (by decide)
    rw [houtput]
    obtain rfl : name = "a" := String.append_left_inj ".tmpl" |>.1 hname
    rfl
  · rw [(output_of_mem_templates hs hlist (p := (layoutAt "root").template "...tmpl")
      (by decide)).2 (by decide)]
    decide

/-- Where the extension is empty, templates have one output, which is no file. -/
theorem output_empty_extension :
    let l : Layout := { layoutAt "root" with extension := "" }
    let s := treeAt "root"
      [("a", .file ⟨"a".toUTF8, 0o644, 0⟩), ("b", .file ⟨"b".toUTF8, 0o644, 0⟩)] []
    templates l s = .ok [l.template "a", l.template "b"] ∧ l.template "a" ≠ l.template "b" ∧
      l.output (l.template "a") = l.generatedDir ∧ l.output (l.template "b") = l.generatedDir := by
  decide +kernel

end Generated

end MachineConfig
