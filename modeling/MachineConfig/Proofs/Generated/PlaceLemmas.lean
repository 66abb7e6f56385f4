import Mathlib.Data.List.Nodup
import MachineConfig.Generated.Listing
import MachineConfig.Proofs.Store.WriteLemmas

/-!
Where templates and their generated files lie. All places are told from the location of the root
directory (`Places`); two templates never have a generated file in common
(`Places.template_inj`), for names that leave nothing to name a file by lead to a directory.
-/

namespace MachineConfig

namespace Layout

variable {l : Layout} {name other : String}

theorem generatedDir_eq (l : Layout) : l.generatedDir = l.root.below ["generated"] :=
  Path.child_eq_below ⟨by decide, by decide, by decide, by decide⟩

theorem templatesDir_eq (l : Layout) : l.templatesDir = l.root.below ["templates", "configs"] := by
  have hvariables : l.variablesDir = l.root.below ["templates"] :=
    Path.child_eq_below ⟨by decide, by decide, by decide, by decide⟩
  have htemplates : l.templatesDir = l.variablesDir.below ["configs"] :=
    Path.child_eq_below ⟨by decide, by decide, by decide, by decide⟩
  rw [htemplates, hvariables, Path.below_below]
  rfl

theorem noSlash_templatesDir (l : Layout) : '/' ∉ l.templatesDir.name.toList := by
  rw [l.templatesDir_eq, Path.name_below (List.cons_ne_nil _ _)]
  decide

theorem mem_outputName {c : Char} (h : c ∈ (l.outputName name).toList) : c ∈ name.toList := by
  rw [outputName] at h
  split at h
  · simp at h
  · split at h
    · rw [String.toList_ofList] at h
      exact List.mem_of_mem_take h
    · exact h

theorem all_outputName {f : Char → Bool} (h : name.toList.all f) :
    (l.outputName name).toList.all f :=
  List.all_eq_true.2 fun c hc => List.all_eq_true.1 h c (mem_outputName hc)

theorem outputName_of_extension_eq_empty (h : l.extension = "") (name : String) :
    l.outputName name = "" :=
  if_pos h

theorem outputName_append_extension (hextension : l.extension ≠ "") (h : l.isTemplateName name) :
    l.outputName name ++ l.extension = name := by
  rw [outputName, if_neg hextension, if_pos h]
  obtain ⟨front, hfront⟩ := List.isSuffixOf_iff_suffix.1 h
  rw [← String.toList_inj, String.toList_append, String.toList_ofList, ← hfront]
  simp

theorem outputName_inj (hextension : l.extension ≠ "") (h : l.isTemplateName name)
    (hother : l.isTemplateName other) (heq : l.outputName name = l.outputName other) :
    name = other := by
  rw [← outputName_append_extension hextension h, heq,
    outputName_append_extension hextension hother]

/-- The path of a template. -/
def template (l : Layout) (name : String) : Path := l.templatesDir.child name

theorem template_eq (h : IsName name) :
    l.template name = l.root.below ["templates", "configs", name] := by
  rw [template, Path.child_eq_below h, templatesDir_eq, Path.below_below]
  rfl

@[simp] theorem name_template (h : IsName name) : (l.template name).name = name := by
  rw [template_eq h]
  exact @Path.name_below_append _ name ["templates", "configs"]

/-- A name that stands for no file of its own among the generated files. -/
def namesNothing (name : String) : Prop := name = "" ∨ name = "."

instance (name : String) : Decidable (namesNothing name) := inferInstanceAs (Decidable (_ ∨ _))

theorem noSlash_outputName (h : IsName name) : '/' ∉ (l.outputName name).toList :=
  fun hmem => h.noSlash (mem_outputName hmem)

theorem output_template (h : IsName name) :
    l.output (l.template name) =
      if namesNothing (l.outputName name) then l.generatedDir
      else l.generatedDir.below [l.outputName name] := by
  rw [output, name_template h, Path.child_of_noSlash (noSlash_outputName h)]
  by_cases hnothing : l.outputName name = "" ∨ l.outputName name = "."
  · rw [if_pos hnothing, Path.below_nil]
    exact (if_pos hnothing).symm
  · rw [if_neg hnothing]
    exact (if_neg hnothing).symm

theorem output_of_isName (h : IsName name) (houtput : IsName (l.outputName name)) :
    l.output (l.template name) = l.root.below ["generated", l.outputName name] := by
  have hsomething : ¬namesNothing (l.outputName name) :=
    not_or.2 ⟨houtput.ne_empty, houtput.ne_here⟩
  rw [output_template h, if_neg hsomething, generatedDir_eq, Path.below_below]
  rfl

theorem name_output (h : IsName name) (houtput : IsName (l.outputName name)) :
    (l.output (l.template name)).name = l.outputName name := by
  rw [output_of_isName h houtput]
  exact @Path.name_below_append _ _ ["generated"]

/-- The path of a generated file can be named as the directory and the template can. -/
theorem isNameable_output {template : Path} (h : Store.IsNameable l.generatedDir)
    (hslash : '/' ∉ template.name.toList) (hname : template.name.toList.all Text.isNameable) :
    Store.IsNameable (l.output template) := by
  have houtput : '/' ∉ (l.outputName template.name).toList := fun hmem =>
    hslash (mem_outputName hmem)
  rw [output, Path.child_of_noSlash houtput]
  intro other hother
  rcases List.mem_append.1 hother with hdirectory | hlast
  · exact h other hdirectory
  · split at hlast
    · cases hlast
    · obtain rfl := List.mem_singleton.1 hlast
      exact all_outputName hname

end Layout

namespace Generated

open Store

variable {l : Layout} {s t : Store} {base location p : Path} {name other : String}

/-- The root directory lies at `base`, with the directory of generated files in it. -/
structure Places (l : Layout) (s : Store) (base : Path) : Prop where
  walk_root : s.walk l.root = .ok base
  directory_base : s.at? base = some .directory
  locate_generatedDir : s.locate l.generatedDir = .ok (base.below ["generated"])
  directory_generated : s.at? (base.below ["generated"]) = some .directory

/-- A root directory that has a directory of generated files lies somewhere. -/
theorem exists_places (hlocate : s.locate l.generatedDir = .ok location)
    (hdirectory : s.at? location = some .directory) : ∃ base, Places l s base := by
  have hwalk := (locate_eq_ok_iff.1 hlocate).2
  rw [l.generatedDir_eq, walk_below_eq_ok_iff] at hwalk
  obtain ⟨base, hbase, hstep⟩ := hwalk
  obtain rfl := eq_below_of_step_eq_ok hstep (by decide)
  exact ⟨base, hbase, directory_of_step_eq_ok hstep, hlocate, hdirectory⟩

/-- A place below the root directory, if a path of proper names leads there. -/
theorem eq_below_of_locate {names : List String} (hroot : s.walk l.root = .ok base)
    (hnames : ".." ∉ names) (h : s.locate (l.root.below names) = .ok location) :
    location = base.below names := by
  have hwalk := (locate_eq_ok_iff.1 h).2
  rw [walk_below, hroot] at hwalk
  exact eq_below_of_foldlM_step hnames hwalk

theorem obstacle?_root (h : obstacle? (l.root.below [name]) = none) : obstacle? l.root = none := by
  by_cases hnames : l.root.names = []
  · generalize l.root = root at hnames
    obtain ⟨anchor, names⟩ := root
    obtain rfl : names = [] := hnames
    cases anchor <;> decide
  · exact obstacle?_of_below hnames h

namespace Places

theorem of_sameDirectories (h : Places l s base) (hsame : SameDirectories s t) : Places l t base :=
  ⟨hsame.walk_eq l.root ▸ h.walk_root, (hsame.directory _).1 h.directory_base,
    hsame.locate_eq l.generatedDir ▸ h.locate_generatedDir,
    (hsame.directory _).1 h.directory_generated⟩

theorem locate_root (h : Places l s base) : s.locate l.root = .ok base := by
  have hgenerated := (locate_eq_ok_iff.1 h.locate_generatedDir).1
  rw [l.generatedDir_eq] at hgenerated
  exact locate_eq_ok_iff.2 ⟨obstacle?_root hgenerated, h.walk_root⟩

theorem locate_template (h : Places l s base) (hname : IsName name)
    (hlocate : s.locate (l.template name) = .ok location) :
    location = base.below ["templates", "configs", name] := by
  rw [Layout.template_eq hname] at hlocate
  refine eq_below_of_locate h.walk_root ?_ hlocate
  simp [Ne.symm hname.ne_above]

/-- The path of a generated file leads to the place of its name, or to a directory. -/
theorem locate_output (h : Places l s base) (hname : IsName name)
    (hlocate : s.locate (l.output (l.template name)) = .ok location)
    (hplace : s.at? location ≠ some .directory) :
    IsName (l.outputName name) ∧ location = base.below ["generated", l.outputName name] := by
  rw [Layout.output_template hname] at hlocate
  by_cases hnothing : Layout.namesNothing (l.outputName name)
  · rw [if_pos hnothing, h.locate_generatedDir] at hlocate
    obtain rfl := Except.ok.inj hlocate
    exact (hplace h.directory_generated).elim
  · rw [if_neg hnothing] at hlocate
    have hwalk := (locate_eq_ok_iff.1 hlocate).2
    obtain ⟨above, habove, hstep⟩ := walk_below_eq_ok_iff.1 hwalk
    obtain rfl : base.below ["generated"] = above :=
      Except.ok.inj ((locate_eq_ok_iff.1 h.locate_generatedDir).2.symm.trans habove)
    obtain ⟨-, -, hnext⟩ := step_eq_ok_iff.1 hstep
    split at hnext
    · obtain ⟨-, rfl⟩ := hnext
      rw [Path.parent_below_singleton] at hplace
      exact (hplace h.directory_base).elim
    · next habove =>
      rw [Layout.namesNothing, not_or] at hnothing
      refine ⟨⟨hnothing.1, hnothing.2, habove, Layout.noSlash_outputName hname⟩, ?_⟩
      simpa using hnext

/-- A generated file belongs to one template only. -/
theorem template_inj (h : Places l s base) (hname : IsName name) (hother : IsName other)
    (htemplate : l.isTemplateName name) (htemplate' : l.isTemplateName other)
    (hlocate : s.locate (l.output (l.template name)) = .ok location)
    (hlocate' : s.locate (l.output (l.template other)) = .ok location)
    (hplace : s.at? location ≠ some .directory) : name = other := by
  obtain ⟨houtput, rfl⟩ := h.locate_output hname hlocate hplace
  obtain ⟨-, heq⟩ := h.locate_output hother hlocate' hplace
  have hextension : l.extension ≠ "" := fun hempty =>
    houtput.ne_empty (Layout.outputName_of_extension_eq_empty hempty name)
  refine Layout.outputName_inj hextension htemplate htemplate' ?_
  simpa using heq

/-- Templates do not lie among the generated files. -/
theorem source_ne (h : Places l s base) (hname : IsName name) (hother : IsName other)
    (houtput : s.locate (l.output (l.template name)) = .ok location)
    (hplace : s.at? location ≠ some .directory) {source : Path}
    (hsource : s.locate (l.template other) = .ok source) : source ≠ location := by
  obtain ⟨-, rfl⟩ := h.locate_output hname houtput hplace
  obtain rfl := h.locate_template hother hsource
  simp

/-- The directory that a generated file goes to: that of the generated files, or the root directory
if there is nothing to name a file by. -/
theorem locate_parent_output (h : Places l s base) (hname : IsName name) :
    s.locate (l.output (l.template name)).parent =
      .ok (if Layout.namesNothing (l.outputName name) then base else base.below ["generated"]) := by
  rw [Layout.output_template hname]
  split
  · rw [l.generatedDir_eq, Path.parent_below_singleton]
    exact h.locate_root
  · rw [Path.parent_below_singleton]
    exact h.locate_generatedDir

/-- The directory that a generated file goes to is there. -/
theorem exists_directory (h : Places l s base) (hname : IsName name) :
    ∃ directory, s.locate (l.output (l.template name)).parent = .ok directory ∧
      s.at? directory = some .directory := by
  refine ⟨_, h.locate_parent_output hname, ?_⟩
  split
  · exact h.directory_base
  · exact h.directory_generated

end Places

theorem eq_source_of_locate_template (hname : IsName name)
    (htemplate : s.locate (l.template name) = .ok location)
    (hdirectory : s.locate l.templatesDir = .ok directory) : location = directory.below [name] := by
  have hwalk := (locate_eq_ok_iff.1 htemplate).2
  rw [Layout.template, Path.child_eq_below hname, walk_below_eq_ok_iff] at hwalk
  obtain ⟨above, habove, hstep⟩ := hwalk
  obtain rfl : directory = above :=
    Except.ok.inj ((locate_eq_ok_iff.1 hdirectory).2.symm.trans habove)
  exact eq_below_of_step_eq_ok hstep hname.ne_above

/-- The place of a generated file is not that of a template. -/
theorem ne_source_of_locate_output (hname : IsName name)
    (houtput : s.locate (l.output (l.template name)) = .ok location)
    (hdirectory : s.locate l.templatesDir = .ok directory) (other : String) :
    location ≠ directory.below [other] := by
  rw [Layout.output_template hname] at houtput
  rw [l.templatesDir_eq] at hdirectory
  obtain ⟨base, hbase⟩ : ∃ base, s.walk l.root = .ok base := by
    have hwalk := (locate_eq_ok_iff.1 hdirectory).2
    rw [walk_below] at hwalk
    cases hroot : s.walk l.root with
    | error obstacle => simp [hroot, bind, Except.bind] at hwalk
    | ok base => exact ⟨base, rfl⟩
  obtain rfl := eq_below_of_locate hbase (by decide) hdirectory
  split at houtput
  · rw [l.generatedDir_eq] at houtput
    obtain rfl := eq_below_of_locate hbase (by decide) houtput
    simp
  · have hwalk := (locate_eq_ok_iff.1 houtput).2
    obtain ⟨generated, hgenerated, hstep⟩ := walk_below_eq_ok_iff.1 hwalk
    rw [l.generatedDir_eq, walk_below_eq_ok_iff] at hgenerated
    obtain ⟨root, hroot, hgenerated⟩ := hgenerated
    obtain rfl : base = root := Except.ok.inj (hbase.symm.trans hroot)
    obtain rfl := eq_below_of_step_eq_ok hgenerated (by decide)
    obtain ⟨-, -, hnext⟩ := step_eq_ok_iff.1 hstep
    split at hnext
    · rw [hnext.2, Path.parent_below_singleton, Path.below_below]
      exact (Path.ne_below_of_ne_nil (by simp)).symm
    · simp [hnext]

/-! ## The templates of a tree -/

/-- Paths of templates, each once. -/
structure Listed (l : Layout) (ts : List Path) : Prop where
  nodup : ts.Nodup
  template : ∀ p ∈ ts, ∃ name, IsName name ∧ l.isTemplateName name ∧ p = l.template name

theorem Listed.tail {ts : List Path} (h : Listed l (p :: ts)) : Listed l ts :=
  ⟨(List.nodup_cons.1 h.nodup).2, fun q hq => h.template q (List.mem_cons_of_mem _ hq)⟩

theorem Listed.name_inj {ts : List Path} {q : Path} (h : Listed l ts) (hp : p ∈ ts) (hq : q ∈ ts)
    (heq : p.name = q.name) : p = q := by
  obtain ⟨name, hname, -, rfl⟩ := h.template p hp
  obtain ⟨other, hother, -, rfl⟩ := h.template q hq
  rw [Layout.name_template hname, Layout.name_template hother] at heq
  rw [heq]

/-- Of the templates of a list, some are told by name. -/
theorem Listed.name_mem_map_filter {ts : List Path} {keep : Path → Bool} (h : Listed l ts)
    (hp : p ∈ ts) : p.name ∈ (ts.filter keep).map Path.name ↔ keep p := by
  rw [List.mem_map]
  constructor
  · rintro ⟨other, hother, hname⟩
    obtain ⟨hother, hkeep⟩ := List.mem_filter.1 hother
    exact h.name_inj hother hp hname ▸ hkeep
  · intro hkeep
    exact ⟨p, List.mem_filter.2 ⟨hp, hkeep⟩, rfl⟩

/-- A template has a generated file of its own unless there is nothing to name that by. -/
theorem isName_outputName {ts : List Path} {template : Path} (hlisted : Listed l ts)
    (htemplate : template ∈ ts) (h : l.outputName template.name ∉ ["", ".", ".."]) :
    IsName (l.outputName template.name) := by
  obtain ⟨name, hname, -, rfl⟩ := hlisted.template template htemplate
  simp only [List.mem_cons, List.not_mem_nil, or_false, not_or] at h
  rw [Layout.name_template hname] at h ⊢
  exact ⟨h.1, h.2.1, h.2.2, Layout.noSlash_outputName hname⟩

theorem templates_of_directory (hlocate : s.locate l.templatesDir = .ok location)
    (hdirectory : s.at? location = some .directory) :
    templates l s = .ok (((s.namesIn location).filter l.isTemplateName).map l.template) := by
  rw [templates, fileNames_eq, hlocate]
  simp only [if_pos hdirectory]
  rfl

/-- The templates can be listed unless the path of their directory is too long. -/
theorem templates_cases (l : Layout) (s : Store) : (∃ ts, templates l s = .ok ts) ∨
    s.locate l.templatesDir = .error .tooLong ∧ templates l s = .error .inaccessible := by
  rw [templates, fileNames_eq]
  cases s.locate l.templatesDir with
  | ok location => exact .inl ⟨_, rfl⟩
  | error obstacle =>
    cases obstacle with
    | tooLong => exact .inr ⟨rfl, rfl⟩
    | missingDirectory => exact .inl ⟨_, rfl⟩
    | unnameable => exact .inl ⟨_, rfl⟩

/-- Where there are templates, there is a directory that they lie in. -/
theorem directory_of_mem_templates {ts : List Path} (h : templates l s = .ok ts) (hp : p ∈ ts) :
    ∃ directory, s.locate l.templatesDir = .ok directory ∧ s.at? directory = some .directory ∧
      ts = ((s.namesIn directory).filter l.isTemplateName).map l.template := by
  have hlist := h
  rw [templates, fileNames_eq] at h
  split at h
  · next directory hlocate =>
    by_cases hdirectory : s.at? directory = some .directory
    · rw [templates_of_directory hlocate hdirectory] at hlist
      exact ⟨directory, hlocate, hdirectory, (Except.ok.inj hlist).symm⟩
    · simp only [if_neg hdirectory] at h
      obtain rfl := Except.ok.inj h
      exact (List.not_mem_nil hp).elim
  · cases h
  · obtain rfl := Except.ok.inj h
    exact (List.not_mem_nil hp).elim

theorem mem_templates {ts : List Path} (h : templates l s = .ok ts) :
    p ∈ ts ↔ ∃ name directory file, l.isTemplateName name ∧ p = l.template name ∧
      s.locate l.templatesDir = .ok directory ∧ s.at? directory = some .directory ∧
      s.at? (directory.below [name]) = some (.file file) := by
  constructor
  · intro hp
    obtain ⟨directory, hlocate, hdirectory, rfl⟩ := directory_of_mem_templates h hp
    obtain ⟨name, hname, rfl⟩ := List.mem_map.1 hp
    obtain ⟨hname, htemplate⟩ := List.mem_filter.1 hname
    obtain ⟨file, hfile⟩ := mem_namesIn.1 hname
    exact ⟨name, directory, file, htemplate, rfl, hlocate, hdirectory, hfile⟩
  · rintro ⟨name, directory, file, htemplate, rfl, hlocate, hdirectory, hfile⟩
    obtain rfl := Except.ok.inj (h.symm.trans (templates_of_directory hlocate hdirectory))
    exact List.mem_map_of_mem (List.mem_filter.2 ⟨mem_namesIn.2 ⟨file, hfile⟩, htemplate⟩)

theorem isName_of_mem_namesIn (h : s.IsTree) (hname : name ∈ s.namesIn location) : IsName name := by
  obtain ⟨file, hfile⟩ := mem_namesIn.1 hname
  simpa using h.isName hfile

theorem listed_templates (h : s.IsTree) {ts : List Path} (hlist : templates l s = .ok ts) :
    Listed l ts := by
  by_cases hts : ts = []
  · subst hts
    exact ⟨List.nodup_nil, nofun⟩
  · obtain ⟨p, hp⟩ := List.exists_mem_of_ne_nil ts hts
    obtain ⟨directory, -, -, rfl⟩ := directory_of_mem_templates hlist hp
    constructor
    · refine List.Nodup.map_on (fun name hname other hother heq => ?_)
        ((nodup_namesIn s directory).filter _)
      have hname := isName_of_mem_namesIn h (List.mem_of_mem_filter hname)
      have hother := isName_of_mem_namesIn h (List.mem_of_mem_filter hother)
      rw [← Layout.name_template (l := l) hname, heq, Layout.name_template hother]
    · intro p hp
      obtain ⟨name, hname, rfl⟩ := List.mem_map.1 hp
      obtain ⟨hname, htemplate⟩ := List.mem_filter.1 hname
      exact ⟨name, isName_of_mem_namesIn h hname, htemplate, rfl⟩

/-- A template that is listed is a file. -/
theorem exists_file_of_mem (h : s.IsTree) {ts : List Path} (hlist : templates l s = .ok ts)
    (hp : p ∈ ts) (hlocate : s.locate p = .ok location) :
    ∃ file, s.at? location = some (.file file) := by
  obtain ⟨name, directory, file, -, rfl, hdirectory, -, hfile⟩ := (mem_templates hlist).1 hp
  have hname : IsName name := by simpa using h.isName hfile
  obtain rfl := eq_source_of_locate_template hname hlocate hdirectory
  exact ⟨file, hfile⟩

/-- A change of files elsewhere leaves the list of templates as it is. -/
theorem templates_eq_of_namesIn (hsame : SameDirectories s t)
    (hnames : ∀ directory, s.locate l.templatesDir = .ok directory →
      s.namesIn directory = t.namesIn directory) :
    templates l s = templates l t := by
  rw [templates, templates, fileNames_eq, fileNames_eq, ← hsame.locate_eq]
  cases hlocate : s.locate l.templatesDir with
  | error obstacle => cases obstacle <;> rfl
  | ok directory =>
    simp only [hsame.directory, hnames directory hlocate]

/-! ## Small trees -/

/-- The layout of a root directory of this name beside the working directory. -/
def layoutAt (root : String) : Layout := { root := ⟨.relative, [root]⟩ }

/-- A tree with such a root directory, with these templates and with these generated files. -/
def treeAt (root : String) (templates generated : List (String × Entry)) : Store where
  entries := Table.ofList <|
    ([[root], [root, "templates"], [root, "templates", "configs"], [root, "generated"]].map
      fun names => ((⟨.relative, names⟩ : Path), Entry.directory)) ++
    (templates.map fun t => (⟨.relative, [root, "templates", "configs", t.1]⟩, t.2)) ++
    generated.map fun g => (⟨.relative, [root, "generated", g.1]⟩, g.2)

end Generated

end MachineConfig
