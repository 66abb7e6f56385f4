import MachineConfig.Proofs.Generated.BatchLemmas

/-!
Making the directory of generated files changes nothing that a batch asks about. The templates that
are listed stay the same (`templates_prepare`) with what is in them (`rendering_of_mem`), and what
lies in the place of a generated file that has a name of its own is as new as before, so that each
template is passed over as it would have been (`skips_of_mem`).
-/

namespace MachineConfig.Generated

open Store
open Template (Renderer)

variable {l : Layout} {r : Renderer} {now : Int} {mode : BatchMode} {s t prepared : Store}
  {template location : Path} {name : String} {file : RegularFile} {ts : List Path}

/-- What a batch does before it looks for templates. -/
def prepare (l : Layout) (now : Int) (mode : BatchMode) (s : Store) :
    Store × Except HostFault Unit :=
  if mode.dryRun then (s, .ok ()) else s.makeDirectories now l.generatedDir

theorem renderAll_eq (l : Layout) (r : Renderer) (s : Store) (now : Int) (mode : BatchMode) :
    renderAll l r s now mode =
      match prepare l now mode s with
      | (prepared, .error fault) => { result := .error (.host fault), store := prepared }
      | (prepared, .ok ()) =>
        match templates l prepared with
        | .error fault => { result := .error (.host fault), store := prepared }
        | .ok ts => (renderEach l r now mode prepared ts).outcome := by
  rw [renderAll, prepare]
  split
  · rfl
  · rcases s.makeDirectories now l.generatedDir with ⟨prepared, fault | _⟩ <;> rfl

theorem renderAll_of_prepare {prepared : Store}
    (hprepare : prepare l now mode s = (prepared, .ok ()))
    (hlist : templates l prepared = .ok ts) :
    renderAll l r s now mode = (renderEach l r now mode prepared ts).outcome := by
  rw [renderAll_eq, hprepare]
  simp only [hlist]

theorem places_of_prepare {prepared : Store}
    (hprepare : prepare l now mode s = (prepared, .ok ())) :
    mode.dryRun = true ∨ ∃ base, Places l prepared base := by
  rw [prepare] at hprepare
  split at hprepare
  · next hdry => exact .inl hdry
  · have hnames : l.generatedDir.names ≠ [] := by simp [l.generatedDir_eq]
    obtain ⟨location, hlocate, hdirectory⟩ := directory_of_makeDirectories hnames hprepare
    exact .inr (exists_places hlocate hdirectory)

theorem isTree_of_prepare {prepared : Store} (h : s.IsTree)
    (hprepare : prepare l now mode s = (prepared, .ok ())) : prepared.IsTree := by
  rw [prepare] at hprepare
  split at hprepare
  · obtain ⟨rfl, -⟩ := Prod.mk.inj hprepare
    exact h
  · simpa [hprepare] using h.makeDirectories now l.generatedDir

theorem extends_of_prepare {prepared : Store}
    (hprepare : prepare l now mode s = (prepared, .ok ())) :
    Extends s prepared := by
  rw [prepare] at hprepare
  split at hprepare
  · obtain ⟨rfl, -⟩ := Prod.mk.inj hprepare
    exact .refl s
  · simpa [hprepare] using makeDirectories_extends s now l.generatedDir

/-- What a batch does first changes no template. -/
theorem rendering_of_prepare {prepared : Store}
    (hprepare : prepare l now mode s = (prepared, .ok ()))
    (hfile : s.regularFile? template = some file) (r : Renderer) :
    rendering r prepared template = rendering r s template := by
  rw [rendering_of_file hfile,
    rendering_of_file ((extends_of_prepare hprepare).regularFile?_eq hfile)]

/-- In a root directory that is there, making the directory of generated files changes nothing on
the way to the templates. -/
theorem templates_makeDirectories (hroot : s.entry? l.root = some .directory) (now : Int) :
    templates l (s.makeDirectories now l.generatedDir).1 = templates l s := by
  obtain ⟨base, hlocate, hbase⟩ := entry?_eq_some_iff.1 hroot
  have hwalk := (locate_eq_ok_iff.1 hlocate).2
  have hextends := makeDirectories_extends s now l.generatedDir
  have hsame : ∀ front, front <+: ["templates", "configs"] →
      (s.makeDirectories now l.generatedDir).1.at? (base.below front) =
        s.at? (base.below front) := by
    intro front hfront
    cases front with
    | nil =>
      rw [Path.below_nil, hbase]
      exact hextends.at?_eq hbase
    | cons first rest =>
      rw [l.generatedDir_eq]
      refine at?_makeDirectories_below hwalk hbase (by decide) fun other hother heq => ?_
      obtain rfl := Path.below_inj.1 heq
      rw [List.cons_prefix_cons] at hfront hother
      exact absurd (hfront.1.symm.trans hother.1) (by decide)
  generalize (s.makeDirectories now l.generatedDir).1 = made at hextends hsame
  have hlocates : made.locate l.templatesDir = s.locate l.templatesDir := by
    cases hobstacle : obstacle? l.templatesDir with
    | some obstacle => rw [locate, locate, hobstacle]
    | none =>
      rw [locate_of_obstacle?_eq_none hobstacle, locate_of_obstacle?_eq_none hobstacle,
        l.templatesDir_eq, walk_below, walk_below, hwalk, hextends.walk_eq hwalk]
      exact foldlM_step_eq_of_at? (by decide) hsame
  rw [templates, templates, fileNames_eq, fileNames_eq, hlocates]
  cases hdirectory : s.locate l.templatesDir with
  | error obstacle => cases obstacle <;> rfl
  | ok directory =>
    obtain rfl : directory = base.below ["templates", "configs"] := by
      rw [l.templatesDir_eq] at hdirectory
      exact eq_below_of_locate hwalk (by decide) hdirectory
    simp only [hextends.namesIn, hsame _ (List.prefix_refl _)]

theorem templates_of_prepare {prepared : Store} (hroot : s.entry? l.root = some .directory)
    (hprepare : prepare l now mode s = (prepared, .ok ())) :
    templates l prepared = templates l s := by
  rw [prepare] at hprepare
  split at hprepare
  · obtain ⟨rfl, -⟩ := Prod.mk.inj hprepare
    rfl
  · rw [← templates_makeDirectories hroot now, hprepare]

/-- A directory of templates that cannot be asked about is none in any tree with a root
directory. -/
theorem locate_templatesDir_ne_tooLong {base : Path} (hbase : t.walk l.root = .ok base)
    (hobstacle : obstacle? l.templatesDir ≠ some .tooLong) (s : Store) :
    s.locate l.templatesDir ≠ .error .tooLong := by
  intro hlong
  cases hpath : obstacle? l.templatesDir with
  | some obstacle =>
    rw [locate, hpath] at hlong
    exact hobstacle (hpath.trans (congrArg some (Except.error.inj hlong)))
  | none =>
    rw [locate_of_obstacle?_eq_none hpath, l.templatesDir_eq] at hlong
    refine foldlM_step_ne_tooLong (fun name hname => ?_) hlong
    rcases List.mem_append.1 hname with hroot | hlast
    · exact size_le_of_foldlM_step hbase name hroot
    · rcases List.mem_pair.1 hlast with rfl | rfl <;> decide

theorem exists_templates {base : Path} (hbase : t.walk l.root = .ok base)
    (hobstacle : obstacle? l.templatesDir ≠ some .tooLong) (s : Store) :
    ∃ ts, templates l s = .ok ts := by
  have hshort := locate_templatesDir_ne_tooLong hbase hobstacle s
  rw [templates, fileNames_eq]
  cases hlocate : s.locate l.templatesDir with
  | ok directory => exact ⟨_, rfl⟩
  | error obstacle =>
    cases obstacle with
    | tooLong => exact (hshort hlocate).elim
    | _ => exact ⟨_, rfl⟩

theorem templates_of_tooLong (hobstacle : obstacle? l.templatesDir = some .tooLong) (s : Store) :
    templates l s = .error .inaccessible := by
  rw [templates, fileNames_eq, locate, hobstacle]
  rfl

/-- What is listed as a template after directories have been made was there before. -/
theorem templates_eq_of_extends {more : List Path} (hs : s.IsTree) (hextends : Extends s t)
    (hnames : ".." ∉ l.root.names) (hlist : templates l s = .ok ts)
    (hmore : templates l t = .ok more) : more = ts := by
  by_cases hnil : more = []
  · subst hnil
    refine (List.eq_nil_iff_forall_not_mem.2 fun p hp => ?_).symm
    obtain ⟨name, directory, file, htemplate, rfl, hlocate, hdirectory, hfile⟩ :=
      (mem_templates hlist).1 hp
    exact List.not_mem_nil <| (mem_templates hmore).2 ⟨name, directory, file, htemplate, rfl,
      hextends.locate_eq hlocate, hextends.at?_eq hdirectory, hextends.at?_eq hfile⟩
  · obtain ⟨p, hp⟩ := List.exists_mem_of_ne_nil more hnil
    obtain ⟨name, directory, file, -, -, hlocate, -, hfile⟩ := (mem_templates hmore).1 hp
    obtain ⟨hobstacle, hwalk⟩ := locate_eq_ok_iff.1 hlocate
    have hdirectory : s.at? directory = some .directory :=
      hs.directory_of_below (List.cons_ne_nil name [])
        (by simp [hextends.at?_eq_file_iff.1 hfile])
    have hproper : ".." ∉ l.templatesDir.names := by
      simp [l.templatesDir_eq, hnames]
    have hbefore : s.locate l.templatesDir = .ok directory :=
      locate_eq_ok_iff.2 ⟨hobstacle, hs.walk_eq_of_directory hextends hproper hwalk hdirectory⟩
    have hthere := templates_of_directory hlocate (hextends.at?_eq hdirectory)
    rw [hextends.namesIn, ← templates_of_directory hbefore hdirectory, hlist] at hthere
    exact Except.ok.inj (hmore.symm.trans hthere)

/-- What a batch does first leaves the list of templates as it is, if the root directory is there
or its path goes into directories only. -/
theorem templates_prepare (hs : s.IsTree)
    (hroot : s.entry? l.root = some .directory ∨ ".." ∉ l.root.names)
    (hprepare : prepare l now mode s = (prepared, .ok ())) :
    templates l prepared = templates l s := by
  rcases hroot with hroot | hnames
  · exact templates_of_prepare hroot hprepare
  rcases places_of_prepare hprepare with hdry | ⟨base, hplaces⟩
  · rw [prepare, if_pos hdry] at hprepare
    rw [(Prod.mk.inj hprepare).1]
  · by_cases hlong : obstacle? l.templatesDir = some .tooLong
    · rw [templates_of_tooLong hlong, templates_of_tooLong hlong]
    · obtain ⟨ts, hlist⟩ := exists_templates hplaces.walk_root hlong s
      obtain ⟨more, hmore⟩ := exists_templates hplaces.walk_root hlong prepared
      rw [hlist, hmore, templates_eq_of_extends hs (extends_of_prepare hprepare) hnames
        hlist hmore]

/-- Where there are templates, there is a root directory. -/
theorem exists_root_of_mem (hlist : templates l s = .ok ts) (htemplate : template ∈ ts) :
    ∃ base, s.walk l.root = .ok base ∧ s.at? base = some .directory := by
  obtain ⟨directory, hlocate, hdirectory, -⟩ := directory_of_mem_templates hlist htemplate
  have hwalk := (locate_eq_ok_iff.1 hlocate).2
  rw [l.templatesDir_eq] at hwalk
  exact walk_of_below hwalk hdirectory

/-- A template that is listed lies where it lay, whatever directories are made. -/
theorem source_eq_of_extends (hs : s.IsTree) (hextends : Extends s t)
    (hlist : templates l s = .ok ts) (htemplate : template ∈ ts) :
    t.locate template = s.locate template ∧
      ∀ location, s.locate template = .ok location → t.at? location = s.at? location := by
  obtain ⟨name, directory, file, -, rfl, hlocate, hdirectory, hfile⟩ :=
    (mem_templates hlist).1 htemplate
  have hname : IsName name := by simpa using hs.isName hfile
  have hwalk := (locate_eq_ok_iff.1 hlocate).2
  have hplace : t.at? directory = s.at? directory := by rw [hdirectory, hextends.at?_eq hdirectory]
  constructor
  · cases hobstacle : obstacle? (l.template name) with
    | some obstacle => rw [locate, locate, hobstacle]
    | none =>
      rw [locate_of_obstacle?_eq_none hobstacle, locate_of_obstacle?_eq_none hobstacle,
        Layout.template, Path.child_eq_below hname, walk_below_singleton, walk_below_singleton,
        hwalk, hextends.walk_eq hwalk]
      change t.step directory name = s.step directory name
      rw [step, step, hplace]
  · intro location hsource
    obtain rfl := eq_source_of_locate_template hname hsource hlocate
    rw [hfile, hextends.at?_eq hfile]

/-- In a root directory without a directory of generated files there is nothing in the place of a
generated file, and making that directory puts nothing there. -/
theorem entry?_output_of_missing {base : Path} (hs : s.IsTree) (now : Int)
    (hwalk : s.walk l.root = .ok base)
    (hbase : s.at? base = some .directory) (hmissing : s.at? (base.below ["generated"]) = none)
    (hname : IsName name) (houtput : IsName (l.outputName name)) :
    s.entry? (l.output (l.template name)) = none ∧
      Store.entry? (s.makeDirectories now l.generatedDir).1 (l.output (l.template name)) =
        none := by
  have hextends := makeDirectories_extends s now l.generatedDir
  have hnames : ".." ∉ ["generated", l.outputName name] := by simp [Ne.symm houtput.ne_above]
  have hnothing : s.at? (base.below ["generated", l.outputName name]) = none := by
    refine Classical.not_not.1 fun hthere => ?_
    have hparent : s.at? (base.below ["generated"]) = some .directory :=
      hs.directory_of_below (List.cons_ne_nil (l.outputName name) []) (by simpa using hthere)
    rw [hmissing] at hparent
    cases hparent
  rw [Layout.output_of_isName hname houtput]
  have hnone : ∀ {u : Store}, u.walk l.root = .ok base →
      u.at? (base.below ["generated", l.outputName name]) = none →
      u.entry? (l.root.below ["generated", l.outputName name]) = none := by
    intro u hroot hplace
    cases hentry : u.entry? (l.root.below ["generated", l.outputName name]) with
    | none => rfl
    | some entry =>
      obtain ⟨location, hlocate, hthere⟩ := entry?_eq_some_iff.1 hentry
      rw [eq_below_of_locate hroot hnames hlocate, hplace] at hthere
      cases hthere
  refine ⟨hnone hwalk hnothing, hnone (hextends.walk_eq hwalk) ?_⟩
  rw [l.generatedDir_eq, ← hnothing]
  refine at?_makeDirectories_below hwalk hbase (by decide) fun front hfront heq => ?_
  obtain rfl := Path.below_inj.1 heq
  simpa using hfront.length_le

/-- What a batch does first changes nothing, or there is nothing in the place of a generated file
that has a name of its own. -/
theorem eq_or_missing_of_prepare (hs : s.IsTree) (hlist : templates l s = .ok ts)
    (hname : IsName name) (htemplate : l.template name ∈ ts) (houtput : IsName (l.outputName name))
    (hprepare : prepare l now mode s = (prepared, .ok ())) :
    prepared = s ∨ s.entry? (l.output (l.template name)) = none ∧
      prepared.entry? (l.output (l.template name)) = none := by
  rcases places_of_prepare hprepare with hdry | ⟨base, hplaces⟩
  · rw [prepare, if_pos hdry] at hprepare
    exact .inl (Prod.mk.inj hprepare).1.symm
  have hextends := extends_of_prepare hprepare
  obtain ⟨base', hwalk, hbase⟩ := exists_root_of_mem hlist htemplate
  obtain rfl : base' = base :=
    Except.ok.inj ((hextends.walk_eq hwalk).symm.trans hplaces.walk_root)
  rcases hextends.entry (base'.below ["generated"]) with hsame | ⟨hmissing, -⟩
  · -- The directory was there before, so that nothing was made.
    have hdirectory := hsame.symm.trans hplaces.directory_generated
    have hthere : s.locate l.generatedDir = .ok (base'.below ["generated"]) := by
      refine locate_eq_ok_iff.2 ⟨(locate_eq_ok_iff.1 hplaces.locate_generatedDir).1, ?_⟩
      rw [l.generatedDir_eq, walk_below_eq_ok_iff]
      exact ⟨base', hwalk, step_eq_ok_iff.2 ⟨hbase, by decide, rfl⟩⟩
    rw [prepare, makeDirectories_of_directory hthere hdirectory, ite_self] at hprepare
    exact .inl (Prod.mk.inj hprepare).1.symm
  · rw [prepare] at hprepare
    split at hprepare
    · exact .inl (Prod.mk.inj hprepare).1.symm
    · obtain ⟨hbefore, hafter⟩ :=
        entry?_output_of_missing hs now hwalk hbase hmissing hname houtput
      rw [hprepare] at hafter
      exact .inr ⟨hbefore, hafter⟩

theorem isUpToDate_of_missing {output : Path} (h : s.entry? output = none) (template : Path) :
    isUpToDate s template output = false := by
  have htime : s.time? output = none := by
    rw [ entry?] at h
    rw [time?]
    cases hlocate : s.locate output with
    | error obstacle => rfl
    | ok location =>
      rw [hlocate] at h
      exact Option.map_eq_none_iff.2 h
  rw [isUpToDate, htime]
  cases s.time? template <;> rfl

section

variable (hs : s.IsTree) (hlist : templates l s = .ok ts) (htemplate : template ∈ ts)
  (hprepare : prepare l now mode s = (prepared, .ok ()))
include hs hlist htemplate hprepare

/-- What a batch does first is nothing to the rendering of a template. -/
theorem rendering_of_mem (r : Renderer) :
    rendering r prepared template = rendering r s template := by
  obtain ⟨hlocate, hplace⟩ := source_eq_of_extends hs (extends_of_prepare hprepare) hlist htemplate
  have hlook : prepared.look template = s.look template := by
    rw [look, look, hlocate]
    cases hsource : s.locate template with
    | ok location => exact congrArg Except.ok (hplace location hsource)
    | error obstacle => cases obstacle <;> rfl
  rw [rendering, rendering, templateText_eq, templateText_eq, hlook]

theorem entry?_of_mem : prepared.entry? template = s.entry? template := by
  obtain ⟨hlocate, hplace⟩ := source_eq_of_extends hs (extends_of_prepare hprepare) hlist htemplate
  rw [ entry?, entry?, hlocate]
  cases hsource : s.locate template with
  | ok location => exact hplace location hsource
  | error obstacle => rfl

theorem regularFile?_of_mem : prepared.regularFile? template = s.regularFile? template := by
  rw [regularFile?, regularFile?, entry?_of_mem hs hlist htemplate hprepare]

theorem isUpToDate_of_mem (houtput : IsName (l.outputName template.name)) :
    isUpToDate prepared template (l.output template) =
      isUpToDate s template (l.output template) := by
  obtain ⟨name, hname, -, rfl⟩ := (listed_templates hs hlist).template template htemplate
  rw [Layout.name_template hname] at houtput
  obtain rfl | ⟨hbefore, hafter⟩ :=
    eq_or_missing_of_prepare hs hlist hname htemplate houtput hprepare
  · rfl
  · rw [isUpToDate_of_missing hbefore, isUpToDate_of_missing hafter]

/-- What a batch does first is nothing to whether a template is passed over. -/
theorem skips_of_mem (houtput : IsName (l.outputName template.name)) :
    skips l mode prepared template = skips l mode s template := by
  rw [skips, skips, isUpToDate_of_mem hs hlist htemplate hprepare houtput]

end

end MachineConfig.Generated
