import MachineConfig.Proofs.Store.WriteLemmas

/-!
Which files writing changes. Between two trees `WritesOnly` bounds the files that differ; no file
and no directory is ever taken away, so that a path goes on leading where it led. Replacing a file
changes the file that the path leads to, if any (`replace_writes`), and so does overwriting one
(`overwrite_cases`), whatever comes of them.
-/

namespace MachineConfig.Store

variable {s t u : Store} {now : Int} {location directory p : Path} {file : RegularFile}
  {touched wider : Path → Prop}

/-- The file at a location, if one lies there. -/
def fileAt? (s : Store) (location : Path) : Option RegularFile :=
  match s.at? location with
  | some (.file file) => some file
  | _ => none

theorem fileAt?_eq_some_iff : s.fileAt? location = some file ↔
    s.at? location = some (.file file) := by
  rw [fileAt?]
  cases s.at? location with
  | none => simp
  | some entry => cases entry <;> simp

theorem fileAt?_congr (h : s.at? location = t.at? location) :
    s.fileAt? location = t.fileAt? location := by
  rw [fileAt?, fileAt?, h]

/-- `t` is `s` with files written at touched locations, and perhaps more directories. -/
structure WritesOnly (touched : Path → Prop) (s t : Store) : Prop where
  directories : KeepsDirectories s t
  file : ∀ {location}, (s.fileAt? location).isSome → (t.fileAt? location).isSome
  untouched : ∀ {location}, ¬touched location → t.fileAt? location = s.fileAt? location

namespace WritesOnly

theorem refl (touched : Path → Prop) (s : Store) : WritesOnly touched s s :=
  ⟨⟨rfl, id⟩, id, fun _ => rfl⟩

theorem mono (h : WritesOnly touched s t) (hwider : ∀ location, touched location → wider location) :
    WritesOnly wider s t :=
  ⟨h.directories, h.file, fun hnot => h.untouched fun htouched => hnot (hwider _ htouched)⟩

theorem trans (h : WritesOnly touched s t) (h' : WritesOnly touched t u) :
    WritesOnly touched s u where
  directories := ⟨h'.directories.workingDirectory.trans h.directories.workingDirectory,
    fun hdirectory => h'.directories.directory (h.directories.directory hdirectory)⟩
  file hfile := h'.file (h.file hfile)
  untouched hnot := (h'.untouched hnot).trans (h.untouched hnot)

theorem touchAll (h : WritesOnly touched s t) (now : Int) (directories : List Path) :
    WritesOnly touched s (t.touchAll now directories) :=
  ⟨⟨h.directories.workingDirectory, h.directories.directory⟩, h.file, h.untouched⟩

/-- Where there was a file, there still is one. -/
theorem regularFile? (h : WritesOnly touched s t) (hfile : (s.regularFile? p).isSome) :
    (t.regularFile? p).isSome := by
  obtain ⟨file, hfile⟩ := Option.isSome_iff_exists.1 hfile
  obtain ⟨location, hlocate, hentry⟩ := regularFile?_eq_some_iff.1 hfile
  have hstill := h.file (Option.isSome_iff_exists.2 ⟨file, fileAt?_eq_some_iff.2 hentry⟩)
  obtain ⟨newer, hnewer⟩ := Option.isSome_iff_exists.1 hstill
  exact Option.isSome_iff_exists.2 ⟨newer, regularFile?_eq_some_iff.2
    ⟨location, h.directories.locate_eq hlocate, fileAt?_eq_some_iff.1 hnewer⟩⟩

end WritesOnly

theorem Extends.writesOnly (h : Extends s t) (touched : Path → Prop) : WritesOnly touched s t := by
  have hfiles (location : Path) : t.fileAt? location = s.fileAt? location :=
    Option.ext fun _ => by rw [fileAt?_eq_some_iff, fileAt?_eq_some_iff, h.at?_eq_file_iff]
  exact ⟨h.keepsDirectories, fun hfile => by rwa [hfiles], fun _ => hfiles _⟩

theorem writesOnly_put (h : s.at? location ≠ some .directory) (file : RegularFile) :
    WritesOnly (· = location) s (s.put location (.file file)) := by
  have hput : ∀ other, (s.put location (.file file)).at? other =
      if other = location then some (.file file) else s.at? other :=
    at?_put (names_ne_nil_of_at?_ne_directory h)
  refine ⟨⟨rfl, ((sameDirectories_put h file).directory _).1⟩, fun {other} hfile => ?_,
    fun hne => ?_⟩
  · by_cases heq : other = location
    · rw [fileAt?, hput, if_pos heq]
      rfl
    · rwa [fileAt?_congr (at?_put_of_ne heq)]
  · exact fileAt?_congr (at?_put_of_ne hne)

/-! ## Places that writing leaves in place -/

/-- Places that are told from a tree, and remain such places whatever files are written. -/
structure Stable (places : Store → Path → Prop) : Prop where
  place : ∀ {touched s t location}, WritesOnly touched s t → places s location → places t location

/-- `t` is `s` with files written at some of the places that can be told from `t`. -/
def Writes (places : Store → Path → Prop) (s t : Store) : Prop := WritesOnly (places t) s t

namespace Writes

variable {places others : Store → Path → Prop}

theorem refl (places : Store → Path → Prop) (s : Store) : Writes places s s := WritesOnly.refl _ s

theorem mono (h : Writes places s t) (hothers : ∀ location, places t location → others t location) :
    Writes others s t :=
  WritesOnly.mono h hothers

theorem trans (hstable : Stable places) (h : Writes places s t) (h' : Writes places t u) :
    Writes places s u :=
  (WritesOnly.mono h fun _ => hstable.place h').trans h'

end Writes

theorem Extends.writes (h : Extends s t) (places : Store → Path → Prop) : Writes places s t :=
  h.writesOnly _

/-- The place that a path leads to. -/
def LeadsTo (p : Path) (s : Store) (location : Path) : Prop := s.locate p = .ok location

theorem stable_leadsTo (p : Path) : Stable (LeadsTo p) :=
  ⟨fun hwrites hleads => hwrites.directories.locate_eq hleads⟩

/-- What is looked for in a directory has its name. -/
theorem LeadsTo.name_eq {name : String} (h : LeadsTo (p.child name) s location)
    (hname : IsName name) : location.name = name := by
  rw [LeadsTo, Path.child_eq_below hname, locate_eq_ok_iff, walk_below_eq_ok_iff] at h
  obtain ⟨-, directory, -, hstep⟩ := h
  obtain rfl := eq_below_of_step_eq_ok hstep hname.ne_above
  exact Path.name_below_singleton

/-- A file is put where a path leads. -/
theorem writes_put (hlocate : s.locate p = .ok location) (h : s.at? location ≠ some .directory)
    (file : RegularFile) (now : Int) (directories : List Path) :
    Writes (LeadsTo p) s ((s.put location (.file file)).touchAll now directories) :=
  ((writesOnly_put h file).touchAll now directories).mono fun _ heq =>
    heq ▸ ((sameDirectories_put h file).locate_eq p).symm.trans hlocate

/-! ## Replacing and overwriting -/

theorem of_temporaryLocation_eq_ok (h : s.temporaryLocation p = .ok location) :
    ∃ directory, s.locate p.parent = .ok directory ∧ s.at? directory = some .directory ∧
      location = directory.below [s.temporaryName p.name] := by
  cases hparent : s.locate p.parent with
  | error obstacle =>
    rw [temporaryLocation, hparent] at h
    cases h
  | ok directory =>
    by_cases hdirectory : s.at? directory = some .directory
    · rw [temporaryLocation_of_directory hparent hdirectory] at h
      split at h
      · cases h
      split at h
      · cases h
      · exact ⟨directory, rfl, hdirectory, (Except.ok.inj h).symm⟩
    · simp only [temporaryLocation, hparent, Except.mapError, bind, Except.bind, throw, throwThe,
        MonadExceptOf.throw, hdirectory, ne_eq, not_false_eq_true, decide_true, Bool.true_or,
        if_true] at h
      split at h <;> cases h

theorem at?_of_temporaryLocation (h : s.temporaryLocation p = .ok location) :
    s.at? location = none := by
  obtain ⟨directory, -, -, rfl⟩ := of_temporaryLocation_eq_ok h
  exact at?_temporaryName s directory p.name

theorem fault_of_makeDirectory {fault : HostFault} (hnames : IsNameable p)
    (h : s.makeDirectory now p = (t, .error fault)) : fault = .inaccessible := by
  rw [makeDirectory] at h
  cases hlocate : s.locate p with
  | error obstacle =>
    rw [hlocate] at h
    rw [← Except.error.inj (Prod.mk.inj h).2, fault_of_locate_eq_error hnames hlocate]
  | ok location =>
    rw [hlocate] at h
    simp only at h
    split at h
    · cases h
    · exact (Except.error.inj (Prod.mk.inj h).2).symm
    · split at h
      · cases h
      · exact (Except.error.inj (Prod.mk.inj h).2).symm

theorem fault_of_makeDirectoriesFrom {done : Path} {names : List String} {fault : HostFault}
    (hnames : IsNameable (done.below names))
    (h : s.makeDirectoriesFrom now done names = (t, .error fault)) : fault = .inaccessible := by
  induction names generalizing s done with
  | nil => cases h
  | cons name names ih =>
    have hall : done.below (name :: names) = (done.below [name]).below names := by simp
    rw [makeDirectoriesFrom_cons] at h
    split at h
    · exact ih (hall ▸ hnames) h
    · next made other hmade =>
      obtain rfl : other = fault := Except.error.inj (Prod.mk.inj h).2
      refine fault_of_makeDirectory (fun n hn => hnames n ?_) hmade
      rw [hall, Path.names_below]
      exact List.mem_append_left _ hn

theorem fault_of_makeDirectories {fault : HostFault} (hnames : IsNameable p)
    (h : s.makeDirectories now p = (t, .error fault)) : fault = .inaccessible := by
  rw [makeDirectories] at h
  split at h
  · next obstacle hobstacle =>
    rw [← Except.error.inj (Prod.mk.inj h).2]
    exact fault_of_locate_eq_error (s := s) hnames (by rw [locate, hobstacle])
  · have hall : IsNameable (Path.below { p with names := [] } p.names) := by
      simpa [Path.below] using hnames
    exact fault_of_makeDirectoriesFrom hall h

theorem fault_of_modeFor {fault : HostFault} (h : s.modeFor p = .error fault) :
    fault = .inaccessible := by
  rw [modeFor_eq, look] at h
  split at h
  · cases h
  · exact (Except.error.inj h).symm
  · cases h

theorem fault_of_temporaryLocation {fault : HostFault} (hnames : IsNameable p)
    (h : s.temporaryLocation p = .error fault) : fault = .inaccessible := by
  have hname : ¬(!p.name.toList.all Text.isNameable) := by simp [hnames.all_name]
  cases hparent : s.locate p.parent with
  | error obstacle =>
    rw [temporaryLocation, hparent] at h
    rw [← Except.error.inj h, fault_of_locate_eq_error hnames.parent hparent]
  | ok directory =>
    simp only [temporaryLocation, hparent, Except.mapError, bind, Except.bind, throw, throwThe,
      MonadExceptOf.throw, pure, Except.pure, if_neg hname] at h
    split at h
    · exact (Except.error.inj h).symm
    split at h
    · cases h
    · exact (Except.error.inj h).symm

/-- Whatever steps are refused, replacing a file makes directories and then puts one file where the
path leads, or none. -/
theorem replaceUnder_cases (fails : ReplaceStep → Bool) (s : Store) (now : Int) (p : Path)
    (text : String) : ∃ t, Extends s t ∧ ((s.replaceUnder fails now p text).1 = t ∨
      ∃ location file directories, t.locate p = .ok location ∧ t.at? location ≠ some .directory ∧
        (s.replaceUnder fails now p text).1 =
          (t.put location (.file file)).touchAll now directories) := by
  have hextends := makeDirectories_extends s now p.parent
  rw [replaceUnder]
  split
  · exact ⟨s, .refl s, .inl rfl⟩
  split
  · next t fault hmade =>
    rw [hmade] at hextends
    exact ⟨t, hextends, .inl rfl⟩
  next t hmade =>
  rw [hmade] at hextends
  split
  · exact ⟨t, hextends, .inl rfl⟩
  split
  · exact ⟨t, hextends, .inl rfl⟩
  split
  · exact ⟨t, hextends, .inl rfl⟩
  split
  · exact ⟨t, hextends, .inl rfl⟩
  next mode hmode hcreate temporary htemporary =>
  -- From here on the temporary file is there; whatever comes, it is gone in the end.
  have hfree := at?_of_temporaryLocation htemporary
  have hgone : Extends s (t.touchAll now [temporary.parent]) := hextends.touchAll ..
  simp only [put_create, discard_create hfree, renameTo_create hfree]
  split
  · exact ⟨_, hgone, .inl rfl⟩
  split
  · exact ⟨_, hgone, .inl rfl⟩
  split
  · exact ⟨_, hgone, .inl rfl⟩
  split
  · exact ⟨_, hgone, .inl rfl⟩
  cases hlocate : t.locate p with
  | error obstacle => exact ⟨_, hgone, .inl (discard_create hfree ..)⟩
  | ok location =>
    by_cases hplace : t.at? location = some .directory
    · simp only [if_pos hplace, discard_create hfree]
      exact ⟨_, hgone, .inl rfl⟩
    · simp only [if_neg hplace]
      exact ⟨t, hextends, .inr ⟨location, _, _, hlocate, hplace, rfl⟩⟩

/-- A file can be put where a path leads: the directories above it can be made, a temporary file can
be created beside it, and it is no directory. -/
structure Admits (s : Store) (now : Int) (p : Path) (made : Store) (location : Path) : Prop where
  makes : s.makeDirectories now p.parent = (made, .ok ())
  modeFor : ∃ mode, made.modeFor p = .ok mode
  temporary : ∃ temporary, made.temporaryLocation p = .ok temporary
  locate : made.locate p = .ok location
  place : made.at? location ≠ some .directory

theorem Admits.replace_eq {made : Store} (h : s.Admits now p made location) {text : String}
    (hencodable : Text.isEncodable text) : ∃ file directory, file.content = Text.utf8 text ∧
      s.replace now p text =
        ((made.put location (.file file)).touchAll now [directory], .ok ()) := by
  obtain ⟨mode, hmode⟩ := h.modeFor
  obtain ⟨temporary, htemporary⟩ := h.temporary
  have hfree := at?_of_temporaryLocation htemporary
  refine ⟨⟨Text.utf8 text, mode, now⟩, temporary.parent, rfl, ?_⟩
  simp only [replace, replaceUnder, h.makes, hmode, htemporary, hencodable, put_create,
    renameTo_create hfree, h.locate, if_neg h.place, Bool.not_true, Bool.false_eq_true, if_false]

/-- What replacing a file comes to: the text can be encoded and a file can be put there, or no file
changes. A path that can be named is refused by the file system or for a text that cannot be
encoded. -/
theorem replace_cases (s : Store) (now : Int) (p : Path) (text : String) :
    (Text.isEncodable text ∧ ∃ made location, s.Admits now p made location) ∨
      ∃ t fault, Extends s t ∧ s.replace now p text = (t, .error fault) ∧
        (IsNameable p → fault = .inaccessible ∨
          Text.isEncodable text = false ∧ fault = .unencodable) := by
  have hextends := makeDirectories_extends s now p.parent
  rw [replace, replaceUnder]
  simp only [Bool.false_eq_true, if_false]
  split
  · next t fault hmade =>
    rw [hmade] at hextends
    exact .inr ⟨t, fault, hextends, rfl, fun hnames =>
      .inl (fault_of_makeDirectories hnames.parent hmade)⟩
  next t hmade =>
  rw [hmade] at hextends
  split
  · next fault hmode => exact .inr ⟨t, fault, hextends, rfl, fun _ => .inl (fault_of_modeFor hmode)⟩
  next mode hmode =>
  split
  · next fault htemporary =>
    exact .inr ⟨t, fault, hextends, rfl, fun hnames =>
      .inl (fault_of_temporaryLocation hnames htemporary)⟩
  next temporary htemporary =>
  have hfree := at?_of_temporaryLocation htemporary
  have hgone : Extends s (t.touchAll now [temporary.parent]) := hextends.touchAll ..
  simp only [put_create, discard_create hfree, renameTo_create hfree]
  by_cases hencodable : Text.isEncodable text
  · simp only [hencodable, Bool.not_true, Bool.false_eq_true, if_false]
    cases hlocate : t.locate p with
    | error obstacle =>
      exact .inr ⟨_, _, hgone, by simp only [discard_create hfree], fun _ => .inl rfl⟩
    | ok location =>
      by_cases hplace : t.at? location = some .directory
      · simp only [if_pos hplace, discard_create hfree]
        exact .inr ⟨_, _, hgone, rfl, fun _ => .inl rfl⟩
      · exact .inl ⟨trivial, t, location, hmade, ⟨mode, hmode⟩, ⟨temporary, htemporary⟩, hlocate,
          hplace⟩
  · rw [Bool.not_eq_true] at hencodable
    simp only [hencodable, Bool.not_false, if_true]
    exact .inr ⟨_, _, hgone, rfl, fun _ => .inr ⟨trivial, rfl⟩⟩

/-- A text is written if it can be encoded and a file can be put there. -/
theorem replace_eq_ok_iff (s : Store) (now : Int) (p : Path) (text : String) :
    (s.replace now p text).2 = .ok () ↔
      Text.isEncodable text ∧ ∃ made location, s.Admits now p made location := by
  constructor
  · intro h
    rcases s.replace_cases now p text with hwritten | ⟨t, fault, -, hreplace, -⟩
    · exact hwritten
    · rw [hreplace] at h
      cases h
  · rintro ⟨hencodable, made, location, hadmits⟩
    obtain ⟨file, directory, -, hreplace⟩ := hadmits.replace_eq hencodable
    rw [hreplace]

theorem replace_writes (s : Store) (now : Int) (p : Path) (text : String) :
    Writes (LeadsTo p) s (s.replace now p text).1 := by
  obtain ⟨t, hextends, hsame | ⟨location, file, directories, hlocate, hplace, hput⟩⟩ :=
    replaceUnder_cases (fun _ => false) s now p text
  · rw [replace, hsame]
    exact hextends.writes _
  · rw [replace, hput]
    exact (hextends.writesOnly _).trans (writes_put hlocate hplace file now directories)

/-- Overwriting a file puts one with these bytes where the path leads, or changes nothing. -/
theorem overwriteBytes_cases (s : Store) (now : Int) (p : Path) (content : ByteArray) :
    (∃ fault, s.overwriteBytes now p content = (s, .error fault)) ∨
      ∃ location file directories, s.locate p = .ok location ∧
        s.at? location ≠ some .directory ∧ file.content = content ∧
          s.overwriteBytes now p content =
            ((s.put location (.file file)).touchAll now directories, .ok ()) := by
  rw [overwriteBytes]
  cases hlocate : s.locate p with
  | error obstacle => exact .inl ⟨_, rfl⟩
  | ok location =>
    rcases hentry : s.at? location with _ | _ | old
    · by_cases hcreate : allowsCreation location
      · simp only [hentry, if_pos hcreate]
        exact .inr ⟨location, _, [location.parent], rfl, by simp [hentry], rfl, rfl⟩
      · simp only [hentry, if_neg hcreate]
        exact .inl ⟨_, rfl⟩
    · simp only [hentry]
      exact .inl ⟨_, rfl⟩
    · by_cases hwritable : old.isWritable
      · simp only [hentry, if_pos hwritable]
        exact .inr ⟨location, _, [], rfl, by simp [hentry], rfl, rfl⟩
      · simp only [hentry, if_neg hwritable]
        exact .inl ⟨_, rfl⟩

/-- Overwriting a file with a text changes nothing, or puts one there that is empty if the text
cannot be encoded. -/
theorem overwrite_cases (s : Store) (now : Int) (p : Path) (text : String) :
    (∃ fault, s.overwrite now p text = (s, .error fault)) ∨
      ∃ location file directories, s.locate p = .ok location ∧ s.at? location ≠ some .directory ∧
        (Text.isEncodable text ∧ file.content = Text.utf8 text ∧ s.overwrite now p text =
            ((s.put location (.file file)).touchAll now directories, .ok ()) ∨
          Text.isEncodable text = false ∧ file.content = .empty ∧ s.overwrite now p text =
            ((s.put location (.file file)).touchAll now directories, .error .unencodable)) := by
  rw [overwrite]
  split
  · next hencodable =>
    obtain hsame | ⟨location, file, directories, hlocate, hplace, hcontent, hput⟩ :=
      overwriteBytes_cases s now p (Text.utf8 text)
    · exact .inl hsame
    · exact .inr ⟨location, file, directories, hlocate, hplace, .inl ⟨hencodable, hcontent, hput⟩⟩
  · next hencodable =>
    obtain ⟨fault, hsame⟩ | ⟨location, file, directories, hlocate, hplace, hcontent, hput⟩ :=
      overwriteBytes_cases s now p .empty
    · exact .inl ⟨fault, by rw [hsame]⟩
    · refine .inr ⟨location, file, directories, hlocate, hplace,
        .inr ⟨by simpa using hencodable, hcontent, ?_⟩⟩
      rw [hput]

end MachineConfig.Store
