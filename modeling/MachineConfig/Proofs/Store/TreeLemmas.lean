import MachineConfig.Store.Write
import MachineConfig.Proofs.Store.PathLemmas
import MachineConfig.Proofs.TableLemmas

/-!
What lies where in a file tree. Writing or removing a file changes one location (`at?_put`,
`at?_remove`) and leaves the directories as they are, so that all paths lead where they led
(`SameDirectories.locate_eq`). In a tree every entry lies in a directory (`IsTree`).
-/

namespace MachineConfig.Store

variable {s t : Store} {location other next p : Path} {name : String} {names : List String}
  {entry : Entry} {file : RegularFile}

/-! ## Entries by location -/

theorem at?_of_names_eq_nil (h : location.names = []) : s.at? location = some .directory := by
  simp [at?, h]

theorem at?_eq_get? (h : location.names ≠ []) : s.at? location = s.entries.get? location := by
  simp [at?, h]

theorem names_ne_nil_of_at?_ne_directory (h : s.at? location ≠ some .directory) :
    location.names ≠ [] := fun hnames => h (at?_of_names_eq_nil hnames)

theorem names_ne_nil_of_at?_eq_file (h : s.at? location = some (.file file)) :
    location.names ≠ [] :=
  names_ne_nil_of_at?_ne_directory (s := s) (by simp [h])

theorem names_ne_nil_of_at?_eq_none (h : s.at? location = none) : location.names ≠ [] :=
  names_ne_nil_of_at?_ne_directory (s := s) (by simp [h])

theorem at?_put (h : location.names ≠ []) (other : Path) :
    (s.put location entry).at? other = if other = location then some entry else s.at? other := by
  by_cases hother : other.names = []
  · have hne : other ≠ location := fun heq => h (heq ▸ hother)
    rw [at?_of_names_eq_nil hother, at?_of_names_eq_nil hother, if_neg hne]
  · rw [at?_eq_get? hother, at?_eq_get? hother]
    exact Table.get?_insert ..

theorem at?_put_self (h : location.names ≠ []) :
    (s.put location entry).at? location = some entry := by
  rw [at?_put h, if_pos rfl]

theorem at?_put_of_ne (h : other ≠ location) : (s.put location entry).at? other = s.at? other := by
  by_cases hother : other.names = []
  · rw [at?_of_names_eq_nil hother, at?_of_names_eq_nil hother]
  · rw [at?_eq_get? hother, at?_eq_get? hother]
    exact (Table.get?_insert ..).trans (if_neg h)

theorem at?_remove (h : location.names ≠ []) (other : Path) :
    (s.remove location).at? other = if other = location then none else s.at? other := by
  by_cases hother : other.names = []
  · have hne : other ≠ location := fun heq => h (heq ▸ hother)
    rw [at?_of_names_eq_nil hother, at?_of_names_eq_nil hother, if_neg hne]
  · rw [at?_eq_get? hother, at?_eq_get? hother]
    exact Table.get?_erase ..

@[simp] theorem put_put (newer : Entry) :
    (s.put location entry).put location newer = s.put location newer := by
  simp [put]

theorem remove_put (h : s.at? location = none) : (s.put location entry).remove location = s := by
  have hnames := names_ne_nil_of_at?_eq_none h
  rw [at?_eq_get? hnames] at h
  rw [put, remove, Table.erase_insert_of_get?_eq_none _ _ h]

theorem remove_put_of_ne (h : other ≠ location) :
    (s.put other entry).remove location = (s.remove location).put other entry := by
  rw [put, remove, Table.erase_insert_of_ne _ _ h]
  rfl

/-! ## Walking along a path -/

/-- Where a path starts. -/
def start (s : Store) (p : Path) : Path := if p.isAbsolute then ⟨.root, []⟩ else s.workingDirectory

/-- The location that the names of a path lead to. -/
def walk (s : Store) (p : Path) : Except Obstacle Path := p.names.foldlM s.step (s.start p)

/-! ## Times of directories -/

/-- The tree with these directories changed. -/
def touchAll (s : Store) (now : Int) (directories : List Path) : Store :=
  { s with times := s.times.insertAll (directories.map (·, now)) }

section touchAll

variable (s : Store) (now : Int) (directories : List Path)

@[simp] theorem touchAll_nil : s.touchAll now [] = s := rfl

@[simp] theorem touch_eq_touchAll (directory : Path) :
    s.touch now directory = s.touchAll now [directory] := rfl

@[simp] theorem touchAll_touchAll (more : List Path) :
    (s.touchAll now directories).touchAll now more = s.touchAll now (directories ++ more) := by
  simp [touchAll, Table.insertAll]

@[simp] theorem at?_touchAll (location : Path) :
    (s.touchAll now directories).at? location = s.at? location := rfl

@[simp] theorem locate_touchAll (p : Path) :
    (s.touchAll now directories).locate p = s.locate p := rfl

@[simp] theorem entry?_touchAll (p : Path) :
    Store.entry? (s.touchAll now directories) p = s.entry? p := rfl

@[simp] theorem put_touchAll :
    (s.touchAll now directories).put location entry =
      (s.put location entry).touchAll now directories :=
  rfl

@[simp] theorem remove_touchAll :
    (s.touchAll now directories).remove location = (s.remove location).touchAll now directories :=
  rfl

theorem getD_times_touchAll (location : Path) :
    (s.touchAll now directories).times.getD location 0 =
      if location ∈ directories then now else s.times.getD location 0 := by
  induction directories generalizing s with
  | nil => rfl
  | cons directory directories ih =>
    refine (ih (s.touch now directory)).trans ?_
    by_cases hlocation : location ∈ directories
    · simp [hlocation]
    · by_cases heq : location = directory <;> simp [hlocation, heq, touch, Table.getD]

/-- A directory that is changed again keeps the time of its last change. -/
theorem touchAll_append_self (directory : Path) :
    s.touchAll now [directory, directory] = s.touchAll now [directory] := by
  simp [touchAll]

end touchAll

/-- Of all directories that are changed only the one at a location counts there. -/
theorem timeAt?_touchAll_of_mem {directories : List Path} (h : location ∈ directories)
    (now : Int) :
    (s.touchAll now directories).timeAt? location = (s.touch now location).timeAt? location := by
  simp only [timeAt?, touch_eq_touchAll, getD_times_touchAll, h, if_true, List.mem_singleton]
  rfl

theorem timeAt?_touchAll_of_not_mem {directories : List Path} (h : location ∉ directories)
    (now : Int) : (s.touchAll now directories).timeAt? location = s.timeAt? location := by
  simp only [timeAt?, getD_times_touchAll, h, if_false]
  rfl

/-! ## Where paths lead -/

theorem locate_of_obstacle?_eq_none (h : obstacle? p = none) : s.locate p = s.walk p := by
  rw [locate, h]
  rfl

theorem locate_eq_ok_iff :
    s.locate p = .ok location ↔ obstacle? p = none ∧ s.walk p = .ok location := by
  cases h : obstacle? p with
  | none => simp [locate_of_obstacle?_eq_none h]
  | some obstacle => simp [locate, h]

theorem walk_below : s.walk (p.below names) = s.walk p >>= names.foldlM s.step := by
  rw [walk, Path.names_below, List.foldlM_append]
  rfl

theorem walk_below_singleton : s.walk (p.below [name]) = s.walk p >>= (s.step · name) := by
  rw [walk_below]
  simp

theorem walk_below_eq_ok_iff : s.walk (p.below [name]) = .ok next ↔
    ∃ location, s.walk p = .ok location ∧ s.step location name = .ok next := by
  rw [walk_below_singleton]
  cases s.walk p with
  | error obstacle => simp [bind, Except.bind]
  | ok location => simp [bind, Except.bind]

/-- One goes on from directories only: into them or, by `..`, out of them. -/
theorem step_eq_ok_iff : s.step location name = .ok next ↔
    s.at? location = some .directory ∧ Text.byteLength name ≤ nameLimit ∧
      if name = ".." then (location.names ≠ [] ∨ location.isAbsolute) ∧ next = location.parent
      else next = location.below [name] := by
  rw [step]
  by_cases hdirectory : s.at? location = some .directory
  · rw [if_neg (not_not_intro hdirectory)]
    by_cases hsize : nameLimit < Text.byteLength name
    · rw [if_pos hsize]
      exact ⟨nofun, fun h => absurd hsize (Nat.not_lt.2 h.2.1)⟩
    · rw [if_neg hsize]
      have hfits : Text.byteLength name ≤ nameLimit := Nat.not_lt.1 hsize
      by_cases hname : name = ".."
      · rw [if_neg (not_not_intro hname), if_pos hname]
        by_cases hnames : location.names = []
        · have hparent : location.parent = location := by
            rw [Path.parent, hnames, List.dropLast_nil, ← hnames]
          by_cases habsolute : location.isAbsolute <;>
            simp [hdirectory, hfits, hnames, hparent, habsolute, eq_comm]
        · rw [if_pos (by simpa using hnames), Except.ok.injEq]
          exact ⟨fun h => ⟨hdirectory, hfits, .inl hnames, h.symm⟩, fun h => h.2.2.2.symm⟩
      · simp [hdirectory, hfits, hname, Path.below, eq_comm]
  · simp [hdirectory]

theorem directory_of_step_eq_ok (h : s.step location name = .ok next) :
    s.at? location = some .directory :=
  (step_eq_ok_iff.1 h).1

theorem eq_below_of_step_eq_ok (h : s.step location name = .ok next) (hname : name ≠ "..") :
    next = location.below [name] := by
  simpa [hname] using (step_eq_ok_iff.1 h).2.2

/-- A name that is not too long is not too long a step. -/
theorem step_ne_tooLong (h : Text.byteLength name ≤ nameLimit) :
    s.step location name ≠ .error .tooLong := by
  intro hlong
  rw [step, if_neg (Nat.not_lt.2 h)] at hlong
  split at hlong
  · cases hlong
  split at hlong
  · cases hlong
  split at hlong
  · cases hlong
  split at hlong <;> cases hlong

/-- Proper names lead to the place below that they name. -/
theorem eq_below_of_foldlM_step (hnames : ".." ∉ names)
    (h : names.foldlM s.step location = .ok next) : next = location.below names := by
  induction names generalizing location with
  | nil =>
    obtain rfl := Except.ok.inj h
    rw [Path.below_nil]
  | cons name names ih =>
    rw [List.mem_cons, not_or] at hnames
    rw [List.foldlM_cons] at h
    cases hstep : s.step location name with
    | error obstacle => simp [hstep, bind, Except.bind] at h
    | ok second =>
      rw [hstep] at h
      rw [ih hnames.2 h, eq_below_of_step_eq_ok hstep (Ne.symm hnames.1), Path.below_below]
      rfl

theorem size_le_of_foldlM_step (h : names.foldlM s.step location = .ok next) :
    ∀ name ∈ names, Text.byteLength name ≤ nameLimit := by
  induction names generalizing location with
  | nil => exact nofun
  | cons name names ih =>
    rw [List.foldlM_cons] at h
    cases hstep : s.step location name with
    | error obstacle => simp [hstep, bind, Except.bind] at h
    | ok second =>
      rw [hstep] at h
      exact List.forall_mem_cons.2 ⟨(step_eq_ok_iff.1 hstep).2.1, ih h⟩

/-- Names that are not too long do not lead too far. -/
theorem foldlM_step_ne_tooLong (h : ∀ name ∈ names, Text.byteLength name ≤ nameLimit) :
    names.foldlM s.step location ≠ .error .tooLong := by
  induction names generalizing location with
  | nil => exact nofun
  | cons name names ih =>
    rw [List.forall_mem_cons] at h
    rw [List.foldlM_cons]
    cases hstep : s.step location name with
    | error obstacle =>
      intro hlong
      obtain rfl : obstacle = .tooLong := by simpa [bind, Except.bind] using hlong
      exact step_ne_tooLong h.1 hstep
    | ok second => exact ih h.2

theorem step_ne_unnameable : s.step location name ≠ .error .unnameable := by
  intro h
  rw [step] at h
  split at h
  · cases h
  split at h
  · cases h
  split at h
  · cases h
  split at h
  · cases h
  split at h <;> cases h

theorem foldlM_step_ne_unnameable : names.foldlM s.step location ≠ .error .unnameable := by
  induction names generalizing location with
  | nil => exact nofun
  | cons name names ih =>
    rw [List.foldlM_cons]
    cases hstep : s.step location name with
    | error obstacle =>
      intro h
      obtain rfl : obstacle = .unnameable := by simpa [bind, Except.bind] using h
      exact step_ne_unnameable hstep
    | ok second => exact ih

/-- A path holds no name that nothing can have. -/
def IsNameable (p : Path) : Prop := ∀ name ∈ p.names, name.toList.all Text.isNameable

instance (p : Path) : Decidable (IsNameable p) := inferInstanceAs (Decidable (∀ _ ∈ _, _))

theorem IsNameable.parent (h : IsNameable p) : IsNameable p.parent :=
  fun name hname => h name (List.dropLast_subset _ hname)

theorem IsNameable.all_name (h : IsNameable p) : p.name.toList.all Text.isNameable := by
  have hname : p.name ∈ "" :: p.names := List.getLastD_mem_cons
  rcases List.mem_cons.1 hname with hempty | hmem
  · rw [hempty]
    rfl
  · exact h _ hmem

theorem isNameable_of_locate (h : s.locate p = .ok location) : IsNameable p := by
  have hnone := (locate_eq_ok_iff.1 h).1
  rw [obstacle?] at hnone
  split at hnone
  · cases hnone
  · next hany =>
    simpa [IsNameable] using hany

/-- A path of one name can be gone along if the name is not longer than a path can be. -/
theorem obstacle?_name (hname : name.toList.all Text.isNameable)
    (hshort : Text.byteLength name ≤ pathLimit) :
    obstacle? ⟨.relative, [name]⟩ = none := by
  have htext : Path.text ⟨.relative, [name]⟩ = name := by simp [Path.text]
  rw [obstacle?, if_neg (by simpa using hname), htext, if_neg (Nat.not_lt.2 hshort)]

/-- Where a path cannot be gone along, the file system refuses it, unless a name in it is one that
nothing can have. -/
theorem fault_of_locate_eq_error {obstacle : Obstacle} (hnames : IsNameable p)
    (h : s.locate p = .error obstacle) : obstacle.fault = .inaccessible := by
  cases obstacle with
  | missingDirectory => rfl
  | tooLong => rfl
  | unnameable =>
    have hnone : obstacle? p ≠ some .unnameable := by
      rw [obstacle?, if_neg]
      · split <;> simp
      · rw [List.any_eq_true]
        rintro ⟨name, hname, hunnameable⟩
        rw [hnames name hname] at hunnameable
        cases hunnameable
    cases hobstacle : obstacle? p with
    | none =>
      rw [locate_of_obstacle?_eq_none hobstacle] at h
      exact (foldlM_step_ne_unnameable h).elim
    | some found =>
      rw [locate, hobstacle] at h
      obtain rfl := Except.error.inj h
      exact (hnone hobstacle).elim

/-- Where two trees have the same along proper names, these lead to the same. -/
theorem foldlM_step_eq_of_at? (hnames : ".." ∉ names)
    (h : ∀ front, front <+: names → t.at? (location.below front) = s.at? (location.below front)) :
    names.foldlM t.step location = names.foldlM s.step location := by
  induction names generalizing location with
  | nil => rfl
  | cons name names ih =>
    rw [List.mem_cons, not_or] at hnames
    have hplace : t.at? location = s.at? location := by simpa using h [] List.nil_prefix
    have hstep : t.step location name = s.step location name := by rw [step, step, hplace]
    rw [List.foldlM_cons, List.foldlM_cons, hstep]
    cases hnext : s.step location name with
    | error obstacle => rfl
    | ok next =>
      obtain rfl := eq_below_of_step_eq_ok hnext (Ne.symm hnames.1)
      refine ih hnames.2 fun front hfront => ?_
      rw [Path.below_below]
      exact h _ ((List.prefix_cons_inj name).2 hfront)

theorem obstacle?_of_below (hnames : p.names ≠ []) (h : obstacle? (p.below names) = none) :
    obstacle? p = none := by
  simp only [obstacle?, Path.names_below, List.any_append, Bool.or_eq_true] at h ⊢
  split at h
  · cases h
  · next hchar =>
    split at h
    · cases h
    · next hsize =>
      have hshort := Path.byteLength_text_le_below hnames names
      rw [if_neg (fun hp => hchar (.inl hp)), if_neg (by omega)]

/-- On the way to a directory, or to anything else, there are only directories. -/
theorem walk_of_below (h : s.walk (p.below names) = .ok next)
    (hnext : s.at? next = some .directory) :
    ∃ location, s.walk p = .ok location ∧ s.at? location = some .directory := by
  rw [walk_below] at h
  cases hwalk : s.walk p with
  | error obstacle => simp [hwalk, bind, Except.bind] at h
  | ok location =>
    refine ⟨location, rfl, ?_⟩
    cases names with
    | nil =>
      obtain rfl : location = next := by simpa [hwalk, bind, Except.bind, pure, Except.pure] using h
      exact hnext
    | cons name names =>
      rw [hwalk] at h
      change (s.step location name).bind _ = _ at h
      cases hstep : s.step location name with
      | error obstacle => simp [hstep, Except.bind] at h
      | ok second => exact directory_of_step_eq_ok hstep

theorem look_of_locate (h : s.locate p = .ok location) : s.look p = .ok (s.at? location) := by
  rw [look, h]

theorem entry?_eq_of_locate (h : s.locate p = .ok location) : s.entry? p = s.at? location := by
  simp [ entry?, h, Except.toOption]

theorem entry?_eq_some_iff : s.entry? p = some entry ↔
    ∃ location, s.locate p = .ok location ∧ s.at? location = some entry := by
  cases h : s.locate p with
  | error obstacle => simp [ entry?, h, Except.toOption]
  | ok location => simp [ entry?, h, Except.toOption]

/-- Whether something lies at a path can be asked unless the path is too long. -/
theorem contains_eq (h : s.locate p ≠ .error .tooLong) :
    s.contains p = .ok (s.entry? p).isSome := by
  rw [contains, look, entry?]
  cases hlocate : s.locate p with
  | ok location => rfl
  | error obstacle =>
    cases obstacle with
    | tooLong => exact (h hlocate).elim
    | missingDirectory => rfl
    | unnameable => rfl

theorem regularFile?_eq_some_iff : s.regularFile? p = some file ↔
    ∃ location, s.locate p = .ok location ∧ s.at? location = some (.file file) := by
  rw [← entry?_eq_some_iff, regularFile?]
  cases s.entry? p with
  | none => simp
  | some entry => cases entry <;> simp

theorem time?_of_regularFile? (h : s.regularFile? p = some file) : s.time? p = some file.time := by
  obtain ⟨location, hlocate, hfile⟩ := regularFile?_eq_some_iff.1 h
  rw [time?, hlocate]
  exact congrArg (Option.map _) hfile

/-! ## The files of a directory -/

theorem mem_namesIn {directory : Path} :
    name ∈ s.namesIn directory ↔ ∃ file, s.at? (directory.below [name]) = some (.file file) := by
  have hnames : (directory.below [name]).names ≠ [] := by simp
  simp only [namesIn, List.mem_filterMap, at?_eq_get? hnames, Table.get?_eq_some_iff_mem]
  constructor
  · rintro ⟨⟨p, entry⟩, hmem, hname⟩
    cases entry with
    | directory => cases hname
    | file data =>
      obtain ⟨⟨hne, rfl⟩, hlast⟩ := Option.ite_none_right_eq_some.1 hname
      rw [← Option.some.inj hlast, Path.below_parent_name hne]
      exact ⟨data, hmem⟩
  · rintro ⟨data, hmem⟩
    exact ⟨_, hmem, by simp [listedName?]⟩

/-- No name is listed twice. -/
theorem nodup_namesIn (s : Store) (directory : Path) : (s.namesIn directory).Nodup := by
  refine List.Pairwise.filterMap _ (fun e f hne name hname other hother => ?_)
    (List.pairwise_map.1 s.entries.nodup)
  obtain ⟨p, _ | data⟩ := e
  · cases hname
  obtain ⟨q, _ | data⟩ := f
  · cases hother
  obtain ⟨⟨hp, hdirectory⟩, rfl⟩ := by simpa [listedName?] using hname
  obtain ⟨⟨hq, rfl⟩, rfl⟩ := by simpa [listedName?] using hother
  intro heq
  exact hne (by rw [← Path.below_parent_name hp, ← Path.below_parent_name hq, hdirectory, heq])

/-- A new directory is in no list of files. -/
theorem namesIn_put_directory (h : s.at? location = none) (directory : Path) :
    (s.put location .directory).namesIn directory = s.namesIn directory := by
  rw [at?_eq_get? (names_ne_nil_of_at?_eq_none h)] at h
  refine filterMap_setEntry ?_
  change _ = (s.entries.get? location).bind _
  rw [h]
  rfl

/-- What is put elsewhere is not listed. -/
theorem namesIn_put_of_ne {directory : Path} (h : location.parent ≠ directory) (entry : Entry) :
    (s.put location entry).namesIn directory = s.namesIn directory := by
  have hunlisted (e : Entry) : listedName? directory (location, e) = none := by
    cases e <;> simp [listedName?, h]
  refine filterMap_setEntry ?_
  simp [hunlisted]

theorem fileNames_eq (s : Store) (p : Path) : s.fileNames p =
    match s.locate p with
    | .ok location => .ok (if s.at? location = some .directory then s.namesIn location else [])
    | .error .tooLong => .error .inaccessible
    | .error _ => .ok [] := by
  rw [fileNames, look]
  cases s.locate p with
  | error obstacle => cases obstacle <;> rfl
  | ok location =>
    cases hentry : s.at? location with
    | none => simp [hentry, bind, Except.bind, pure, Except.pure]
    | some entry =>
      cases entry with
      | file data => simp [hentry, bind, Except.bind, pure, Except.pure]
      | directory =>
        simp only [hentry, bind, Except.bind, pure, Except.pure, if_true]

/-! ## Trees with the same directories -/

/-- Two trees differ in files only. -/
structure SameDirectories (s t : Store) : Prop where
  workingDirectory : s.workingDirectory = t.workingDirectory
  directory : ∀ location, s.at? location = some .directory ↔ t.at? location = some .directory

namespace SameDirectories

theorem refl (s : Store) : SameDirectories s s := ⟨rfl, fun _ => .rfl⟩

theorem trans {u : Store} (h : SameDirectories s t) (h' : SameDirectories t u) :
    SameDirectories s u :=
  ⟨h.workingDirectory.trans h'.workingDirectory,
    fun location => (h.directory location).trans (h'.directory location)⟩

theorem touchAll (h : SameDirectories s t) (now : Int) (directories : List Path) :
    SameDirectories s (t.touchAll now directories) :=
  ⟨h.workingDirectory, h.directory⟩

theorem walk_eq (h : SameDirectories s t) (p : Path) : s.walk p = t.walk p := by
  have hstep : s.step = t.step := by
    funext location name
    simp only [step, ne_eq, h.directory]
  rw [walk, walk, hstep, start, start, h.workingDirectory]

/-- All paths lead where they led. -/
theorem locate_eq (h : SameDirectories s t) (p : Path) : s.locate p = t.locate p := by
  cases hobstacle : obstacle? p with
  | none =>
    rw [locate_of_obstacle?_eq_none hobstacle, locate_of_obstacle?_eq_none hobstacle, h.walk_eq]
  | some obstacle => rw [locate, locate, hobstacle]

end SameDirectories

theorem sameDirectories_put (h : s.at? location ≠ some .directory) (file : RegularFile) :
    SameDirectories s (s.put location (.file file)) := by
  refine ⟨rfl, fun other => ?_⟩
  rw [at?_put (names_ne_nil_of_at?_ne_directory h)]
  split
  · next heq => simp [heq, h]
  · rfl

/-- A file that is put where a path leads is found at the path. -/
theorem regularFile?_put (hlocate : s.locate p = .ok location)
    (hplace : s.at? location ≠ some .directory) (file : RegularFile) :
    (s.put location (.file file)).regularFile? p = some file := by
  refine regularFile?_eq_some_iff.2 ⟨location, ?_, at?_put_self ?_⟩
  · exact ((sameDirectories_put hplace file).locate_eq p).symm.trans hlocate
  · exact names_ne_nil_of_at?_ne_directory hplace

theorem sameDirectories_remove (h : s.at? location ≠ some .directory) :
    SameDirectories s (s.remove location) := by
  refine ⟨rfl, fun other => ?_⟩
  rw [at?_remove (names_ne_nil_of_at?_ne_directory h)]
  split
  · next heq => simp [heq, h]
  · rfl

/-! ## Trees with more directories -/

/-- A tree has all directories that another has. -/
structure KeepsDirectories (s t : Store) : Prop where
  workingDirectory : t.workingDirectory = s.workingDirectory
  directory : ∀ {location}, s.at? location = some .directory → t.at? location = some .directory

namespace KeepsDirectories

theorem step_eq (h : KeepsDirectories s t) (hstep : s.step location name = .ok next) :
    t.step location name = .ok next := by
  rw [step_eq_ok_iff] at hstep ⊢
  exact ⟨h.directory hstep.1, hstep.2⟩

theorem foldlM_step_eq (h : KeepsDirectories s t)
    (hwalk : names.foldlM s.step location = .ok next) :
    names.foldlM t.step location = .ok next := by
  induction names generalizing location with
  | nil => exact hwalk
  | cons name names ih =>
    rw [List.foldlM_cons] at hwalk ⊢
    cases hstep : s.step location name with
    | error obstacle => simp [hstep, bind, Except.bind] at hwalk
    | ok second =>
      rw [h.step_eq hstep]
      rw [hstep] at hwalk
      exact ih hwalk

theorem walk_eq (h : KeepsDirectories s t) (hwalk : s.walk p = .ok location) :
    t.walk p = .ok location := by
  rw [walk, start, h.workingDirectory]
  exact h.foldlM_step_eq hwalk

/-- A path that led somewhere leads there still. -/
theorem locate_eq (h : KeepsDirectories s t) (hlocate : s.locate p = .ok location) :
    t.locate p = .ok location := by
  rw [locate_eq_ok_iff] at hlocate ⊢
  exact ⟨hlocate.1, h.walk_eq hlocate.2⟩

end KeepsDirectories

/-- A tree has all that another has, and perhaps more directories. -/
structure Extends (s t : Store) : Prop where
  workingDirectory : t.workingDirectory = s.workingDirectory
  entry : ∀ location, t.at? location = s.at? location ∨
    s.at? location = none ∧ t.at? location = some .directory
  namesIn : ∀ directory, t.namesIn directory = s.namesIn directory

namespace Extends

theorem refl (s : Store) : Extends s s := ⟨rfl, fun _ => .inl rfl, fun _ => rfl⟩

theorem trans {u : Store} (h : Extends s t) (h' : Extends t u) : Extends s u := by
  refine ⟨h'.workingDirectory.trans h.workingDirectory, fun location => ?_,
    fun directory => (h'.namesIn directory).trans (h.namesIn directory)⟩
  rcases h'.entry location with hu | ⟨ht, hu⟩
  · rw [hu]
    exact h.entry location
  · rcases h.entry location with hs | ⟨hs, -⟩
    · exact .inr ⟨hs ▸ ht, hu⟩
    · exact .inr ⟨hs, hu⟩

theorem at?_eq (h : Extends s t) (hentry : s.at? location = some entry) :
    t.at? location = some entry := by
  rcases h.entry location with ht | ⟨hs, -⟩
  · exact ht.trans hentry
  · simp [hs] at hentry

theorem at?_eq_file_iff (h : Extends s t) :
    t.at? location = some (.file file) ↔ s.at? location = some (.file file) := by
  rcases h.entry location with ht | ⟨hs, ht⟩
  · rw [ht]
  · simp [hs, ht]

theorem keepsDirectories (h : Extends s t) : KeepsDirectories s t :=
  ⟨h.workingDirectory, h.at?_eq⟩

theorem walk_eq (h : Extends s t) (hwalk : s.walk p = .ok location) : t.walk p = .ok location :=
  h.keepsDirectories.walk_eq hwalk

theorem locate_eq (h : Extends s t) (hlocate : s.locate p = .ok location) :
    t.locate p = .ok location :=
  h.keepsDirectories.locate_eq hlocate

theorem regularFile?_eq (h : Extends s t) (hfile : s.regularFile? p = some file) :
    t.regularFile? p = some file := by
  obtain ⟨location, hlocate, hentry⟩ := regularFile?_eq_some_iff.1 hfile
  exact regularFile?_eq_some_iff.2 ⟨location, h.locate_eq hlocate, h.at?_eq hentry⟩

end Extends

theorem extends_put_directory (h : s.at? location = none) :
    Extends s (s.put location .directory) := by
  refine ⟨rfl, fun other => ?_, namesIn_put_directory h⟩
  rw [at?_put (names_ne_nil_of_at?_eq_none h)]
  split
  · next heq => exact .inr ⟨heq ▸ h, rfl⟩
  · exact .inl rfl

theorem Extends.touchAll (h : Extends s t) (now : Int) (directories : List Path) :
    Extends s (t.touchAll now directories) :=
  ⟨h.workingDirectory, h.entry, h.namesIn⟩

/-! ## Trees -/

/-- Every entry lies in a directory, and a file has a name that a path can hold. -/
structure IsTree (s : Store) : Prop where
  isName : ∀ {location file}, s.at? location = some (.file file) → IsName location.name
  parent : ∀ {location}, s.at? location ≠ none → s.at? location.parent = some .directory

/-- Whether a tree is one can be told from its entries. -/
theorem isTree_of_forall_entries (h : ∀ e ∈ s.entries.entries,
    s.at? e.1.parent = some .directory ∧ (e.2 = .directory ∨ IsName e.1.name)) : s.IsTree := by
  have hentry : ∀ {location entry}, s.at? location = some entry → location.names ≠ [] →
      (location, entry) ∈ s.entries.entries := by
    intro location entry hentry hnames
    rw [at?_eq_get? hnames] at hentry
    exact Table.get?_eq_some_iff_mem.1 hentry
  constructor
  · intro location file hfile
    have hmem := hentry hfile (names_ne_nil_of_at?_eq_file hfile)
    exact (h _ hmem).2.resolve_left nofun
  · intro location hlocation
    by_cases hnames : location.names = []
    · exact at?_of_names_eq_nil (by rw [Path.parent, hnames, List.dropLast_nil])
    · obtain ⟨entry, hthere⟩ := Option.ne_none_iff_exists'.1 hlocation
      exact (h _ (hentry hthere hnames)).1

theorem names_ne_nil_of_isName (h : IsName location.name) : location.names ≠ [] := by
  intro hnames
  exact h.ne_empty (by simp [Path.name, hnames])

namespace IsTree

theorem put_file (h : s.IsTree) (hname : IsName location.name)
    (hparent : s.at? location.parent = some .directory) (hplace : s.at? location ≠ some .directory)
    (file : RegularFile) : (s.put location (.file file)).IsTree := by
  have hput (other : Path) : (s.put location (.file file)).at? other =
      if other = location then some (.file file) else s.at? other :=
    at?_put (names_ne_nil_of_isName hname) other
  have hdirectory := (sameDirectories_put hplace file).directory
  constructor
  · intro other data hfile
    rw [hput] at hfile
    split at hfile
    · next heq => exact heq ▸ hname
    · exact h.isName hfile
  · intro other hother
    rw [← hdirectory]
    rw [hput] at hother
    split at hother
    · next heq => exact heq ▸ hparent
    · exact h.parent hother

theorem remove_file (h : s.IsTree) (hfile : s.at? location = some (.file file)) :
    (s.remove location).IsTree := by
  have hremove := at?_remove (s := s) (names_ne_nil_of_at?_eq_file hfile)
  have hplace : s.at? location ≠ some .directory := by simp [hfile]
  have hdirectory := (sameDirectories_remove hplace).directory
  constructor
  · intro other data hother
    rw [hremove] at hother
    split at hother
    · cases hother
    · exact h.isName hother
  · intro other hother
    rw [← hdirectory]
    rw [hremove] at hother
    split at hother
    · exact (hother rfl).elim
    · exact h.parent hother

theorem put_directory (h : s.IsTree) (hplace : s.at? location = none)
    (hparent : s.at? location.parent = some .directory) : (s.put location .directory).IsTree := by
  have hextends := extends_put_directory hplace
  constructor
  · intro other data hfile
    exact h.isName (hextends.at?_eq_file_iff.1 hfile)
  · intro other hother
    rw [at?_put (names_ne_nil_of_at?_eq_none hplace)] at hother
    split at hother
    · next heq => exact hextends.at?_eq (heq ▸ hparent)
    · exact hextends.at?_eq (h.parent hother)

theorem touchAll (h : s.IsTree) (now : Int) (directories : List Path) :
    (s.touchAll now directories).IsTree :=
  ⟨h.isName, h.parent⟩

/-- What a path with a name leads to lies in a directory, or would. -/
theorem parent_of_locate (h : s.IsTree) (hnames : p.names ≠ [])
    (hlocate : s.locate p = .ok location) :
    s.at? location.parent = some .directory := by
  have hwalk := (locate_eq_ok_iff.1 hlocate).2
  rw [← Path.below_parent_name hnames, walk_below_eq_ok_iff] at hwalk
  obtain ⟨above, -, hstep⟩ := hwalk
  obtain ⟨hdirectory, -, hnext⟩ := step_eq_ok_iff.1 hstep
  split at hnext
  · obtain ⟨-, rfl⟩ := hnext
    have hupper : s.at? above.parent = some .directory := h.parent (by simp [hdirectory])
    exact h.parent (by simp [hupper])
  · rw [hnext, Path.parent_below_singleton]
    exact hdirectory

/-- All that lies above something is a directory. -/
theorem directory_of_below (h : s.IsTree) (hnames : names ≠ [])
    (hthere : s.at? (location.below names) ≠ none) : s.at? location = some .directory := by
  induction names generalizing location with
  | nil => exact (hnames rfl).elim
  | cons name rest ih =>
    have hnext : s.at? (location.below [name]) ≠ none := by
      by_cases hrest : rest = []
      · rwa [hrest] at hthere
      · have hbelow : location.below (name :: rest) = (location.below [name]).below rest := by simp
        rw [hbelow] at hthere
        simp [ih hrest hthere]
    simpa using h.parent hnext

/-- Where a directory was there before, a path of proper names led to it before. -/
theorem walk_eq_of_directory (h : s.IsTree) (hextends : Extends s t) (hnames : ".." ∉ p.names)
    (hwalk : t.walk p = .ok location) (hdirectory : s.at? location = some .directory) :
    s.walk p = .ok location := by
  have hstart : s.start p = t.start p := by rw [start, start, hextends.workingDirectory]
  have hplace : location = (t.start p).below p.names := eq_below_of_foldlM_step hnames hwalk
  rw [← hwalk, walk, walk, hstart]
  refine (foldlM_step_eq_of_at? hnames fun front hfront => ?_).symm
  obtain ⟨rest, hrest⟩ := hfront
  rw [hplace, ← hrest, ← Path.below_below] at hdirectory
  have hthere : s.at? ((t.start p).below front) = some .directory := by
    by_cases hnil : rest = []
    · rwa [hnil, Path.below_nil] at hdirectory
    · exact h.directory_of_below hnil (hdirectory ▸ Option.some_ne_none _)
  rw [hthere, hextends.at?_eq hthere]

end IsTree

end MachineConfig.Store
