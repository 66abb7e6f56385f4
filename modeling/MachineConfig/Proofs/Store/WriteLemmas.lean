import MachineConfig.Proofs.Store.TreeLemmas

/-!
What making directories and replacing a file come to. Directories that are there are not made
again (`makeDirectories_of_directory`), and a tree gains nothing but directories
(`makeDirectories_extends`). Replacing a file puts the new one in its place or changes nothing at
all, but that a temporary file may have come and gone (`replace_eq`).
-/

namespace MachineConfig.Store

variable {s t : Store} {now : Int} {location directory p done : Path} {name : String}
  {names : List String}

/-! ## Making directories -/

theorem makeDirectory_of_directory (h : s.locate p = .ok location)
    (hdirectory : s.at? location = some .directory) : s.makeDirectory now p = (s, .ok ()) := by
  rw [makeDirectory, h]
  simp [hdirectory]

theorem makeDirectoriesFrom_cons (s : Store) (now : Int) (done : Path) (name : String)
    (names : List String) :
    s.makeDirectoriesFrom now done (name :: names) =
      match s.makeDirectory now (done.below [name]) with
      | (s, .ok ()) => s.makeDirectoriesFrom now (done.below [name]) names
      | (s, .error fault) => (s, .error fault) := rfl

/-- Where directories lead along some names, going on begins behind them. -/
theorem makeDirectoriesFrom_append {more : List String}
    (hobstacle : names ≠ [] → obstacle? (done.below names) = none)
    (hwalk : s.walk (done.below names) = .ok location)
    (hdirectory : s.at? location = some .directory) :
    s.makeDirectoriesFrom now done (names ++ more) =
      s.makeDirectoriesFrom now (done.below names) more := by
  induction names generalizing done with
  | nil => rw [Path.below_nil, List.nil_append]
  | cons name names ih =>
    have hbelow : done.below (name :: names) = (done.below [name]).below names := by simp
    rw [hbelow] at hobstacle hwalk ⊢
    obtain ⟨first, hfirst, hthere⟩ := walk_of_below hwalk hdirectory
    have hclear := hobstacle (List.cons_ne_nil _ _)
    have hlocate : s.locate (done.below [name]) = .ok first :=
      locate_eq_ok_iff.2 ⟨obstacle?_of_below (by simp) hclear, hfirst⟩
    rw [List.cons_append, makeDirectoriesFrom_cons, makeDirectory_of_directory hlocate hthere]
    exact ih (fun _ => hclear) hwalk

theorem makeDirectories_of_directory (h : s.locate p = .ok location)
    (hdirectory : s.at? location = some .directory) : s.makeDirectories now p = (s, .ok ()) := by
  rw [locate_eq_ok_iff] at h
  have hmade : s.makeDirectoriesFrom now { p with names := [] } (p.names ++ []) = (s, .ok ()) :=
    makeDirectoriesFrom_append (fun _ => h.1) h.2 hdirectory
  rw [makeDirectories, h.1]
  rwa [List.append_nil] at hmade

/-- One directory is made where nothing lies, or none. -/
theorem makeDirectory_cases (s : Store) (now : Int) (p : Path) : (s.makeDirectory now p).1 = s ∨
    ∃ location, s.locate p = .ok location ∧ s.at? location = none ∧
      s.makeDirectory now p =
        ((s.put location .directory).touchAll now [location.parent, location], .ok ()) := by
  rw [makeDirectory]
  cases hlocate : s.locate p with
  | error obstacle => exact .inl rfl
  | ok location =>
    cases hentry : s.at? location with
    | none =>
      by_cases hcreate : allowsCreation location
      · exact .inr ⟨location, rfl, hentry, by simp [hentry, hcreate, create]⟩
      · exact .inl (by simp [hentry, hcreate])
    | some entry => cases entry <;> exact .inl (by simp [hentry])

theorem makeDirectory_extends (s : Store) (now : Int) (p : Path) :
    Extends s (s.makeDirectory now p).1 := by
  rcases makeDirectory_cases s now p with hsame | ⟨location, -, hnone, hmade⟩
  · rw [hsame]
    exact .refl s
  · rw [hmade]
    exact (extends_put_directory hnone).touchAll ..

theorem directory_of_makeDirectory (h : s.makeDirectory now p = (t, .ok ())) :
    ∃ location, t.locate p = .ok location ∧ t.at? location = some .directory := by
  have hextends : Extends s t := by simpa [h] using makeDirectory_extends s now p
  rw [makeDirectory] at h
  cases hlocate : s.locate p with
  | error obstacle => simp [hlocate] at h
  | ok location =>
    refine ⟨location, hextends.locate_eq hlocate, ?_⟩
    rw [hlocate] at h
    cases hentry : s.at? location with
    | none =>
      have hnames := names_ne_nil_of_at?_eq_none hentry
      simp only [hentry] at h
      split at h
      · obtain ⟨rfl, -⟩ := Prod.mk.inj h
        exact at?_put_self hnames
      · simp at h
    | some entry =>
      cases entry with
      | directory => exact hextends.at?_eq hentry
      | file data => simp [hentry] at h

theorem makeDirectoriesFrom_extends (s : Store) (now : Int) (done : Path) (names : List String) :
    Extends s (s.makeDirectoriesFrom now done names).1 := by
  induction names generalizing s done with
  | nil => exact .refl s
  | cons name names ih =>
    have hfirst := makeDirectory_extends s now (done.below [name])
    rw [makeDirectoriesFrom_cons]
    split
    · next made hmade =>
      rw [hmade] at hfirst
      exact hfirst.trans (ih made _)
    · next made fault hmade => rwa [hmade] at hfirst

theorem makeDirectories_extends (s : Store) (now : Int) (p : Path) :
    Extends s (s.makeDirectories now p).1 := by
  rw [makeDirectories]
  split
  · exact .refl s
  · exact makeDirectoriesFrom_extends s now _ _

theorem directory_of_makeDirectoriesFrom (hnames : names ≠ [])
    (h : s.makeDirectoriesFrom now done names = (t, .ok ())) :
    ∃ location, t.locate (done.below names) = .ok location ∧ t.at? location = some .directory := by
  induction names generalizing s done with
  | nil => exact (hnames rfl).elim
  | cons name names ih =>
    rw [makeDirectoriesFrom_cons] at h
    split at h
    · next made hmade =>
      by_cases hlast : names = []
      · subst hlast
        obtain ⟨rfl, -⟩ := Prod.mk.inj h
        exact directory_of_makeDirectory hmade
      · simpa using ih hlast h
    · simp at h

/-- After directories have been made, they are there. -/
theorem directory_of_makeDirectories (hnames : p.names ≠ [])
    (h : s.makeDirectories now p = (t, .ok ())) :
    ∃ location, t.locate p = .ok location ∧ t.at? location = some .directory := by
  rw [makeDirectories] at h
  split at h
  · simp at h
  · exact directory_of_makeDirectoriesFrom hnames h

/-- Only the directories on the way are made. -/
theorem at?_makeDirectoriesFrom {other : Path} (hwalk : s.walk done = .ok location)
    (hnames : ".." ∉ names) (hother : ∀ front, front <+: names → other ≠ location.below front) :
    (s.makeDirectoriesFrom now done names).1.at? other = s.at? other := by
  induction names generalizing s done location with
  | nil => rfl
  | cons name names ih =>
    rw [List.mem_cons, not_or] at hnames
    have hbelow : ∀ {next u}, Extends s u → u.locate (done.below [name]) = .ok next →
        next = location.below [name] := by
      intro next u hextends hlocate
      obtain ⟨above, habove, hstep⟩ := walk_below_eq_ok_iff.1 (locate_eq_ok_iff.1 hlocate).2
      obtain rfl := Except.ok.inj ((hextends.walk_eq hwalk).symm.trans habove)
      exact eq_below_of_step_eq_ok hstep (Ne.symm hnames.1)
    have hextends := makeDirectory_extends s now (done.below [name])
    have hfirst : (s.makeDirectory now (done.below [name])).1.at? other = s.at? other := by
      rcases makeDirectory_cases s now (done.below [name]) with hsame | ⟨next, hlocate, -, hmade⟩
      · rw [hsame]
      · rw [hmade, hbelow (.refl s) hlocate]
        exact at?_put_of_ne (hother [name] ⟨names, rfl⟩)
    rw [makeDirectoriesFrom_cons]
    split
    · next made hmade =>
      rw [hmade] at hfirst hextends
      obtain ⟨next, hlocate, -⟩ := directory_of_makeDirectory hmade
      obtain rfl := hbelow hextends hlocate
      refine (ih (locate_eq_ok_iff.1 hlocate).2 hnames.2 fun front hfront => ?_).trans hfirst
      rw [Path.below_below]
      exact hother _ (List.cons_prefix_cons.2 ⟨rfl, hfront⟩)
    · next made fault hmade => rwa [hmade] at hfirst

theorem at?_makeDirectories_below {other : Path} (hwalk : s.walk p = .ok location)
    (hdirectory : s.at? location = some .directory) (hnames : ".." ∉ names)
    (hother : ∀ front, front <+: names → other ≠ location.below front) :
    (s.makeDirectories now (p.below names)).1.at? other = s.at? other := by
  rw [makeDirectories]
  split
  · rfl
  · next hobstacle =>
    have hmade : s.makeDirectoriesFrom now { p with names := [] } (p.names ++ names) =
        s.makeDirectoriesFrom now p names :=
      makeDirectoriesFrom_append (fun hne => obstacle?_of_below (p := p) hne hobstacle) hwalk
        hdirectory
    have hstart :
        s.makeDirectoriesFrom now { p.below names with names := [] } (p.below names).names =
          s.makeDirectoriesFrom now p names :=
      hmade
    rw [hstart]
    exact at?_makeDirectoriesFrom hwalk hnames hother

theorem IsTree.makeDirectory (h : s.IsTree) (now : Int) (hnames : p.names ≠ []) :
    (s.makeDirectory now p).1.IsTree := by
  rcases makeDirectory_cases s now p with hsame | ⟨location, hlocate, hnone, hmade⟩
  · rwa [hsame]
  · rw [hmade]
    exact (h.put_directory hnone (h.parent_of_locate hnames hlocate)).touchAll ..

theorem IsTree.makeDirectoriesFrom (h : s.IsTree) (now : Int) (done : Path) (names : List String) :
    (s.makeDirectoriesFrom now done names).1.IsTree := by
  induction names generalizing s done with
  | nil => exact h
  | cons name names ih =>
    have hfirst := h.makeDirectory now (p := done.below [name]) (by simp)
    rw [makeDirectoriesFrom_cons]
    split
    · next made hmade =>
      rw [hmade] at hfirst
      exact ih hfirst _
    · next made fault hmade => rwa [hmade] at hfirst

theorem IsTree.makeDirectories (h : s.IsTree) (now : Int) (p : Path) :
    (s.makeDirectories now p).1.IsTree := by
  rw [Store.makeDirectories]
  split
  · exact h
  · exact h.makeDirectoriesFrom ..

/-! ## Replacing a file -/

theorem le_foldl_max {ps : List Path} (n : Nat) :
    n ≤ ps.foldl (fun n p => max n p.name.length) n ∧
      ∀ p ∈ ps, p.name.length ≤ ps.foldl (fun n p => max n p.name.length) n := by
  induction ps generalizing n with
  | nil => exact ⟨Nat.le_refl n, nofun⟩
  | cons q ps ih =>
    obtain ⟨hstart, hrest⟩ := ih (max n q.name.length)
    rw [List.foldl_cons]
    refine ⟨by omega, fun p hp => ?_⟩
    rcases List.mem_cons.1 hp with rfl | hp
    · omega
    · exact hrest p hp

theorem name_length_le_longestName (h : s.at? location ≠ none) (hnames : location.names ≠ []) :
    location.name.length ≤ s.longestName := by
  rw [at?_eq_get? hnames, ← Table.mem_keys_iff_get?_ne_none] at h
  exact (le_foldl_max 0).2 location h

/-- The name of a temporary file is free. -/
theorem at?_temporaryName (s : Store) (directory : Path) (name : String) :
    s.at? (directory.below [s.temporaryName name]) = none := by
  refine Classical.not_not.1 fun hne => ?_
  have hlength := name_length_le_longestName hne (by simp)
  simp [temporaryName] at hlength
  omega

theorem temporaryLocation_of_directory (hparent : s.locate p.parent = .ok directory)
    (hdirectory : s.at? directory = some .directory) :
    s.temporaryLocation p =
      if !p.name.toList.all Text.isNameable then .error .unnameable
      else if !(allowsTemporary p.name && allowsCreation (directory.below [p.name])) then
        .error .inaccessible
      else .ok (directory.below [s.temporaryName p.name]) := by
  have hcreation : allowsCreation (directory.below [s.temporaryName p.name]) =
      allowsCreation (directory.below [p.name]) := by
    simp [allowsCreation]
  have htemporary : { directory with names := directory.names ++ [s.temporaryName p.name] } =
      directory.below [s.temporaryName p.name] := rfl
  rw [temporaryLocation, hparent]
  simp only [Except.mapError, bind, Except.bind, throw, throwThe, MonadExceptOf.throw, pure,
    Except.pure, hdirectory, htemporary, hcreation]
  cases allowsTemporary p.name <;> cases allowsCreation (directory.below [p.name]) <;> rfl

/-- The permissions of a file that is put in the place of an entry. -/
def modeOver : Option Entry → Nat
  | some (.file old) => old.mode &&& 0o777
  | _ => 0o644

theorem modeFor_eq (s : Store) (p : Path) : s.modeFor p = (s.look p).map modeOver := by
  rw [modeFor]
  rcases s.look p with fault | (_ | (_ | data)) <;> rfl

/-- Why a file cannot be replaced, and whether that is found out when a temporary file is there. -/
structure Refusal where
  fault : HostFault
  isLate : Bool

/-- What replacing a file in a directory puts where, unless something stands against it. -/
def replacement (s : Store) (now : Int) (p : Path) (text : String) :
    Except Refusal (Path × RegularFile) :=
  match s.look p, s.locate p.parent with
  | .error fault, _ => .error ⟨fault, false⟩
  | _, .error obstacle => .error ⟨obstacle.fault, false⟩
  | .ok old, .ok directory =>
    if !p.name.toList.all Text.isNameable then .error ⟨.unnameable, false⟩
    else if !(allowsTemporary p.name && allowsCreation (directory.below [p.name])) then
      .error ⟨.inaccessible, false⟩
    else if !Text.isEncodable text then .error ⟨.unencodable, true⟩
    else match s.locate p with
      | .error _ => .error ⟨.inaccessible, true⟩
      | .ok location =>
        if old = some .directory then .error ⟨.inaccessible, true⟩
        else .ok (location, ⟨Text.utf8 text, modeOver old, now⟩)

/-! A temporary file is created, filled, and taken away or moved. -/

section temporary

variable (h : s.at? location = none) (now : Int)

theorem create_eq (s : Store) (now : Int) (location : Path) (entry : Entry) :
    s.create now location entry = (s.put location entry).touchAll now [location.parent] := rfl

@[simp] theorem put_create (s : Store) (now : Int) (location : Path) (entry newer : Entry) :
    (s.create now location entry).put location newer = s.create now location newer := by
  simp [create_eq]

include h

theorem at?_create (entry : Entry) : (s.create now location entry).at? location = some entry :=
  at?_put_self (names_ne_nil_of_at?_eq_none h)

theorem sameDirectories_create (file : RegularFile) :
    SameDirectories s (s.create now location (.file file)) := by
  have hplace : s.at? location ≠ some .directory := by simp [h]
  exact (sameDirectories_put hplace file).touchAll now [location.parent]

theorem discard_create (entry : Entry) :
    (s.create now location entry).discard now location = s.touchAll now [location.parent] := by
  rw [discard, create_eq, remove_touchAll, remove_put h, touch_eq_touchAll, touchAll_touchAll]
  exact touchAll_append_self ..

theorem renameTo_create (p : Path) (file : RegularFile) :
    (s.create now location (.file file)).renameTo now location p =
      match s.locate p with
      | .ok target =>
        if s.at? target = some .directory then
          (s.create now location (.file file), .error .inaccessible)
        else ((s.put target (.file file)).touchAll now [location.parent], .ok ())
      | .error _ => (s.create now location (.file file), .error .inaccessible) := by
  have hsame := sameDirectories_create h now file
  rw [renameTo, ← hsame.locate_eq p, at?_create h]
  cases s.locate p with
  | error obstacle => rfl
  | ok target => simp only [← hsame.directory, discard_create h, put_touchAll]

end temporary

/-- In a directory that is there, a file is replaced in one step or no file is changed. -/
theorem replace_eq {text : String} (hparent : s.locate p.parent = .ok directory)
    (hdirectory : s.at? directory = some .directory) :
    s.replace now p text =
      match s.replacement now p text with
      | .ok (location, file) => ((s.put location (.file file)).touchAll now [directory], .ok ())
      | .error refusal =>
        (if refusal.isLate then s.touchAll now [directory] else s, .error refusal.fault) := by
  simp only [replace, replaceUnder, makeDirectories_of_directory hparent hdirectory,
    temporaryLocation_of_directory hparent hdirectory, modeFor_eq, Bool.false_eq_true, if_false]
  rw [replacement, hparent]
  cases hlook : s.look p with
  | error fault => rfl
  | ok old =>
    simp only [Except.map]
    by_cases hname : !p.name.toList.all Text.isNameable
    · simp only [if_pos hname]
      rfl
    simp only [if_neg hname]
    by_cases hroom : !(allowsTemporary p.name && allowsCreation (directory.below [p.name]))
    · simp only [if_pos hroom]
      rfl
    have hfree := at?_temporaryName s directory p.name
    simp only [if_neg hroom, put_create, discard_create hfree, renameTo_create hfree,
      Path.parent_below_singleton]
    by_cases hencodable : !Text.isEncodable text
    · simp only [if_pos hencodable, if_true]
    simp only [if_neg hencodable]
    cases hlocate : s.locate p with
    | error obstacle => simp only [discard_create hfree, Path.parent_below_singleton, if_true]
    | ok target =>
      obtain rfl : s.at? target = old := Except.ok.inj ((look_of_locate hlocate).symm.trans hlook)
      by_cases htarget : s.at? target = some .directory
      · simp only [if_pos htarget, discard_create hfree, Path.parent_below_singleton, if_true]
      · simp only [if_neg htarget]

theorem of_replacement_eq_ok {text : String} {file : RegularFile}
    (h : s.replacement now p text = .ok (location, file)) :
    s.locate p = .ok location ∧ s.at? location ≠ some .directory ∧ Text.isEncodable text ∧
      allowsTemporary p.name ∧ file = ⟨Text.utf8 text, modeOver (s.at? location), now⟩ := by
  rw [replacement] at h
  split at h
  · cases h
  · cases h
  next old directory hlook hparent =>
  split at h
  · cases h
  split at h
  · cases h
  next hroom =>
  split at h
  · cases h
  next hencodable =>
  split at h
  · cases h
  next target hlocate =>
  split at h
  · cases h
  next hplace =>
  obtain ⟨rfl, rfl⟩ := Prod.mk.inj (Except.ok.inj h)
  obtain rfl : s.at? target = old := Except.ok.inj ((look_of_locate hlocate).symm.trans hlook)
  simp only [Bool.not_eq_true', Bool.not_eq_false, Bool.and_eq_true] at hroom hencodable
  exact ⟨hlocate, hplace, hencodable, hroom.1, rfl⟩

/-- A text that can be written is refused for the file system's reasons only. -/
theorem of_replacement_eq_error {text : String} {refusal : Refusal}
    (hparent : s.locate p.parent = .ok directory) (hname : p.name.toList.all Text.isNameable)
    (h : s.replacement now p text = .error refusal) :
    refusal.fault = .inaccessible ∨
      refusal.fault = .unencodable ∧ Text.isEncodable text = false := by
  rw [replacement, hparent] at h
  split at h
  · next lookFault hlook =>
    obtain rfl := Except.error.inj h
    rw [look] at hlook
    split at hlook <;> cases hlook
    exact .inl rfl
  · next hother _ => cases hother
  rw [hname, Bool.not_true, if_neg Bool.false_ne_true] at h
  split at h
  · obtain rfl := Except.error.inj h
    exact .inl rfl
  split at h
  · next hencodable =>
    obtain rfl := Except.error.inj h
    exact .inr ⟨rfl, by simpa using hencodable⟩
  split at h
  · obtain rfl := Except.error.inj h
    exact .inl rfl
  split at h
  · obtain rfl := Except.error.inj h
    exact .inl rfl
  · cases h

theorem SameDirectories.look_eq (h : SameDirectories s t)
    (hplace : ∀ location, s.locate p = .ok location → s.at? location = t.at? location) :
    s.look p = t.look p := by
  rw [look, look, ← h.locate_eq]
  cases hlocate : s.locate p with
  | error obstacle => cases obstacle <;> rfl
  | ok location => exact congrArg Except.ok (hplace location hlocate)

theorem SameDirectories.read_eq (h : SameDirectories s t)
    (hplace : ∀ location, s.locate p = .ok location → s.at? location = t.at? location) :
    s.read p = t.read p := by
  rw [Store.read, Store.read, ← h.locate_eq]
  cases hlocate : s.locate p with
  | error obstacle => rfl
  | ok location =>
    simp only [Except.mapError, bind, Except.bind, hplace location hlocate]

/-- Replacing a file depends on the directories and on what lies in its place. -/
theorem SameDirectories.replacement_eq (h : SameDirectories s t)
    (hplace : ∀ location, s.locate p = .ok location → s.at? location = t.at? location)
    (now : Int) (text : String) :
    s.replacement now p text = t.replacement now p text := by
  rw [replacement, replacement, h.look_eq hplace, h.locate_eq, h.locate_eq]

end MachineConfig.Store
