import MachineConfig.Proofs.Store.WriteLemmas

/-!
Taking files away. Without some of its files a tree has the same directories, and what is made or
written elsewhere is made and written as before (`removeAll_put`, `makeDirectories_removeAll`).
-/

namespace MachineConfig.Store

variable {s t : Store} {now : Int} {location p directory : Path} {locations : List Path}
  {entry : Entry}

/-- The tree with nothing at these locations. -/
def removeAll (s : Store) (locations : List Path) : Store := locations.foldl remove s

/-- There is a file at each of these locations. -/
def AreFiles (s : Store) (locations : List Path) : Prop :=
  ∀ location ∈ locations, ∃ file, s.at? location = some (.file file)

@[simp] theorem removeAll_nil (s : Store) : s.removeAll [] = s := rfl

theorem at?_removeAll (h : ∀ location ∈ locations, location.names ≠ []) (other : Path) :
    (s.removeAll locations).at? other = if other ∈ locations then none else s.at? other := by
  induction locations generalizing s with
  | nil => simp
  | cons location locations ih =>
    rw [List.forall_mem_cons] at h
    change ((s.remove location).removeAll locations).at? other = _
    rw [ih h.2, at?_remove h.1]
    by_cases hother : other = location
    · simp [hother]
    · simp [hother]

theorem times_removeAll (s : Store) (locations : List Path) :
    (s.removeAll locations).times = s.times := by
  induction locations generalizing s with
  | nil => rfl
  | cons first locations ih => exact ih (s.remove first)

theorem removeAll_touchAll (s : Store) (now : Int) (directories locations : List Path) :
    (s.touchAll now directories).removeAll locations =
      (s.removeAll locations).touchAll now directories := by
  induction locations generalizing s with
  | nil => rfl
  | cons first locations ih => exact ih (s.remove first)

/-- What is put elsewhere may as well be put before. -/
theorem removeAll_put (h : location ∉ locations) :
    (s.put location entry).removeAll locations = (s.removeAll locations).put location entry := by
  induction locations generalizing s with
  | nil => rfl
  | cons first locations ih =>
    rw [List.mem_cons, not_or] at h
    change ((s.put location entry).remove first).removeAll locations = _
    rw [remove_put_of_ne h.1, ih h.2]
    rfl

theorem namesIn_remove (s : Store) (location directory : Path) :
    (s.remove location).namesIn directory =
      (s.namesIn directory).filter fun name => directory.below [name] ≠ location := by
  simp only [namesIn, remove, Table.erase, Table.filter, List.filterMap_filter,
    List.filter_filterMap]
  refine List.filterMap_congr fun e _ => ?_
  obtain ⟨p, _ | file⟩ := e
  · simp [listedName?]
  by_cases hlisted : p.names ≠ [] ∧ p.parent = directory
  · obtain ⟨hnames, rfl⟩ := hlisted
    simp [listedName?, hnames, Path.below_parent_name hnames, Option.filter_some]
  · simp [listedName?, hlisted]

/-- The files that are left in a directory. -/
theorem namesIn_removeAll (s : Store) (locations : List Path) (directory : Path) :
    (s.removeAll locations).namesIn directory =
      (s.namesIn directory).filter fun name => directory.below [name] ∉ locations := by
  induction locations generalizing s with
  | nil => simp
  | cons first locations ih =>
    refine (ih (s.remove first)).trans ?_
    rw [namesIn_remove, List.filter_filter]
    refine List.filter_congr fun name _ => ?_
    simp [Bool.and_comm]

namespace AreFiles

theorem names_ne_nil (h : s.AreFiles locations) : ∀ location ∈ locations, location.names ≠ [] := by
  intro location hlocation
  obtain ⟨file, hfile⟩ := h location hlocation
  exact names_ne_nil_of_at?_eq_file hfile

theorem not_mem (h : s.AreFiles locations) (hentry : ∀ file, s.at? location ≠ some (.file file)) :
    location ∉ locations := by
  intro hlocation
  obtain ⟨file, hfile⟩ := h location hlocation
  exact hentry file hfile

theorem of_extends (h : s.AreFiles locations) (hextends : Extends s t) : t.AreFiles locations := by
  intro location hlocation
  obtain ⟨file, hfile⟩ := h location hlocation
  exact ⟨file, hextends.at?_eq hfile⟩

theorem at?_removeAll_of_not_file (h : s.AreFiles locations)
    (hentry : ∀ file, s.at? location ≠ some (.file file)) :
    (s.removeAll locations).at? location = s.at? location := by
  rw [at?_removeAll h.names_ne_nil, if_neg (h.not_mem hentry)]

theorem sameDirectories (h : s.AreFiles locations) : SameDirectories s (s.removeAll locations) := by
  constructor
  · clear h
    induction locations generalizing s with
    | nil => rfl
    | cons first locations ih => exact ih (s := s.remove first)
  · intro location
    rw [at?_removeAll h.names_ne_nil]
    split
    · next hlocation =>
      obtain ⟨file, hfile⟩ := h location hlocation
      simp [hfile]
    · rfl

theorem isTree (h : s.AreFiles locations) (hs : s.IsTree) : (s.removeAll locations).IsTree := by
  constructor
  · intro location file hfile
    rw [at?_removeAll h.names_ne_nil] at hfile
    split at hfile
    · cases hfile
    · exact hs.isName hfile
  · intro location hlocation
    rw [at?_removeAll h.names_ne_nil] at hlocation
    split at hlocation
    · exact (hlocation rfl).elim
    · exact (h.sameDirectories.directory _).1 (hs.parent hlocation)

/-- A directory that can be made can be made without these files too. -/
theorem makeDirectory_removeAll (h : s.AreFiles locations)
    (hmade : s.makeDirectory now p = (t, .ok ())) :
    (s.removeAll locations).makeDirectory now p = (t.removeAll locations, .ok ()) := by
  rw [makeDirectory] at hmade ⊢
  rw [← h.sameDirectories.locate_eq]
  cases hlocate : s.locate p with
  | error obstacle => simp [hlocate] at hmade
  | ok location =>
    simp only [hlocate] at hmade ⊢
    rcases hentry : s.at? location with _ | _ | file
    · rw [h.at?_removeAll_of_not_file (by simp [hentry]), hentry]
      simp only [hentry] at hmade ⊢
      split at hmade
      · next hcreation =>
        obtain ⟨rfl, -⟩ := Prod.mk.inj hmade
        have hkept : location ∉ locations := h.not_mem (by simp [hentry])
        simp only [if_pos hcreation, create, touch_eq_touchAll, removeAll_touchAll,
          removeAll_put hkept]
      · simp at hmade
    · rw [h.at?_removeAll_of_not_file (by simp [hentry]), hentry]
      simp only [hentry] at hmade
      obtain ⟨rfl, -⟩ := Prod.mk.inj hmade
      rfl
    · simp [hentry] at hmade

theorem makeDirectoriesFrom_removeAll {done : Path} {names : List String}
    (h : s.AreFiles locations) (hmade : s.makeDirectoriesFrom now done names = (t, .ok ())) :
    (s.removeAll locations).makeDirectoriesFrom now done names =
      (t.removeAll locations, .ok ()) := by
  induction names generalizing s done with
  | nil =>
    obtain ⟨rfl, -⟩ := Prod.mk.inj hmade
    rfl
  | cons name names ih =>
    rw [makeDirectoriesFrom_cons] at hmade ⊢
    split at hmade
    · next next hfirst =>
      have hextends := makeDirectory_extends s now (done.below [name])
      rw [hfirst] at hextends
      rw [h.makeDirectory_removeAll hfirst]
      exact ih (h.of_extends hextends) hmade
    · simp at hmade

theorem makeDirectories_removeAll (h : s.AreFiles locations)
    (hmade : s.makeDirectories now p = (t, .ok ())) :
    (s.removeAll locations).makeDirectories now p = (t.removeAll locations, .ok ()) := by
  rw [makeDirectories] at hmade ⊢
  split at hmade
  · simp at hmade
  · exact h.makeDirectoriesFrom_removeAll hmade

end AreFiles

end MachineConfig.Store
