import MachineConfig.Proofs.Store.TreeLemmas

/-!
Reading files. The text at a path is that of the file that the path leads to
(`readText_eq_ok_iff`).
-/

namespace MachineConfig

/-- The text of a file, if it can be read. -/
def RegularFile.text? (f : RegularFile) : Except HostFault String :=
  if f.isReadable then (Text.readText? f.content).elim (.error .undecodable) .ok
  else .error .inaccessible

theorem RegularFile.text?_eq_ok_iff {f : RegularFile} {text : String} :
    f.text? = .ok text ↔ f.isReadable ∧ Text.readText? f.content = some text := by
  rw [text?]
  split
  · next hreadable =>
    cases Text.readText? f.content <;> simp [hreadable]
  · next hreadable => simp [hreadable]

namespace Store

variable {s : Store} {location p : Path} {file : RegularFile} {text : String}

theorem readText_of_locate (hlocate : s.locate p = .ok location)
    (hentry : s.at? location = some (.file file)) : s.readText p = file.text? := by
  rw [readText, Store.read, hlocate, RegularFile.text?]
  simp only [Except.mapError, bind, Except.bind, hentry]
  by_cases hreadable : file.isReadable
  · simp only [if_pos hreadable, pure, Except.pure]
    cases Text.readText? file.content <;> rfl
  · simp only [if_neg hreadable]
    rfl

/-- Only files can be read. -/
theorem readText_eq_ok_iff : s.readText p = .ok text ↔
    ∃ file, s.regularFile? p = some file ∧ file.text? = .ok text := by
  constructor
  · intro h
    cases hlocate : s.locate p with
    | error obstacle =>
      rw [readText, Store.read, hlocate] at h
      cases h
    | ok location =>
      rcases hentry : s.at? location with _ | (_ | file)
      · simp [readText, Store.read, hlocate, hentry, Except.mapError, bind, Except.bind, throw,
          throwThe, MonadExceptOf.throw] at h
      · simp [readText, Store.read, hlocate, hentry, Except.mapError, bind, Except.bind, throw,
          throwThe, MonadExceptOf.throw] at h
      · rw [readText_of_locate hlocate hentry] at h
        exact ⟨file, regularFile?_eq_some_iff.2 ⟨location, hlocate, hentry⟩, h⟩
  · rintro ⟨file, hfile, htext⟩
    obtain ⟨location, hlocate, hentry⟩ := regularFile?_eq_some_iff.1 hfile
    rw [readText_of_locate hlocate hentry, htext]

end Store

end MachineConfig
