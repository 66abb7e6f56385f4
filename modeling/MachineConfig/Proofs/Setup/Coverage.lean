import MachineConfig.Proofs.Setup.EntryLemmas
import MachineConfig.Proofs.Setup.FileLemmas
import MachineConfig.Proofs.Text.EncodingLemmas

/-!
Whether the list of ignored files covers its entries in the end. The list holds the lines that it
had and, for each entry that none of them names, a line that covers it (`ensureIgnored_covers`). A
comment or an exception that names an entry is taken for one that covers it, so that the entry stays
uncovered.
-/

namespace MachineConfig

/-- The path leads to a file that may be written, or to a place where one can be made. -/
def Store.IsOverwritable (s : Store) (p : Path) : Prop :=
  ∃ location, s.locate p = .ok location ∧
    match s.at? location with
    | some .directory => False
    | some (.file old) => old.isWritable
    | none => allowsCreation location

theorem Store.IsOverwritable.exists_overwriteBytes {s : Store} {p : Path} (h : s.IsOverwritable p)
    (now : Int) (content : ByteArray) : ∃ t, s.overwriteBytes now p content = (t, .ok ()) := by
  obtain ⟨location, hlocate, hplace⟩ := h
  rw [overwriteBytes, hlocate]
  rcases hentry : s.at? location with _ | _ | old <;> rw [hentry] at hplace <;> simp only [hentry]
  · exact ⟨_, if_pos hplace⟩
  · exact hplace.elim
  · exact ⟨_, if_pos hplace⟩

theorem Store.isOverwritable_of_regularFile? {s : Store} {p : Path} {file : RegularFile}
    (h : s.regularFile? p = some file) (hwritable : file.isWritable) : s.IsOverwritable p := by
  obtain ⟨location, hlocate, hentry⟩ := regularFile?_eq_some_iff.1 h
  exact ⟨location, hlocate, by rwa [hentry]⟩

namespace Setup

open Store Ignored

variable {s t : Store} {l : Layout} {text : String} {now : Int}

theorem noReturn_withEntries (h : '\r' ∉ text.toList) : '\r' ∉ (withEntries text).toList := by
  have hentries (missing : List Ignored) :
      '\r' ∉ (String.join (missing.map fun i => i.entry ++ "\n")).toList := by
    have hentry : ∀ i : Ignored, '\r' ∉ (i.entry ++ "\n").toList := by
      intro i
      cases i <;> decide
    rw [String.toList_join, List.mem_flatMap]
    rintro ⟨added, hadded, hmem⟩
    obtain ⟨i, -, rfl⟩ := List.mem_map.1 hadded
    exact hentry i hmem
  rw [withEntries]
  split
  · exact h
  · rw [String.toList_append, List.mem_append, not_or]
    refine ⟨?_, hentries _⟩
    split
    · exact h
    · simpa using h

theorem isEncodable_withEntries (h : Text.isEncodable text) :
    Text.isEncodable (withEntries text) := by
  have hentries (missing : List Ignored) :
      Text.isEncodable (String.join (missing.map fun i => i.entry ++ "\n")) := by
    have hentry : (missing.map entry).all Text.isEncodable := by
      rw [List.all_map, List.all_eq_true]
      intro i _
      cases i <;> decide
    have hjoin := isEncodable_join hentry
    rwa [List.map_map] at hjoin
  rw [withEntries]
  split
  · exact h
  dsimp only
  split
  · next hended =>
    have hlast : ∀ c ∈ text.toList.getLast?, Text.isLead c = false := by
      intro c hc
      rw [Option.mem_def.1 hc, Option.all_some, decide_eq_true_iff] at hended
      rw [hended]
      rfl
    rw [Text.isEncodable_append (.inl hlast), h, hentries]
    rfl
  · rw [Text.isEncodable_append_newline, h, hentries]
    rfl

/-- What has been read of the list can be written again as it is. -/
theorem isEncodable_of_listed (h : listed s l = .ok text) :
    Text.isEncodable text ∧ '\r' ∉ text.toList := by
  obtain ⟨-, hread⟩ | ⟨-, rfl⟩ := listed_eq_ok_iff.1 h
  · obtain ⟨file, -, htext⟩ := readText_eq_ok_iff.1 hread
    have hcontent := (RegularFile.text?_eq_ok_iff.1 htext).2
    exact ⟨Text.isEncodable_of_readText? hcontent, Text.noReturn_of_readText? hcontent⟩
  · exact ⟨rfl, List.not_mem_nil⟩

theorem exists_ensureIgnored_eq_ok {made : Store} (hlisted : listed s l = .ok text)
    (hmade : s.makeDirectories now l.ignoreFile.parent = (made, .ok ()))
    (hplace : made.IsOverwritable l.ignoreFile) : ∃ t, ensureIgnored s now l = (t, .ok ()) := by
  rw [ensureIgnored_eq, hlisted]
  dsimp only
  split
  · exact ⟨s, rfl⟩
  · rw [hmade]
    exact hplace.exists_overwriteBytes now _

/-- What the list says in the end. -/
theorem readText?_of_ensureIgnored (hlisted : listed s l = .ok text)
    (h : ensureIgnored s now l = (t, .ok ())) :
    ∃ file, t.regularFile? l.ignoreFile = some file ∧
      Text.readText? file.content = some (withEntries text) := by
  obtain ⟨made, fault, -, hrun⟩ | ⟨said, hsaid, hnone, hrun⟩ |
    ⟨said, made, location, file, directories, hsaid, hmissing, hextends, hlocate, hplace, hcontent,
      hrun⟩ :=
    ensureIgnored_cases s now l
  · cases (Prod.mk.inj (h.symm.trans hrun)).2
  · obtain rfl : said = text := Except.ok.inj (hsaid.symm.trans hlisted)
    obtain ⟨rfl, -⟩ := Prod.mk.inj (h.symm.trans hrun)
    obtain ⟨-, hread⟩ | ⟨-, rfl⟩ := listed_eq_ok_iff.1 hlisted
    · obtain ⟨file, hfile, htext⟩ := readText_eq_ok_iff.1 hread
      rw [withEntries, hnone]
      exact ⟨file, hfile, (RegularFile.text?_eq_ok_iff.1 htext).2⟩
    · exact absurd hnone (by decide)
  · obtain rfl : said = text := Except.ok.inj (hsaid.symm.trans hlisted)
    obtain ⟨rfl, -⟩ := Prod.mk.inj (h.symm.trans hrun)
    refine ⟨file, regularFile?_put hlocate hplace file, ?_⟩
    obtain ⟨hencodable, hreturn⟩ := isEncodable_of_listed hlisted
    rw [hcontent]
    exact Text.readText?_utf8 (isEncodable_withEntries hencodable) (noReturn_withEntries hreturn)

/-- Bringing the list of ignored files up to date. It succeeds wherever the list may be written; it
changes no other file; and in the end the list covers an entry if it covered it before, or if no
line named it: not if only comments or exceptions did. -/
theorem ensureIgnored_covers (hlisted : listed s l = .ok text) (now : Int) :
    (∀ made, s.makeDirectories now l.ignoreFile.parent = (made, .ok ()) →
      made.IsOverwritable l.ignoreFile → ∃ t, ensureIgnored s now l = (t, .ok ())) ∧
    ∀ t, ensureIgnored s now l = (t, .ok ()) →
      Writes (LeadsTo l.ignoreFile) s t ∧
      ∃ file, t.regularFile? l.ignoreFile = some file ∧
        Text.readText? file.content = some (withEntries text) ∧
        ∀ i : Ignored, (∃ line ∈ lines (withEntries text), i.Covers line) ↔
          (∃ line ∈ lines text, i.Covers line) ∨ ∀ line ∈ lines text, ¬i.IsNamedBy line := by
  refine ⟨fun made hmade hplace => exists_ensureIgnored_eq_ok hlisted hmade hplace,
    fun t hrun => ⟨?_, ?_⟩⟩
  · have hwrites := ensureIgnored_writes s now l
    rwa [hrun] at hwrites
  · obtain ⟨file, hfile, htext⟩ := readText?_of_ensureIgnored hlisted hrun
    exact ⟨file, hfile, htext, fun i => covers_withEntries_iff⟩

/-- A list whose last line is not ended, and in which an exception names an entry. -/
theorem ensureIgnored_covers_exception :
    let l : Layout := { root := ⟨.relative, ["root"]⟩ }
    let text := "!/generated\nbuild"
    let file : RegularFile := ⟨text.toUTF8, 0o640, 1⟩
    let s : Store :=
      { entries := .ofList [(⟨.relative, ["root"]⟩, .directory),
          (⟨.relative, ["root", ".gitignore"]⟩, .file file)] }
    listed s l = .ok text ∧ ∃ t, ensureIgnored s 2 l = (t, .ok ()) ∧
      ∃ file, t.regularFile? l.ignoreFile = some file ∧
        Text.readText? file.content = some (text ++ "\ntemplates/_variables.local.yaml\n") ∧
        (∃ line ∈ lines (withEntries text), Covers .localFile line) ∧
        ¬∃ line ∈ lines (withEntries text), Covers .generatedDir line := by
  intro l text file s
  have hlisted : listed s l = .ok text := by decide +kernel
  have hfile : s.regularFile? l.ignoreFile = some file := by decide +kernel
  obtain ⟨hends, hcovers⟩ := ensureIgnored_covers hlisted 2
  obtain ⟨t, hrun⟩ := hends s (by decide +kernel) (isOverwritable_of_regularFile? hfile (by decide))
  obtain ⟨-, written, hwritten, htext, hcovered⟩ := hcovers t hrun
  have hentries : withEntries text = text ++ "\ntemplates/_variables.local.yaml\n" := by decide
  refine ⟨hlisted, t, hrun, written, hwritten, hentries ▸ htext,
    (hcovered .localFile).2 (.inr (by decide)), ?_⟩
  rw [hcovered .generatedDir]
  decide

/-- A comment is taken for a line that covers the local variables file. -/
theorem ensureIgnored_comment :
    let l : Layout := { root := ⟨.relative, ["root"]⟩ }
    let text := "# templates/_variables.local.yaml\n"
    let s : Store :=
      { entries := .ofList [(⟨.relative, ["root"]⟩, .directory),
          (⟨.relative, ["root", ".gitignore"]⟩, .file ⟨text.toUTF8, 0o644, 1⟩)] }
    (ensureIgnored s 2 l).2 = .ok () ∧
      ((ensureIgnored s 2 l).1.regularFile? l.ignoreFile).map (·.content) =
        some (text ++ "generated/\n").toUTF8 ∧
      ∀ line ∈ lines (text ++ "generated/\n"), ¬Covers .localFile line := by
  intro l text s
  exact ⟨by decide +kernel, by decide +kernel, by decide⟩

end Setup

end MachineConfig
