import MachineConfig.Proofs.Setup.Coverage

/-!
Adding to the list of ignored files. What is added are lines behind those that the list has, whether
or not the last of them is ended (`wholeLines_withLines`): one for each entry that no line names
(`withEntries_eq`). Afterwards each entry is named by a line (`uncovered_withEntries`), so bringing
the list up to date once more changes nothing (`ensureIgnored_appends`).
-/

namespace MachineConfig.Setup

open Store Ignored

/-! ## Lines behind those of a text -/

section lines

variable {text other : String} {added : List String}

/-- The text has no line that is not ended. -/
def IsEnded (text : String) : Prop := text = "" ∨ text.toList.getLast? = some '\n'

instance (text : String) : Decidable (IsEnded text) :=
  inferInstanceAs (Decidable (text = "" ∨ text.toList.getLast? = some '\n'))

/-- The text with its last line ended. -/
def ended (text : String) : String := if IsEnded text then text else text ++ "\n"

/-- The lines of a text, whether or not the last one is ended. -/
def wholeLines (text : String) : List String :=
  if IsEnded text then (lines text).dropLast else lines text

/-- The text with these lines behind its own. -/
def withLines (text : String) (added : List String) : String :=
  if added = [] then text else ended text ++ String.join (added.map (· ++ "\n"))

theorem IsEnded.append (h : IsEnded text) (hother : IsEnded other) : IsEnded (text ++ other) := by
  obtain rfl | hlast := hother
  · rwa [String.append_empty]
  · refine .inr ?_
    rw [String.toList_append, List.getLast?_append, hlast, Option.some_or]

theorem isEnded_ended (text : String) : IsEnded (ended text) := by
  rw [ended]
  split
  · assumption
  · exact .inr (by simp)

theorem isEnded_join (added : List String) : IsEnded (String.join (added.map (· ++ "\n"))) := by
  induction added with
  | nil => exact .inl rfl
  | cons line added ih =>
    rw [List.map_cons, String.join_cons]
    exact IsEnded.append (.inr (by simp)) ih

theorem lines_join (h : ∀ line ∈ added, '\n' ∉ line.toList) :
    lines (String.join (added.map (· ++ "\n"))) = added ++ [""] := by
  induction added with
  | nil => rfl
  | cons line added ih =>
    rw [List.forall_mem_cons] at h
    have hfirst : lines line = [line] := Text.splitAt_of_not_mem h.1
    rw [List.map_cons, String.join_cons, lines_append, hfirst, ih h.2, List.singleton_append,
      List.cons_append]

/-- What stands behind a text whose last line is ended begins a line of its own. -/
theorem lines_ended_append (text other : String) :
    lines (ended text ++ other) = wholeLines text ++ lines other := by
  rw [ended, wholeLines]
  by_cases hended : IsEnded text
  · rw [if_pos hended, if_pos hended]
    obtain rfl | hlast := hended
    · rw [String.empty_append]
      rfl
    · obtain ⟨front, hfront⟩ := List.getLast?_eq_some_iff.1 hlast
      obtain rfl : text = String.ofList front ++ "\n" := by
        rw [← String.toList_inj, hfront]
        simp
      have hlines : lines (String.ofList front ++ "\n") = lines (String.ofList front) ++ [""] := by
        rw [← String.append_empty (s := String.ofList front ++ "\n"), lines_append]
        rfl
      rw [lines_append, hlines, List.dropLast_concat]
  · rw [if_neg hended, if_neg hended, lines_append]

theorem wholeLines_withLines (h : ∀ line ∈ added, '\n' ∉ line.toList) :
    wholeLines (withLines text added) = wholeLines text ++ added := by
  rw [withLines]
  split
  · next hnone => rw [hnone, List.append_nil]
  · rw [wholeLines, if_pos ((isEnded_ended text).append (isEnded_join added)), lines_ended_append,
      lines_join h, ← List.append_assoc, List.dropLast_concat]

end lines

variable {s t made : Store} {l : Layout} {text : String} {now : Int} {file : RegularFile}

/-! ## The entries -/

/-- The entries that no line of a text names, in order. -/
def missing (text : String) : List Ignored :=
  Ignored.all.filter fun i => ∀ line ∈ lines text, ¬i.IsNamedBy line

theorem uncovered_eq_missing (text : String) : uncovered text = missing text := by
  refine List.filter_congr fun i _ => ?_
  rw [Bool.eq_iff_iff, decide_eq_true_eq, Bool.not_eq_true', List.any_eq_false]
  simp only [isCoveredBy_iff]
  rfl

theorem withEntries_eq (text : String) :
    withEntries text = withLines text ((missing text).map entry) := by
  have hended : text.toList.getLast?.all (· = '\n') ↔ IsEnded text := by
    rw [IsEnded, ← String.toList_eq_nil_iff]
    cases hlast : text.toList.getLast? with
    | none => simpa using hlast
    | some c =>
      have hne : text.toList ≠ [] := fun hnil => by simp [hnil] at hlast
      simp [hne]
  rw [withEntries, withLines, uncovered_eq_missing]
  cases missing text with
  | nil => rfl
  | cons i more =>
    have hne : (i :: more).map entry ≠ [] := List.cons_ne_nil _ _
    rw [if_neg hne, ended, List.map_map]
    simp only [hended]
    rfl

theorem uncovered_withEntries (text : String) : uncovered (withEntries text) = [] := by
  refine List.eq_nil_iff_forall_not_mem.2 fun i hi => ?_
  rw [mem_uncovered_iff] at hi
  have hnone (line : String) (hnamed : i.IsNamedBy line)
      (hmem : line ∈ lines text ∨ ∃ j ∈ uncovered text, line = j.entry) : False :=
    hi line ((mem_lines_withEntries hnamed.ne_empty).2 hmem) hnamed
  have hentry : i.IsNamedBy i.entry := (covers_entry_iff.2 rfl : i.Covers i.entry).isNamedBy
  refine hnone i.entry hentry (.inr ⟨i, mem_uncovered_iff.2 fun line hline hnamed => ?_, rfl⟩)
  exact hnone line hnamed (.inl hline)

/-! ## The list in the file tree -/

/-- A file that is written in place keeps its permissions. -/
theorem mode_of_overwriteBytes {p : Path} {content : ByteArray}
    (hrun : s.overwriteBytes now p content = (t, .ok ())) (hfile : t.regularFile? p = some file) :
    file.mode = ((s.regularFile? p).map (·.mode)).getD 0o644 := by
  rw [overwriteBytes] at hrun
  cases hlocate : s.locate p with
  | error obstacle => simp [hlocate] at hrun
  | ok location =>
    rw [regularFile?, entry?_eq_of_locate hlocate]
    rcases hentry : s.at? location with _ | _ | old <;> simp only [hlocate, hentry] at hrun
    · split at hrun
      · obtain ⟨rfl, -⟩ := Prod.mk.inj hrun
        have hput := regularFile?_put hlocate (by simp [hentry]) ⟨content, 0o644, now⟩
        obtain rfl := Option.some.inj (hput.symm.trans hfile)
        rfl
      · cases (Prod.mk.inj hrun).2
    · cases (Prod.mk.inj hrun).2
    · split at hrun
      · obtain ⟨rfl, -⟩ := Prod.mk.inj hrun
        rw [regularFile?_put hlocate (by simp [hentry]), Option.some_inj] at hfile
        rw [← hfile]
        rfl
      · cases (Prod.mk.inj hrun).2

/-- The list can be read if it is there once its directory has been made. (A path with `..` can lead
to a list only then.) -/
def IsReadableOnceMade (s : Store) (l : Layout) : Prop :=
  ∀ now made old, s.makeDirectories now l.ignoreFile.parent = (made, .ok ()) →
    made.regularFile? l.ignoreFile = some old → old.isReadable

theorem isReadableOnceMade_of_regularFile? (h : s.regularFile? l.ignoreFile = some file)
    (hreadable : file.isReadable) : IsReadableOnceMade s l := by
  intro now made old hmade hold
  have hextends := makeDirectories_extends s now l.ignoreFile.parent
  rw [hmade] at hextends
  obtain rfl : file = old := Option.some.inj ((hextends.regularFile?_eq h).symm.trans hold)
  exact hreadable

theorem listed_of_regularFile? (h : s.regularFile? l.ignoreFile = some file) :
    listed s l = file.text? := by
  obtain ⟨location, hlocate, hentry⟩ := regularFile?_eq_some_iff.1 h
  have hthere : s.contains l.ignoreFile = .ok true := by
    rw [Store.contains, look_of_locate hlocate, hentry]
    rfl
  rw [listed, hthere]
  exact readText_of_locate hlocate hentry

/-- Where no entry is missing, nothing is done. -/
theorem ensureIgnored_of_uncovered_eq_nil (hfile : s.regularFile? l.ignoreFile = some file)
    (htext : Text.readText? file.content = some text) (hnone : uncovered text = []) (now : Int) :
    ensureIgnored s now l = (s, if file.isReadable then .ok () else .error .inaccessible) := by
  rw [ensureIgnored_eq, listed_of_regularFile? hfile, RegularFile.text?, htext, Option.elim_some]
  by_cases hreadable : file.isReadable
  · simp [if_pos hreadable, hnone]
  · simp [if_neg hreadable]

/-- The list that is written in place of one that can be read, or of none, can be read. -/
theorem isReadable_of_ensureIgnored (h : IsReadableOnceMade s l)
    (hrun : ensureIgnored s now l = (t, .ok ())) (hfile : t.regularFile? l.ignoreFile = some file) :
    file.isReadable := by
  rw [ensureIgnored_eq] at hrun
  cases hlisted : listed s l with
  | error fault => simp [hlisted] at hrun
  | ok text =>
    simp only [hlisted] at hrun
    split at hrun
    · obtain ⟨rfl, -⟩ := Prod.mk.inj hrun
      rw [listed_of_regularFile? hfile, RegularFile.text?_eq_ok_iff] at hlisted
      exact hlisted.1
    split at hrun
    · cases (Prod.mk.inj hrun).2
    next made hmade =>
    have hmode := mode_of_overwriteBytes hrun hfile
    rw [RegularFile.isReadable, hmode]
    cases hold : made.regularFile? l.ignoreFile with
    | none => decide
    | some old => exact h now made old hmade hold

/-- Bringing the list of ignored files up to date only adds to it. It succeeds wherever the list may
be written; the list is then what it was, or has behind its lines one more for each entry that none
of them names; and bringing it up to date once more changes nothing. -/
theorem ensureIgnored_appends (hlisted : listed s l = .ok text) (now : Int) :
    (∀ made, s.makeDirectories now l.ignoreFile.parent = (made, .ok ()) →
      made.IsOverwritable l.ignoreFile → ∃ t, ensureIgnored s now l = (t, .ok ())) ∧
    ∀ t, ensureIgnored s now l = (t, .ok ()) →
      let entries := (missing text).map entry
      (entries = [] → t = s) ∧
      (∃ file, t.regularFile? l.ignoreFile = some file ∧
        Text.readText? file.content = some (withLines text entries)) ∧
      wholeLines (withLines text entries) = wholeLines text ++ entries ∧
      ∀ later, (ensureIgnored t later l).1 = t ∧
        (IsReadableOnceMade s l → (ensureIgnored t later l).2 = .ok ()) := by
  refine ⟨fun made hmade hplace => exists_ensureIgnored_eq_ok hlisted hmade hplace,
    fun t hrun => ⟨fun hnone => ?_, ?_, ?_, fun later => ?_⟩⟩
  · rw [List.map_eq_nil_iff, ← uncovered_eq_missing] at hnone
    rw [ensureIgnored_eq, hlisted] at hrun
    simp only [hnone, List.isEmpty_nil, if_true] at hrun
    exact (Prod.mk.inj hrun).1.symm
  · rw [← withEntries_eq]
    exact readText?_of_ensureIgnored hlisted hrun
  · refine wholeLines_withLines fun line hline => ?_
    obtain ⟨i, -, rfl⟩ := List.mem_map.1 hline
    exact i.noNewline_entry
  · obtain ⟨file, hfile, htext⟩ := readText?_of_ensureIgnored hlisted hrun
    rw [ensureIgnored_of_uncovered_eq_nil hfile htext (uncovered_withEntries text)]
    exact ⟨rfl, fun hreadable => if_pos (isReadable_of_ensureIgnored hreadable hrun hfile)⟩

/-- A list whose last line is not ended and names one of the entries. -/
theorem ensureIgnored_appends_unended :
    let l : Layout := { root := ⟨.relative, ["root"]⟩ }
    let text := "build\n/generated"
    let file : RegularFile := ⟨text.toUTF8, 0o640, 1⟩
    let s : Store :=
      { entries := .ofList [(⟨.relative, ["root"]⟩, .directory),
          (⟨.relative, ["root", ".gitignore"]⟩, .file file)] }
    listed s l = .ok text ∧ ∃ t, ensureIgnored s 2 l = (t, .ok ()) ∧
      (∃ file, t.regularFile? l.ignoreFile = some file ∧
        Text.readText? file.content =
          some "build\n/generated\ntemplates/_variables.local.yaml\n") ∧
      ensureIgnored t 3 l = (t, .ok ()) := by
  intro l text file s
  have hlisted : listed s l = .ok text := by decide +kernel
  have hfile : s.regularFile? l.ignoreFile = some file := by decide +kernel
  obtain ⟨hends, happends⟩ := ensureIgnored_appends hlisted 2
  obtain ⟨t, hrun⟩ := hends s (by decide +kernel) (isOverwritable_of_regularFile? hfile (by decide))
  obtain ⟨-, hwritten, -, hagain⟩ := happends t hrun
  have hreadable : IsReadableOnceMade s l := isReadableOnceMade_of_regularFile? hfile (by decide)
  have hentries : withLines text ((missing text).map entry) =
      "build\n/generated\ntemplates/_variables.local.yaml\n" := by decide
  exact ⟨hlisted, t, hrun, hentries ▸ hwritten, Prod.ext (hagain 3).1 ((hagain 3).2 hreadable)⟩

end MachineConfig.Setup
