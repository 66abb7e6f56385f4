import MachineConfig.Proofs.Text.SplitLemmas
import MachineConfig.Setup.IgnoreFile

/-!
The lines of a list of ignored files. What `withEntries` adds are whole lines, those of the entries
that are missing (`mem_lines_withEntries`); so an entry has its effect afterwards if it had it
before, or if no line at all ends in its name (`covers_withEntries_iff`).
-/

namespace MachineConfig.Setup

variable {i j : Ignored} {text line : String}

/-- The lines of a text whose line ends are unified. -/
def lines (text : String) : List String := Text.splitAt '\n' text

theorem lines_append (s t : String) : lines (s ++ "\n" ++ t) = lines s ++ lines t :=
  Text.splitAt_append '\n' s t

theorem mem_lines_empty : line ∈ lines "" ↔ line = "" := List.mem_singleton

namespace Ignored

/-- The line ends in the name of what has to be ignored, after a slash or at its start. -/
def IsNamedBy (i : Ignored) (line : String) : Prop :=
  ∃ front, ∃ ending ∈ i.endings, line = front ++ ending ∧
    (front = "" ∨ front.toList.getLast? = some '/')

/-- The line has it ignored: it names it, and is neither a comment nor an exception. -/
structure Covers (i : Ignored) (line : String) : Prop where
  noComment : line.toList.head? ≠ some '#'
  noException : line.toList.head? ≠ some '!'
  isNamedBy : i.IsNamedBy line

theorem isCoveredBy_iff : i.isCoveredBy line ↔ i.IsNamedBy line := by
  simp only [isCoveredBy, List.any_eq_true, Bool.or_eq_true, decide_eq_true_eq,
    List.isSuffixOf_iff_suffix, String.toList_append]
  constructor
  · rintro ⟨ending, hending, rfl | ⟨front, hfront⟩⟩
    · exact ⟨"", line, hending, by simp, .inl rfl⟩
    · refine ⟨String.ofList front ++ "/", ending, hending, ?_, .inr (by simp)⟩
      rw [← String.toList_inj, ← hfront]
      simp
  · rintro ⟨front, ending, hending, rfl, rfl | hslash⟩
    · exact ⟨ending, hending, .inl (by simp)⟩
    · obtain ⟨before, hbefore⟩ := List.getLast?_eq_some_iff.1 hslash
      refine ⟨ending, hending, .inr ⟨before, ?_⟩⟩
      rw [String.toList_append, hbefore]
      simp

instance (i : Ignored) (line : String) : Decidable (i.IsNamedBy line) :=
  decidable_of_iff _ isCoveredBy_iff

instance (i : Ignored) (line : String) : Decidable (i.Covers line) :=
  decidable_of_iff (line.toList.head? ≠ some '#' ∧ line.toList.head? ≠ some '!' ∧ i.IsNamedBy line)
    ⟨fun ⟨h, h', h''⟩ => ⟨h, h', h''⟩, fun ⟨h, h', h''⟩ => ⟨h, h', h''⟩⟩

theorem IsNamedBy.ne_empty (h : i.IsNamedBy line) : line ≠ "" := by
  rintro rfl
  cases i <;> exact absurd h (by decide)

theorem covers_entry_iff : i.Covers j.entry ↔ i = j := by
  cases i <;> cases j <;> decide

theorem noNewline_entry (i : Ignored) : '\n' ∉ i.entry.toList := by
  cases i <;> decide

theorem mem_all (i : Ignored) : i ∈ all := by
  cases i <;> decide

end Ignored

open Ignored

theorem mem_uncovered_iff : i ∈ uncovered text ↔ ∀ line ∈ lines text, ¬i.IsNamedBy line := by
  simp [uncovered, lines, mem_all, ← isCoveredBy_iff]

/-- The texts of some entries, each on a line, have no other lines but an empty one. -/
theorem mem_lines_join_entries {entries : List Ignored} (hline : line ≠ "") :
    line ∈ lines (String.join (entries.map fun i => i.entry ++ "\n")) ↔
      ∃ i ∈ entries, line = i.entry := by
  induction entries with
  | nil => simp [String.join_nil, mem_lines_empty, hline]
  | cons i entries ih =>
    have hfirst : lines i.entry = [i.entry] := Text.splitAt_of_not_mem i.noNewline_entry
    rw [List.map_cons, String.join_cons, lines_append, List.mem_append, hfirst, ih]
    simp

/-- What is added at the end of a text begins on a line of its own. -/
theorem mem_lines_append (hline : line ≠ "") (added : String) :
    line ∈ lines ((if text.toList.getLast?.all (· = '\n') then text else text ++ "\n") ++ added) ↔
      line ∈ lines text ∨ line ∈ lines added := by
  have hempty : line ∉ lines "" := fun hmem => hline (mem_lines_empty.1 hmem)
  split
  · next hlast =>
    cases hend : text.toList.getLast? with
    | none =>
      obtain rfl : text = "" := by simpa using hend
      simp [hempty]
    | some c =>
      obtain ⟨front, hfront⟩ := List.getLast?_eq_some_iff.1 hend
      obtain rfl : c = '\n' := by simpa [hend] using hlast
      have htext : text = String.ofList front ++ "\n" := by
        rw [← String.toList_inj, hfront]
        simp
      have hlines : lines text = lines (String.ofList front) ++ lines "" := by
        rw [← lines_append, String.append_empty, htext]
      rw [hlines, htext, lines_append, List.mem_append, List.mem_append]
      simp [hempty]
  · rw [lines_append, List.mem_append]

/-- The lines of the text are kept, and the missing entries are added as lines. -/
theorem mem_lines_withEntries (hline : line ≠ "") :
    line ∈ lines (withEntries text) ↔
      line ∈ lines text ∨ ∃ i ∈ uncovered text, line = i.entry := by
  rw [withEntries]
  split
  · next hnone => simp [hnone]
  · rw [mem_lines_append hline, mem_lines_join_entries hline]

/-- An entry is covered afterwards if it was before, or if nothing named it. -/
theorem covers_withEntries_iff : (∃ line ∈ lines (withEntries text), i.Covers line) ↔
    (∃ line ∈ lines text, i.Covers line) ∨ ∀ line ∈ lines text, ¬i.IsNamedBy line := by
  rw [← mem_uncovered_iff]
  constructor
  · rintro ⟨line, hmem, hcovers⟩
    rcases (mem_lines_withEntries hcovers.isNamedBy.ne_empty).1 hmem with hold | ⟨j, hj, rfl⟩
    · exact .inl ⟨line, hold, hcovers⟩
    · exact .inr (covers_entry_iff.1 hcovers ▸ hj)
  · rintro (⟨line, hmem, hcovers⟩ | hmissing)
    · exact ⟨line, (mem_lines_withEntries hcovers.isNamedBy.ne_empty).2 (.inl hmem), hcovers⟩
    · have hcovers : i.Covers i.entry := covers_entry_iff.2 rfl
      exact ⟨i.entry, (mem_lines_withEntries hcovers.isNamedBy.ne_empty).2
        (.inr ⟨i, hmissing, rfl⟩), hcovers⟩

end MachineConfig.Setup
