import MachineConfig.Proofs.Text.EditScriptLemmas
import MachineConfig.Proofs.Text.EncodingLemmas
import MachineConfig.Text.UnifiedDiff

/-!
A unified diff is empty exactly if both lists of lines are the same (`unifiedDiff_eq_nil_iff`):
every change of an edit script is shown in a hunk, and from a list to itself there is none.
-/

namespace MachineConfig.Text

variable {s : Segment String} {segments : List (Segment String)} {old new : List String}

namespace Hunk

theorem collect_ne_nil {h : Hunk} {before : Nat × Nat}
    (hchange : (h.segments ++ segments).any Segment.isChange) : collect h before segments ≠ [] := by
  induction segments generalizing h before with
  | nil =>
    rw [List.append_nil] at hchange
    rw [collect, if_pos hchange]
    exact List.cons_ne_nil _ _
  | cons s segments ih =>
    have hpush : ({ h with segments := h.segments ++ [s] }.segments ++ segments).any
        Segment.isChange := by
      simpa using hchange
    cases s with
    | change removed added => exact ih hpush
    | same lines =>
      rw [collect]
      split
      · exact List.cons_ne_nil _ _
      · exact ih hpush

theorem any_isChange_shortenLast (segments : List (Segment String)) :
    (shortenLast segments).any Segment.isChange = segments.any Segment.isChange := by
  fun_induction shortenLast segments with
  | case1 => rfl
  | case2 lines => rfl
  | case3 s rest _ ih => rw [List.any_cons, List.any_cons, ih]

theorem ofScript_ne_nil (hchange : segments.any Segment.isChange) : ofScript segments ≠ [] := by
  rw [ofScript.eq_def]
  split
  · next lines rest =>
    refine collect_ne_nil ?_
    rwa [List.nil_append, any_isChange_shortenLast]
  · refine collect_ne_nil ?_
    rwa [List.nil_append, any_isChange_shortenLast]

theorem ofScript_self (items : List String) : ofScript (script items items) = [] := by
  rw [script_self]
  split
  · rfl
  · have hshort : ¬2 * contextLength < ((items.drop (items.length - contextLength)).take
        contextLength).length :=
      Nat.not_lt.2 ((List.length_take_le _ _).trans (by decide))
    simp only [ofScript, shortenLast, collect, if_neg hshort]
    rfl

end Hunk

theorem old_eq_new_of_not_isChange (h : s.isChange = false) : s.old = s.new := by
  cases s with
  | same items => rfl
  | change removed added => cases h

/-- The lines of a text make up the text. -/
theorem flatten_lines (cs : List Char) : (lines cs).flatten = cs := by
  fun_induction lines cs with
  | case1 => rfl
  | case2 cs ih => rw [List.flatten_cons, ih]; rfl
  | case3 c cs _ _ ih => rw [List.flatten_cons, ih]; rfl
  | case4 c cs _ _ hlines ih => rw [← ih, hlines]; rfl
  | case5 c cs _ _ line rest hlines ih => rw [← ih, hlines]; rfl

theorem lines_inj {cs ds : List Char} : lines cs = lines ds ↔ cs = ds :=
  ⟨fun h => by rw [← flatten_lines cs, h, flatten_lines], fun h => h ▸ rfl⟩

/-- A diff is empty if and only if the lines are the same. -/
theorem unifiedDiff_eq_nil_iff (oldName newName : String) (old new : List String) :
    unifiedDiff oldName newName old new = [] ↔ old = new := by
  constructor
  · intro h
    have hhunks : Hunk.ofScript (script old new) = [] := by
      rw [unifiedDiff] at h
      split at h
      · assumption
      · cases h
    have hsame : ∀ s ∈ script old new, s.isChange = false := by
      simpa using fun hchange => Hunk.ofScript_ne_nil hchange hhunks
    calc old = (script old new).flatMap Segment.old := (flatMap_old_script old new).symm
      _ = (script old new).flatMap Segment.new :=
        List.flatMap_congr fun s hs => old_eq_new_of_not_isChange (hsame s hs)
      _ = new := flatMap_new_script old new
  · rintro rfl
    rw [unifiedDiff, Hunk.ofScript_self]

end MachineConfig.Text
