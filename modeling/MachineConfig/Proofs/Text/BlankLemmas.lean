import MachineConfig.Text.Blank
import Mathlib.Data.List.TakeWhile

/-!
Trimming: blanks around a text count for nothing (`trim_append_append`), and a text that neither
starts nor ends with one stays as it is.
-/

namespace MachineConfig.Text

theorem dropWhile_isBlank_of_forall {cs : List Char} (h : ∀ c ∈ cs, isBlank c = false) :
    cs.dropWhile isBlank = cs := by
  cases cs with
  | nil => rfl
  | cons c cs => rw [List.dropWhile_cons_of_neg (by simp [h c])]

theorem trimEnd_of_forall {cs : List Char} (h : ∀ c ∈ cs, isBlank c = false) :
    trimEnd cs = cs := by
  have hreverse : ∀ c ∈ cs.reverse, isBlank c = false := by simpa using h
  rw [trimEnd, dropWhile_isBlank_of_forall hreverse, List.reverse_reverse]

theorem trim_of_forall {cs : List Char} (h : ∀ c ∈ cs, isBlank c = false) : trim cs = cs := by
  rw [trim, dropWhile_isBlank_of_forall h, trimEnd_of_forall h]

theorem trimEnd_append {cs after : List Char} (h : ∀ c ∈ after, isBlank c) :
    trimEnd (cs ++ after) = trimEnd cs := by
  have hreverse : ∀ c ∈ after.reverse, isBlank c := by simpa using h
  rw [trimEnd, List.reverse_append, List.dropWhile_append_of_pos hreverse, ← trimEnd]

theorem trim_append_append {before cs after : List Char} (hbefore : ∀ c ∈ before, isBlank c)
    (hafter : ∀ c ∈ after, isBlank c) : trim (before ++ cs ++ after) = trim cs := by
  rw [trim, List.append_assoc, List.dropWhile_append_of_pos hbefore, List.dropWhile_append]
  cases hfront : (cs.dropWhile isBlank).isEmpty with
  | false => exact trimEnd_append hafter
  | true =>
    have hblank : after.dropWhile isBlank = [] := List.dropWhile_eq_nil_iff.2 hafter
    rw [if_pos rfl, hblank, trim, List.isEmpty_iff.1 hfront]

theorem trimEnd_append_singleton {cs : List Char} {c : Char} (h : isBlank c = false) :
    trimEnd (cs ++ [c]) = cs ++ [c] := by
  rw [trimEnd, List.reverse_append, List.reverse_singleton, List.singleton_append,
    List.dropWhile_cons_of_neg (by simp [h]), List.reverse_cons, List.reverse_reverse]

/-- A text between two characters that are not blank. -/
theorem trim_cons_append_of_not_isBlank {cs : List Char} {c d : Char} (hc : isBlank c = false)
    (hd : isBlank d = false) : trim (c :: cs ++ [d]) = c :: cs ++ [d] := by
  rw [trim, List.cons_append, List.dropWhile_cons_of_neg (by simp [hc]), ← List.cons_append,
    trimEnd_append_singleton hd]

/-- Trimming drops blanks only. -/
theorem mem_trim {cs : List Char} {c : Char} (h : c ∈ cs) (hc : isBlank c = false) :
    c ∈ trim cs := by
  have hback {ds : List Char} (hd : c ∈ ds) : c ∈ ds.dropWhile isBlank := by
    rw [← List.takeWhile_append_dropWhile (p := isBlank) (l := ds), List.mem_append] at hd
    refine hd.resolve_left fun hfront => ?_
    rw [List.mem_takeWhile_imp hfront] at hc
    cases hc
  rw [trim, trimEnd, List.mem_reverse]
  exact hback (List.mem_reverse.2 (hback h))

theorem trim_sublist (cs : List Char) : (trim cs).Sublist cs := by
  have hback : ∀ ds : List Char, (trimEnd ds).Sublist ds := fun ds => by
    have hreverse := (List.dropWhile_sublist isBlank (l := ds.reverse)).reverse
    rwa [List.reverse_reverse] at hreverse
  exact (hback _).trans (List.dropWhile_sublist isBlank)

end MachineConfig.Text
