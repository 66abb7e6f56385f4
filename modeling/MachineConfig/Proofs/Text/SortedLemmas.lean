import Mathlib.Data.List.Lex
import Mathlib.Data.Nat.Basic
import MachineConfig.Proofs.Text.CodePointLemmas

/-!
Texts in code-point order. Of two texts one comes before the other unless they are the same
(`isBefore_trichotomy`), and the texts of a list in order are strictly increasing
(`pairwise_sortedSet`).
-/

namespace MachineConfig.Text

variable {s t u : String} {ts texts : List String}

theorem isBefore_iff : isBefore s t ↔ codes s.toList < codes t.toList := List.lex_eq_true_iff_lt

theorem isBefore_trans (h : isBefore s t) (h' : isBefore t u) : isBefore s u :=
  isBefore_iff.2 (lt_trans (isBefore_iff.1 h) (isBefore_iff.1 h'))

/-- Texts have different code points, so that one of two texts comes first. -/
theorem isBefore_trichotomy (s t : String) : isBefore s t ∨ s = t ∨ isBefore t s := by
  rcases lt_trichotomy (codes s.toList) (codes t.toList) with hlt | heq | hgt
  · exact .inl (isBefore_iff.2 hlt)
  · exact .inr (.inl (String.toList_inj.1 (codes_injective heq)))
  · exact .inr (.inr (isBefore_iff.2 hgt))

@[simp] theorem mem_insertSorted : t ∈ insertSorted s ts ↔ t = s ∨ t ∈ ts := by
  induction ts with
  | nil => simp [insertSorted]
  | cons u us ih =>
    rw [insertSorted]
    split
    · simp
    · split
      · next heq => simp [heq]
      · simp only [List.mem_cons, ih]
        exact or_left_comm

theorem pairwise_insertSorted (h : ts.Pairwise (isBefore · ·)) :
    (insertSorted s ts).Pairwise (isBefore · ·) := by
  induction ts with
  | nil => exact List.pairwise_singleton ..
  | cons u us ih =>
    rw [List.pairwise_cons] at h
    rw [insertSorted]
    split
    · next hbefore =>
      refine List.pairwise_cons.2 ⟨fun v hv => ?_, List.pairwise_cons.2 h⟩
      rcases List.mem_cons.1 hv with rfl | hv
      · exact hbefore
      · exact isBefore_trans hbefore (h.1 v hv)
    · next hafter =>
      split
      · exact List.pairwise_cons.2 h
      · next hne =>
        refine List.pairwise_cons.2 ⟨fun v hv => ?_, ih h.2⟩
        rcases mem_insertSorted.1 hv with rfl | hv
        · exact ((isBefore_trichotomy v u).resolve_left hafter).resolve_left hne
        · exact h.1 v hv

@[simp] theorem mem_sortedSet : t ∈ sortedSet texts ↔ t ∈ texts := by
  induction texts with
  | nil => rfl
  | cons s texts ih =>
    rw [sortedSet, List.foldr_cons, mem_insertSorted, ← sortedSet, ih, List.mem_cons]

theorem pairwise_sortedSet (texts : List String) : (sortedSet texts).Pairwise (isBefore · ·) := by
  induction texts with
  | nil => exact List.Pairwise.nil
  | cons s texts ih => exact pairwise_insertSorted ih

end MachineConfig.Text
