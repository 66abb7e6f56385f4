import Mathlib.Data.List.DropRight
import MachineConfig.Proofs.Text.BlankLemmas
import MachineConfig.Proofs.Text.CasingLemmas

/-!
Trimming and lowering. No letter becomes a blank (`isBlank_of_mem_lowerChar`), so a text that is
trimmed stays so when it is lowered (`strip_lower_strip`).
-/

namespace MachineConfig.Text

variable {cs before : List Char} {c d : Char}

/-- No blank stands at either end. -/
structure IsTrimmed (cs : List Char) : Prop where
  first : ∀ c ∈ cs.head?, isBlank c = false
  last : ∀ c ∈ cs.getLast?, isBlank c = false

theorem IsTrimmed.trim_eq (h : IsTrimmed cs) : trim cs = cs := by
  have hfront : cs.dropWhile isBlank = cs := by
    cases cs with
    | nil => rfl
    | cons c cs => exact List.dropWhile_cons_of_neg (by simp [h.first c rfl])
  have hback : cs.rdropWhile isBlank = cs := by
    refine List.rdropWhile_eq_self_iff.2 fun hne => ?_
    simp [h.last _ (List.getLast?_eq_some_getLast hne)]
  rw [trim, hfront]
  exact hback

theorem isTrimmed_trim (cs : List Char) : IsTrimmed (trim cs) := by
  have hprefix : trim cs <+: cs.dropWhile isBlank := List.rdropWhile_prefix isBlank _
  refine ⟨fun c hc => ?_, fun c hc => ?_⟩
  · obtain ⟨rest, hrest⟩ := hprefix
    have hhead : c ∈ (cs.dropWhile isBlank).head? := by
      rw [← hrest, List.head?_append, hc]
      rfl
    have hnot := List.head?_dropWhile_not isBlank cs
    rw [hhead] at hnot
    exact Bool.eq_false_iff.2 (by simpa using hnot)
  · obtain ⟨hne, rfl⟩ := List.mem_getLast?_eq_getLast hc
    exact Bool.eq_false_iff.2 (List.rdropWhile_last_not isBlank (cs.dropWhile isBlank) hne)

/-- What the letters of a range become is no blank. -/
theorem isNoBlank_caseRanges :
    caseRanges.all fun r => blankRanges.all fun b =>
      Nat.blt (r.last + r.shift).toNat b.1 || Nat.blt b.2 (r.first + r.shift).toNat := by
  decide +kernel

theorem isBlank_of_lower? {r : CaseRange} (hr : r ∈ caseRanges) {n m : Nat}
    (hm : r.lower? n = some m) : isBlank (Char.ofNat m) = false := by
  obtain ⟨⟨hfirst, hlast, -⟩, hshift⟩ := CaseRange.lower?_eq_some_iff.1 hm
  rw [isBlank, List.any_eq_false, toNat_ofNat_of_lower? hr hm]
  intro b hb
  have hapart := List.all_eq_true.1 (List.all_eq_true.1 isNoBlank_caseRanges r hr) b hb
  simp only [Bool.or_eq_true, Nat.blt_eq] at hapart
  simp only [Bool.and_eq_true, decide_eq_true_eq]
  omega

theorem isBlank_of_mem_lowerChar (hc : isBlank c = false) (h : d ∈ lowerChar c) :
    isBlank d = false := by
  rw [lowerChar] at h
  split at h
  · rw [List.mem_singleton] at h
    subst h
    split
    · next hcapital => exact isBlank_of_lower? List.mem_cons_self (lower?_of_le hcapital)
    · exact hc
  split at h
  · obtain rfl | rfl : d = 'i' ∨ d = '\u0307' := by simpa using h
    · decide
    · decide
  split at h
  · next m hfind =>
    obtain ⟨r, hr, hm⟩ := List.exists_of_findSome?_eq_some hfind
    rw [List.mem_singleton.1 h]
    exact isBlank_of_lower? hr hm
  · rw [List.mem_singleton.1 h]
    exact hc

/-- A character becomes one or more, which are no blanks if it is none, and the others follow. -/
theorem lowerFrom_cons (before : List Char) (c : Char) (cs : List Char) :
    ∃ low, low ≠ [] ∧ (isBlank c = false → ∀ d ∈ low, isBlank d = false) ∧
      lowerFrom before (c :: cs) = low ++ lowerFrom (c :: before) cs := by
  rw [lowerFrom]
  split
  · have hsigma : isBlank 'ς' = false := by decide
    exact ⟨['ς'], List.cons_ne_nil _ _, fun _ d hd => List.mem_singleton.1 hd ▸ hsigma, rfl⟩
  · refine ⟨lowerChar c, ?_, fun hc d => isBlank_of_mem_lowerChar hc, rfl⟩
    rw [lowerChar]
    repeat' split
    all_goals exact List.cons_ne_nil _ _

theorem isBlank_of_mem_head?_lowerFrom (h : ∀ c ∈ cs.head?, isBlank c = false) :
    ∀ d ∈ (lowerFrom before cs).head?, isBlank d = false := by
  cases cs with
  | nil => simp [lowerFrom]
  | cons c cs =>
    obtain ⟨low, hne, hlow, heq⟩ := lowerFrom_cons before c cs
    intro d hd
    rw [heq, List.head?_append_of_ne_nil _ hne] at hd
    exact hlow (h c rfl) d (List.mem_of_mem_head? hd)

theorem isBlank_of_mem_getLast?_lowerFrom (h : ∀ c ∈ cs.getLast?, isBlank c = false) :
    ∀ d ∈ (lowerFrom before cs).getLast?, isBlank d = false := by
  induction cs generalizing before with
  | nil => simp [lowerFrom]
  | cons c cs ih =>
    obtain ⟨low, hne, hlow, heq⟩ := lowerFrom_cons before c cs
    intro d hd
    rw [heq] at hd
    cases cs with
    | nil =>
      rw [lowerFrom, List.append_nil] at hd
      exact hlow (h c rfl) d (List.mem_of_mem_getLast? hd)
    | cons next cs =>
      obtain ⟨more, hmore, -, hrest⟩ := lowerFrom_cons (c :: before) next cs
      have hne : lowerFrom (c :: before) (next :: cs) ≠ [] := by simp [hrest, hmore]
      rw [List.getLast?_append_of_ne_nil _ hne] at hd
      exact ih (by rwa [List.getLast?_cons_cons] at h) d hd

theorem IsTrimmed.lowerFrom (h : IsTrimmed cs) (before : List Char) :
    IsTrimmed (lowerFrom before cs) :=
  ⟨isBlank_of_mem_head?_lowerFrom h.first, isBlank_of_mem_getLast?_lowerFrom h.last⟩

theorem strip_lower_strip (s : String) : strip (lower (strip s)) = lower (strip s) := by
  have htrimmed := (isTrimmed_trim s.toList).lowerFrom []
  rw [strip, lower, strip, String.toList_ofList, String.toList_ofList, htrimmed.trim_eq]

end MachineConfig.Text
