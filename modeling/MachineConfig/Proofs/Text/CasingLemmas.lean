import MachineConfig.Proofs.Text.CodePointLemmas
import MachineConfig.Text.Casing

/-!
Lowering a text twice is lowering it once (`lower_lower`). The small letters of one range are no
capital letters of another (`isApart_caseRanges`), so what a letter becomes is settled.
-/

namespace MachineConfig.Text

namespace CaseRange

/-- No lower-case form of `r` is a letter of `s`: the two lie apart, or are interleaved. -/
def isApart (r s : CaseRange) : Bool :=
  let first := (r.first + r.shift).toNat
  let last := (r.last + r.shift).toNat
  -- Booleans on natural numbers, because every range is checked against every other one.
  Nat.blt last s.first || Nat.blt s.last first ||
    (s.step == 2 && (r.step == 2 || r.first == r.last) && decide (0 ≤ r.shift) &&
      (first + s.first) % 2 == 1)

theorem lower?_eq_some_iff {r : CaseRange} {n m : Nat} :
    r.lower? n = some m ↔
      (r.first ≤ n ∧ n ≤ r.last ∧ (n - r.first) % r.step = 0) ∧ (n + r.shift).toNat = m := by
  rw [lower?]
  split <;> simp [*]

theorem lower?_eq_none_of_isApart {r s : CaseRange} (h : r.isApart s) {n m : Nat}
    (hm : r.lower? n = some m) : s.lower? m = none := by
  obtain ⟨⟨hfirst, hlast, hstep⟩, hshift⟩ := lower?_eq_some_iff.1 hm
  refine Option.eq_none_iff_forall_ne_some.2 fun k hk => ?_
  obtain ⟨⟨hfirst', hlast', hstep'⟩, -⟩ := lower?_eq_some_iff.1 hk
  simp only [isApart, Bool.or_eq_true, Bool.and_eq_true, Nat.blt_eq, beq_iff_eq,
    decide_eq_true_eq] at h
  obtain (h | h) | ⟨⟨⟨htwo, h⟩, hpos⟩, hodd⟩ := h
  · omega
  · omega
  · rw [htwo] at hstep'
    obtain h | h := h
    · rw [h] at hstep
      omega
    · omega

end CaseRange

/-- The range in front is `İ` by itself, which the table leaves out because it becomes two
characters. -/
theorem isApart_caseRanges :
    caseRanges.all fun r => (⟨304, 304, 1, 0⟩ :: caseRanges).all r.isApart := by
  decide +kernel

theorem isValidChar_caseRanges :
    ∀ r ∈ caseRanges, r.last + r.shift < 0xd800 ∨
      0xdfff < r.first + r.shift ∧ r.last + r.shift < 0x110000 := by
  decide +kernel

theorem findSome?_lower?_eq_none {r : CaseRange} (hr : r ∈ caseRanges) {n m : Nat}
    (hm : r.lower? n = some m) : m ≠ 304 ∧ caseRanges.findSome? (·.lower? m) = none := by
  have hall : ∀ s ∈ ⟨304, 304, 1, 0⟩ :: caseRanges, s.lower? m = none := fun s hs =>
    CaseRange.lower?_eq_none_of_isApart
      (List.all_eq_true.1 (List.all_eq_true.1 isApart_caseRanges r hr) s hs) hm
  refine ⟨?_, List.findSome?_eq_none_iff.2 fun s hs => hall s (List.mem_cons_of_mem _ hs)⟩
  rintro rfl
  exact absurd (hall _ List.mem_cons_self) (by decide)

theorem toNat_ofNat_of_lower? {r : CaseRange} (hr : r ∈ caseRanges) {n m : Nat}
    (hm : r.lower? n = some m) : (Char.ofNat m).toNat = m := by
  obtain ⟨⟨hfirst, hlast, -⟩, hshift⟩ := CaseRange.lower?_eq_some_iff.1 hm
  have hvalid := isValidChar_caseRanges r hr
  refine toNat_ofNat (isCharacter_iff.2 ?_)
  rw [Nat.isValidChar]
  omega

/-- The ASCII capitals are one of the ranges. -/
theorem lower?_of_le {c : Char} (h : 'A' ≤ c ∧ c ≤ 'Z') :
    (⟨65, 90, 1, 32⟩ : CaseRange).lower? c.toNat = some (c.toNat + 32) := by
  have hle : 65 ≤ c.toNat ∧ c.toNat ≤ 90 :=
    ⟨UInt32.le_iff_toNat_le.1 h.1, UInt32.le_iff_toNat_le.1 h.2⟩
  rw [CaseRange.lower?, if_pos ⟨hle.1, hle.2, Nat.mod_one _⟩]
  rfl

/-- A letter that lowering leaves as it is. -/
def IsLower (c : Char) : Prop := lowerChar c = [c]

instance (c : Char) : Decidable (IsLower c) := inferInstanceAs (Decidable (lowerChar c = [c]))

theorem isLower_of_lower? {r : CaseRange} (hr : r ∈ caseRanges) {n m : Nat}
    (hm : r.lower? n = some m) : IsLower (Char.ofNat m) := by
  have hm' := toNat_ofNat_of_lower? hr hm
  obtain ⟨hne, hnone⟩ := findSome?_lower?_eq_none hr hm
  have hdot : Char.ofNat m ≠ 'İ' := fun h => hne (hm'.symm.trans (congrArg Char.toNat h))
  have hascii : ¬('A' ≤ Char.ofNat m ∧ Char.ofNat m ≤ 'Z') := fun h => by
    have hsome := lower?_of_le h
    rw [hm', List.findSome?_eq_none_iff.1 hnone _ List.mem_cons_self] at hsome
    cases hsome
  rw [IsLower, lowerChar, hm', hnone, if_neg hdot, if_neg hascii, ite_self]

/-- What a letter becomes does not change again. -/
theorem isLower_of_mem_lowerChar {c d : Char} (h : d ∈ lowerChar c) : IsLower d := by
  rw [lowerChar] at h
  split at h
  · rw [List.mem_singleton] at h
    subst h
    split
    · next hcapital => exact isLower_of_lower? List.mem_cons_self (lower?_of_le hcapital)
    · next hsmall => rw [IsLower, lowerChar, if_pos ‹_›, if_neg hsmall]
  split at h
  · obtain rfl | rfl : d = 'i' ∨ d = '\u0307' := by simpa using h
    · decide
    · decide +kernel
  split at h
  · next m hfind =>
    obtain ⟨r, hr, hm⟩ := List.exists_of_findSome?_eq_some hfind
    rw [List.mem_singleton.1 h]
    exact isLower_of_lower? hr hm
  · next hnone =>
    rw [List.mem_singleton.1 h, IsLower, lowerChar, if_neg ‹_›, if_neg ‹_›, hnone]

theorem isLower_of_mem_lowerFrom {before cs : List Char} {d : Char}
    (h : d ∈ lowerFrom before cs) : IsLower d := by
  induction cs generalizing before with
  | nil => cases h
  | cons c cs ih =>
    rw [lowerFrom, List.mem_append] at h
    rcases h with h | h
    · split at h
      · rw [List.mem_singleton.1 h]
        decide +kernel
      · exact isLower_of_mem_lowerChar h
    · exact ih h

theorem lowerFrom_of_forall {before cs : List Char} (h : ∀ c ∈ cs, IsLower c) :
    lowerFrom before cs = cs := by
  induction cs generalizing before with
  | nil => rfl
  | cons c cs ih =>
    have hlow := h c List.mem_cons_self
    have hsigma : c ≠ 'Σ' := by
      rintro rfl
      exact absurd hlow (by decide +kernel)
    rw [lowerFrom, ih fun d hd => h d (List.mem_cons_of_mem _ hd)]
    simp only [hsigma, false_and, if_false]
    rw [hlow, List.singleton_append]

theorem lower_lower (s : String) : lower (lower s) = lower s := by
  have hlower : ∀ c ∈ (lower s).toList, IsLower c := fun c hc => by
    rw [lower, String.toList_ofList] at hc
    exact isLower_of_mem_lowerFrom hc
  rw [lower, lowerFrom_of_forall hlower, String.ofList_toList]

end MachineConfig.Text
