import MachineConfig.Proofs.Text.BlankLemmas
import MachineConfig.Proofs.Text.CasingLemmas
import Mathlib.Data.List.Infix
import Mathlib.Data.List.TakeDrop

/-!
Texts that differ in the case of ASCII letters. What depends on one letter is checked on the capital
letters (`eq_toLower_of_capitals`); the lower-case form of a text does not show the difference
(`IsRecasing.lower_eq`), for a final sigma asks only which of its neighbours are letters.
-/

namespace MachineConfig.Text

/-- The letters that ASCII lower case changes. -/
def capitals : List Char := "ABCDEFGHIJKLMNOPQRSTUVWXYZ".toList

theorem mem_capitals {c : Char} (h : c.toLower ≠ c) : c ∈ capitals := by
  have hcapital : c.val ≥ 65 ∧ c.val ≤ 90 := by
    by_contra hother
    exact h (dif_neg hother)
  have hfirst : 65 ≤ c.toNat := UInt32.le_iff_toNat_le.1 hcapital.1
  have hlast : c.toNat < 91 := Nat.lt_succ_of_le (UInt32.le_iff_toNat_le.1 hcapital.2)
  have hall : ∀ n < 91, 65 ≤ n → Char.ofNat n ∈ capitals := by decide
  rw [← Char.ofNat_toNat c]
  exact hall _ hlast hfirst

/-- What is so of the capital letters and their small letters is so of every character. -/
theorem eq_toLower_of_capitals {α : Type} {f : Char → α}
    (h : capitals.map (fun c => f c.toLower) = capitals.map f) (c : Char) :
    f c.toLower = f c := by
  by_cases hc : c.toLower = c
  · rw [hc]
  · exact List.map_inj_left.1 h c (mem_capitals hc)

theorem isBlank_toLower (c : Char) : isBlank c.toLower = isBlank c :=
  eq_toLower_of_capitals (by decide) c

theorem lowerChar_toLower (c : Char) : lowerChar c.toLower = lowerChar c :=
  eq_toLower_of_capitals (by decide) c

theorem isCased_toLower (c : Char) : isCased c.toLower = isCased c :=
  eq_toLower_of_capitals (by decide +kernel) c

theorem isCaseIgnorable_toLower (c : Char) : isCaseIgnorable c.toLower = isCaseIgnorable c :=
  eq_toLower_of_capitals (by decide +kernel) c

/-- A character that is no letter of ASCII is what it is in lower case, and no other one is. -/
theorem toLower_eq_iff {d : Char} (h : capitals.map (·.toLower == d) = capitals.map (· == d))
    (c : Char) : c.toLower = d ↔ c = d := by
  have hsame : (c.toLower == d) = (c == d) := eq_toLower_of_capitals (f := (· == d)) h c
  rw [← beq_iff_eq, hsame, beq_iff_eq]

/-! ## Texts -/

variable {cs ds before : List Char} {s t u : String}

/-- A predicate that ASCII lower case does not show, on a text in lower case. -/
theorem comp_toLower {p : Char → Bool} (h : ∀ c, p c.toLower = p c) : p ∘ Char.toLower = p :=
  funext h

/-- A text that starts in lower case with something that is no letter starts with that. -/
theorem map_toLower_eq_cons_iff {d : Char}
    (h : capitals.map (·.toLower == d) = capitals.map (· == d)) :
    cs.map Char.toLower = d :: ds ↔ ∃ rest, cs = d :: rest ∧ rest.map Char.toLower = ds := by
  rw [List.map_eq_cons_iff]
  constructor
  · rintro ⟨c, rest, rfl, hc, hrest⟩
    rw [(toLower_eq_iff h c).1 hc]
    exact ⟨rest, rfl, hrest⟩
  · rintro ⟨rest, rfl, hrest⟩
    exact ⟨d, rest, rfl, (toLower_eq_iff h d).2 rfl, hrest⟩

theorem trim_map_toLower (cs : List Char) :
    trim (cs.map Char.toLower) = (trim cs).map Char.toLower := by
  simp only [trim, trimEnd, List.dropWhile_map, ← List.map_reverse, comp_toLower isBlank_toLower]

theorem nextIsCased_map_toLower (cs : List Char) :
    nextIsCased (cs.map Char.toLower) = nextIsCased cs := by
  rw [nextIsCased, nextIsCased, List.dropWhile_map, comp_toLower isCaseIgnorable_toLower]
  cases cs.dropWhile isCaseIgnorable with
  | nil => rfl
  | cons c cs => exact isCased_toLower c

theorem lowerFrom_map_toLower (before cs : List Char) :
    lowerFrom (before.map Char.toLower) (cs.map Char.toLower) = lowerFrom before cs := by
  induction cs generalizing before with
  | nil => rfl
  | cons c cs ih =>
    have hsigma : c.toLower = 'Σ' ↔ c = 'Σ' := toLower_eq_iff (by decide) c
    simp only [List.map_cons, lowerFrom, nextIsCased_map_toLower, lowerChar_toLower, hsigma]
    rw [← ih (c :: before), List.map_cons]

/-- Two texts differ in the case of ASCII letters only. -/
def IsRecasing (s t : String) : Prop := s.toList.map Char.toLower = t.toList.map Char.toLower

instance (s t : String) : Decidable (IsRecasing s t) :=
  inferInstanceAs (Decidable (_ = _))

/-- A text in lower case does not show which case it was written in. -/
theorem IsRecasing.lower_eq (h : IsRecasing s t) : lower s = lower t := by
  rw [lower, lower, ← lowerFrom_map_toLower [] s.toList, h, lowerFrom_map_toLower]

theorem lower_ofList_map_toLower (cs : List Char) :
    lower (String.ofList (cs.map Char.toLower)) = lower (String.ofList cs) := by
  rw [lower, lower, String.toList_ofList, String.toList_ofList, ← lowerFrom_map_toLower [] cs]
  rfl

theorem isLower_toLower {c : Char} (h : c.toNat < 128) : IsLower c.toLower := by
  have hall : ∀ n < 128, IsLower (Char.ofNat n).toLower := by decide
  rw [← Char.ofNat_toNat c]
  exact hall _ h

/-- Of a text in ASCII nothing but its capital letters changes. -/
theorem lower_of_ascii (h : ∀ c ∈ s.toList, c.toNat < 128) :
    lower s = String.ofList (s.toList.map Char.toLower) := by
  have hlow : ∀ c ∈ s.toList.map Char.toLower, IsLower c := by
    rw [List.forall_mem_map]
    exact fun c hc => isLower_toLower (h c hc)
  have hsame := lower_ofList_map_toLower s.toList
  rw [String.ofList_toList] at hsame
  rw [← hsame, lower, String.toList_ofList, lowerFrom_of_forall hlow]

/-- What does not show the case of letters is the same of recased texts. -/
theorem eq_of_map_toLower {α : Type} (f : List Char → α)
    (hf : ∀ cs, f (cs.map Char.toLower) = f cs)
    (h : cs.map Char.toLower = ds.map Char.toLower) : f cs = f ds := by
  rw [← hf cs, h, hf]

/-- A recased text has blanks around it exactly where the text has. -/
theorem trim_eq_self_of_map_toLower (h : cs.map Char.toLower = ds.map Char.toLower)
    (htrim : trim cs = cs) : trim ds = ds := by
  refine (trim_sublist ds).eq_of_length ?_
  have hlength : (trim cs).length = (trim ds).length := by
    simpa [trim_map_toLower] using congrArg (fun cs => (trim cs).length) h
  have hboth : cs.length = ds.length := by simpa using congrArg List.length h
  rw [← hlength, htrim, hboth]

end MachineConfig.Text
