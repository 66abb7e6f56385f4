import MachineConfig.Template.Balance
import Mathlib.Data.Nat.Find
import Mathlib.Logic.Relation
import Mathlib.Order.Bounds.Defs
import Mathlib.Order.WellFounded

/-!
Opening braces that stay open. The check looks for opening and closing braces by turns (`Seeks`), so
it jumps through a document: from a place to the first two opening braces, and on to behind the
first two closing ones after them (`IsJump`). The jumps come to an end (`exists_last_jump`), none
goes past braces that stay open (`IsJump.le_of_staysOpen`), and the first braces that are met after
the last jump do. So an unclosed tag is reported exactly for the documents in which some opening
braces have no closing ones behind them (`unclosed_reported_iff`).
-/

namespace MachineConfig

namespace Text

variable {word cs : List Char} {start stop place : Nat}

/-- A word stands in a text at a place. -/
def StandsAt (word cs : List Char) (place : Nat) : Prop := word <+: cs.drop place

instance : DecidablePred (StandsAt word cs) :=
  fun place => inferInstanceAs (Decidable (word <+: cs.drop place))

theorem standsAt_pair_iff {a b : Char} :
    StandsAt [a, b] cs place ↔ cs[place]? = some a ∧ cs[place + 1]? = some b := by
  have hfirst : (cs.drop place)[0]? = cs[place]? := by simp
  have hsecond : (cs.drop place)[1]? = cs[place + 1]? := by simp
  rw [StandsAt, ← hfirst, ← hsecond]
  match cs.drop place with
  | [] => simp
  | [_] => simp
  | _ :: _ :: _ => simp [eq_comm]

theorem StandsAt.add_length_le (h : StandsAt word cs place) (hword : word ≠ []) :
    place + word.length ≤ cs.length := by
  have hlength := h.length_le
  have hpos := List.length_pos_iff.mpr hword
  rw [List.length_drop] at hlength
  omega

/-- The first place, from one on, at which a word stands. -/
def IsFirstFrom (word cs : List Char) (start place : Nat) : Prop :=
  IsLeast {p | start ≤ p ∧ StandsAt word cs p} place

theorem exists_isFirstFrom (h : ∃ p, start ≤ p ∧ StandsAt word cs p) :
    ∃ first, IsFirstFrom word cs start first :=
  ⟨Nat.find h, Nat.find_spec h, fun _ hp => Nat.find_min' h hp⟩

theorem IsFirstFrom.not_standsAt (h : IsFirstFrom word cs start place) {p : Nat}
    (hstart : start ≤ p) (hlt : p < place) : ¬StandsAt word cs p :=
  fun hstands => absurd (h.2 ⟨hstart, hstands⟩) (Nat.not_le.mpr hlt)

/-- A function of a text that looks for a word: characters that the word does not start at make no
difference to it, and behind the word another function goes on. -/
structure Seeks {α : Type} (word : List Char) (f g : List Char → α) : Prop where
  found : ∀ rest, f (word ++ rest) = g rest
  passed : ∀ c rest, ¬word <+: c :: rest → f (c :: rest) = f rest

namespace Seeks

variable {α : Type} {f g : List Char → α}

theorem drop_succ (h : Seeks word f g) (hnot : ¬StandsAt word cs place) :
    f (cs.drop place) = f (cs.drop (place + 1)) := by
  rw [StandsAt] at hnot
  rw [← List.drop_drop]
  cases hrest : cs.drop place with
  | nil => rfl
  | cons c rest =>
    rw [hrest] at hnot
    rw [h.passed c rest hnot, List.drop_one, List.tail_cons]

theorem drop_eq (h : Seeks word f g) (hle : start ≤ stop)
    (hnot : ∀ p, start ≤ p → p < stop → ¬StandsAt word cs p) :
    f (cs.drop start) = f (cs.drop stop) := by
  induction stop, hle using Nat.le_induction with
  | base => rfl
  | succ stop hle ih =>
    have hbefore := ih fun p hp hlt => hnot p hp (Nat.lt_succ_of_lt hlt)
    rw [hbefore, h.drop_succ (hnot stop hle (Nat.lt_succ_self stop))]

theorem drop_of_isFirstFrom (h : Seeks word f g) (hfirst : IsFirstFrom word cs start place) :
    f (cs.drop start) = g (cs.drop (place + word.length)) := by
  obtain ⟨rest, hrest⟩ := hfirst.1.2
  rw [h.drop_eq hfirst.1.1 fun _ => hfirst.not_standsAt, ← List.drop_drop, ← hrest, h.found,
    List.drop_left]

theorem drop_of_forall_not (h : Seeks word f g) (hnot : ∀ p, start ≤ p → ¬StandsAt word cs p) :
    f (cs.drop start) = f [] := by
  rw [h.drop_eq (Nat.le_max_left start cs.length) fun p hp _ => hnot p hp,
    List.drop_of_length_le (Nat.le_max_right ..)]

end Seeks

end Text

namespace Template

open Text Relation

variable {cs : List Char} {start next last p q : Nat}

/-! ## The two searches -/

theorem seeks_hasUnclosedTag : Seeks ['{', '{'] hasUnclosedTag isNeverClosed where
  found _ := by simp [hasUnclosedTag]
  passed c rest hnot := by
    rw [hasUnclosedTag]
    rintro more rfl rfl
    exact hnot (by simp)

theorem seeks_isNeverClosed : Seeks ['}', '}'] isNeverClosed hasUnclosedTag where
  found _ := by simp [isNeverClosed]
  passed c rest hnot := by
    rw [isNeverClosed]
    rintro more rfl rfl
    exact hnot (by simp)

/-! ## Jumps -/

/-- The check jumps from a place to behind the first closing braces that stand after the first
opening ones. -/
def IsJump (cs : List Char) (start next : Nat) : Prop :=
  ∃ p q, IsFirstFrom ['{', '{'] cs start p ∧ IsFirstFrom ['}', '}'] cs (p + 2) q ∧ next = q + 2

/-- Opening braces stand at a place, and nowhere behind them closing ones. -/
structure StaysOpen (cs : List Char) (p : Nat) : Prop where
  opening : StandsAt ['{', '{'] cs p
  not_closing : ∀ q, p + 2 ≤ q → ¬StandsAt ['}', '}'] cs q

theorem IsJump.start_lt (h : IsJump cs start next) : start < next ∧ next ≤ cs.length := by
  obtain ⟨p, q, hopening, hclosing, rfl⟩ := h
  have hp : start ≤ p := hopening.1.1
  have hq : p + 2 ≤ q := hclosing.1.1
  exact ⟨by omega, hclosing.1.2.add_length_le (List.cons_ne_nil _ _)⟩

theorem IsJump.hasUnclosedTag_eq (h : IsJump cs start next) :
    hasUnclosedTag (cs.drop start) = hasUnclosedTag (cs.drop next) := by
  obtain ⟨p, q, hopening, hclosing, rfl⟩ := h
  calc hasUnclosedTag (cs.drop start)
    _ = isNeverClosed (cs.drop (p + 2)) := seeks_hasUnclosedTag.drop_of_isFirstFrom hopening
    _ = hasUnclosedTag (cs.drop (q + 2)) := seeks_isNeverClosed.drop_of_isFirstFrom hclosing

/-- Closing braces stand before braces that stay open, and do not overlap them. -/
theorem StaysOpen.add_two_le (h : StaysOpen cs p) (hclosing : StandsAt ['}', '}'] cs q) :
    q + 2 ≤ p := by
  have hlt : q < p + 2 := Nat.not_le.mp fun hle => h.not_closing q hle hclosing
  obtain ⟨hfirst, hsecond⟩ := standsAt_pair_iff.mp h.opening
  obtain ⟨hfirst', hsecond'⟩ := standsAt_pair_iff.mp hclosing
  -- A character that belonged to both pairs would be an opening and a closing brace.
  have hsame : q ≠ p := by
    rintro rfl
    simp [hfirst] at hfirst'
  have hlate : q ≠ p + 1 := by
    rintro rfl
    simp [hsecond] at hfirst'
  have hearly : q + 1 ≠ p := by
    rintro rfl
    simp [hfirst] at hsecond'
  omega

/-- No jump goes past braces that stay open. -/
theorem IsJump.le_of_staysOpen (h : IsJump cs start next) (hopen : StaysOpen cs p) : next ≤ p := by
  obtain ⟨_, q, -, hclosing, rfl⟩ := h
  exact hopen.add_two_le hclosing.1.2

theorem wellFounded_isJump (cs : List Char) :
    WellFounded fun next start => IsJump cs start next := by
  refine Subrelation.wf (fun {next start} h => ?_) (measure fun place => cs.length - place).wf
  have := IsJump.start_lt h
  change cs.length - next < cs.length - start
  omega

/-- The jumps come to an end. -/
theorem exists_last_jump (cs : List Char) (start : Nat) :
    ∃ last, ReflTransGen (IsJump cs) start last ∧ ∀ next, ¬IsJump cs last next := by
  obtain ⟨last, hreach, hlast⟩ :=
    (wellFounded_isJump cs).has_min {place | ReflTransGen (IsJump cs) start place} ⟨start, .refl⟩
  exact ⟨last, hreach, fun next hjump => hlast next (hreach.tail hjump) hjump⟩

theorem hasUnclosedTag_of_jumps (h : ReflTransGen (IsJump cs) start last) :
    hasUnclosedTag (cs.drop start) = hasUnclosedTag (cs.drop last) := by
  induction h with
  | refl => rfl
  | tail _ hjump ih => rw [ih, hjump.hasUnclosedTag_eq]

theorem le_of_jumps (h : ReflTransGen (IsJump cs) start last) (hstart : start ≤ p)
    (hopen : StaysOpen cs p) : last ≤ p := by
  rcases h.cases_tail with rfl | ⟨_, -, hjump⟩
  · exact hstart
  · exact hjump.le_of_staysOpen hopen

/-! ## After the last jump -/

theorem staysOpen_of_last (hlast : ∀ next, ¬IsJump cs last next)
    (h : IsFirstFrom ['{', '{'] cs last p) : StaysOpen cs p := by
  refine ⟨h.1.2, fun q hq hclosing => ?_⟩
  obtain ⟨first, hfirst⟩ := exists_isFirstFrom ⟨q, hq, hclosing⟩
  exact hlast _ ⟨p, first, h, hfirst, rfl⟩

theorem hasUnclosedTag_of_last (hlast : ∀ next, ¬IsJump cs last next) :
    hasUnclosedTag (cs.drop last) ↔ ∃ p, last ≤ p ∧ StandsAt ['{', '{'] cs p := by
  by_cases h : ∃ p, last ≤ p ∧ StandsAt ['{', '{'] cs p
  · refine iff_of_true ?_ h
    obtain ⟨p, hp⟩ := exists_isFirstFrom h
    calc hasUnclosedTag (cs.drop last)
      _ = isNeverClosed (cs.drop (p + 2)) := seeks_hasUnclosedTag.drop_of_isFirstFrom hp
      _ = isNeverClosed [] :=
        seeks_isNeverClosed.drop_of_forall_not (staysOpen_of_last hlast hp).not_closing
      _ = true := rfl
  · refine iff_of_false ?_ h
    have hnone : hasUnclosedTag (cs.drop last) = hasUnclosedTag [] :=
      seeks_hasUnclosedTag.drop_of_forall_not fun p hp hstands => h ⟨p, hp, hstands⟩
    rw [hnone]
    exact Bool.false_ne_true

/-! ## What is reported -/

theorem prefix_message_unmatched (keyword : String) (opens closes : Nat) :
    "Unmatched \x7b\x7b#".toList <+: (Fault.unmatched keyword opens closes).message.toList := by
  change _ <+: (_ ++ _ ++ _ ++ _ ++ _ : String).toList
  simp only [String.toList_append, List.append_assoc]
  exact List.prefix_append _ _

/-- The message tells an unclosed tag from unmatched ones. -/
theorem message_eq_unclosed_iff {f : Fault} :
    f.message = "Unclosed \x7b\x7b tag found" ↔ f = .unclosed := by
  cases f with
  | unclosed => exact iff_of_true rfl rfl
  | unmatched keyword opens closes =>
    refine iff_of_false (fun h => ?_) Fault.noConfusion
    have hprefix := prefix_message_unmatched keyword opens closes
    rw [h] at hprefix
    exact absurd hprefix (by decide)

theorem unclosed_mem_faults_iff {document : String} :
    .unclosed ∈ faults document ↔ hasUnclosedTag document.toList := by
  simp [faults, unmatched?]

/-- The jumps through a document come to an end, and an unclosed tag is reported if opening braces
stand behind the last of them: that is, if there are opening braces anywhere in the document that no
closing ones stand behind. -/
theorem unclosed_reported_iff (document : String) :
    (∃ last, ReflTransGen (IsJump document.toList) 0 last ∧
        (∀ next, ¬IsJump document.toList last next) ∧
        ("Unclosed \x7b\x7b tag found" ∈ (faults document).map Fault.message ↔
          ∃ p, last ≤ p ∧ StandsAt ['{', '{'] document.toList p)) ∧
      ("Unclosed \x7b\x7b tag found" ∈ (faults document).map Fault.message ↔
        ∃ p, StaysOpen document.toList p) := by
  have hreported : "Unclosed \x7b\x7b tag found" ∈ (faults document).map Fault.message ↔
      hasUnclosedTag document.toList := by
    rw [List.mem_map, ← unclosed_mem_faults_iff]
    simp only [message_eq_unclosed_iff, exists_eq_right]
  obtain ⟨last, hjumps, hlast⟩ := exists_last_jump document.toList 0
  have hrun : hasUnclosedTag document.toList = hasUnclosedTag (document.toList.drop last) :=
    hasUnclosedTag_of_jumps hjumps
  rw [hreported, hrun]
  refine ⟨⟨last, hjumps, hlast, hasUnclosedTag_of_last hlast⟩, ?_⟩
  rw [hasUnclosedTag_of_last hlast]
  constructor
  · intro h
    obtain ⟨p, hp⟩ := exists_isFirstFrom h
    exact ⟨p, staysOpen_of_last hlast hp⟩
  · rintro ⟨p, hopen⟩
    exact ⟨p, le_of_jumps hjumps (Nat.zero_le p) hopen, hopen.opening⟩

/-- In a longer run of braces every two neighbours open or close. -/
example : faults "\x7b\x7b\x7b\x7d\x7d\x7d" = [] ∧
    faults "\x7b\x7b\x7d\x7d\x7d\x7b\x7b\x7b\x7d" = [.unclosed] := by
  decide

end Template

end MachineConfig
