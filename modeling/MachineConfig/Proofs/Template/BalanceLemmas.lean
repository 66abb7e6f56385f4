import MachineConfig.Proofs.Template.Occurrences
import MachineConfig.Template.Balance
import Mathlib.Data.List.Infix

/-!
Searching a text against cutting it at its tags. A word that starts with `{{` and stands only where
a tag starts with it is found as often as there are such tags (`Piece.countFrom_eq_countP_split`).
Where every `{{` starts a tag, none is left open (`hasUnclosedTag_eq_false`).
-/

namespace MachineConfig

namespace Text

variable {word : List Char}

theorem countFrom_eq (word : List Char) (skip : Nat) (cs : List Char) :
    countFrom word skip cs = countFrom word 0 (cs.drop skip) := by
  induction skip generalizing cs with
  | zero => rfl
  | succ skip ih =>
    cases cs with
    | nil => rfl
    | cons c cs => exact ih cs

theorem countFrom_of_not_prefix {c : Char} {cs : List Char} (h : ¬word <+: c :: cs) :
    countFrom word 0 (c :: cs) = countFrom word 0 cs := by
  rw [countFrom, if_neg (by simpa using h)]

theorem countFrom_append_of_prefix {rest : List Char} (hword : word ≠ []) :
    countFrom word 0 (word ++ rest) = 1 + countFrom word 0 rest := by
  cases word with
  | nil => exact (hword rfl).elim
  | cons c cs => simp [countFrom, countFrom_eq _ cs.length]

/-- A word is not found where its first character is not. -/
theorem countFrom_append_of_not_mem {first : Char} {cs : List Char} (h : first ∉ cs)
    (rest : List Char) :
    countFrom (first :: word) 0 (cs ++ rest) = countFrom (first :: word) 0 rest := by
  induction cs with
  | nil => rfl
  | cons c cs ih =>
    rw [List.mem_cons, not_or] at h
    rw [List.cons_append, countFrom_of_not_prefix (by simp [h.1]), ih h.2]

end Text

namespace Template

open Text

/-- Every `{{` starts a tag. -/
def OpensTags (cs : List Char) : Prop :=
  ∀ rest, rest <:+ cs → ['{', '{'] <+: rest → (leadingTag? rest).isSome

instance (cs : List Char) : Decidable (OpensTags cs) :=
  decidable_of_iff (∀ rest ∈ cs.tails, ['{', '{'] <+: rest → (leadingTag? rest).isSome) <| by
    simp only [List.mem_tails, OpensTags]

theorem OpensTags.of_suffix {cs rest : List Char} (h : OpensTags cs) (hrest : rest <:+ cs) :
    OpensTags rest :=
  fun more hmore => h more (hmore.trans hrest)

namespace Piece

/-- A tag that starts with a word. -/
def isTagWith (word : List Char) : Piece → Bool
  | run _ => false
  | tag inner => word.isPrefixOf (tag inner).chars

theorem countP_isTagWith_consRun (word : List Char) (c : Char) (ps : List Piece) :
    (consRun c ps).countP (isTagWith word) = ps.countP (isTagWith word) := by
  match ps with
  | [] => rfl
  | run _ :: _ => rfl
  | tag _ :: _ => rfl

/-- The characters that a tag is cut off with. -/
theorem exists_eq_chars_append {cs inner : List Char} (h : leadingTag? cs = some inner) :
    (∀ c ∈ inner, isBrace c = false) ∧ cs = (tag inner).chars ++ cs.drop (inner.length + 4) := by
  obtain ⟨hinner, rest, rfl⟩ := leadingTag?_eq_some_iff.1 h
  exact ⟨hinner, by simp [chars]⟩

variable {word : List Char}

/-- Within a tag a word is found at its start or not at all. -/
theorem countFrom_tag_append {inner rest : List Char} (hinner : ∀ c ∈ inner, isBrace c = false)
    (hfits : '{' :: '{' :: word <+: (tag inner).chars ++ rest →
      '{' :: '{' :: word <+: (tag inner).chars) :
    countFrom ('{' :: '{' :: word) 0 ((tag inner).chars ++ rest) =
      (if isTagWith ('{' :: '{' :: word) (tag inner) then 1 else 0) +
        countFrom ('{' :: '{' :: word) 0 rest := by
  have hbrace := leftBrace_not_mem hinner
  simp only [isTagWith, List.isPrefixOf_iff_prefix]
  split
  · next hprefix =>
    obtain ⟨more, hmore⟩ := hprefix
    have hleft : '{' ∉ more := by
      have hsame : word ++ more = inner ++ ['}', '}'] := by simpa [chars] using hmore
      exact fun hmem => hbrace (hsame ▸ List.mem_append_right _ hmem)
    rw [← hmore, List.append_assoc, countFrom_append_of_prefix (List.cons_ne_nil _ _),
      countFrom_append_of_not_mem hleft]
  · next hprefix =>
    -- The second brace is not the start of an occurrence: what follows it is no left brace.
    have hsecond : ¬ '{' :: '{' :: word <+: '{' :: (inner ++ ['}', '}'] ++ rest) := by
      cases inner with
      | nil => simp
      | cons c inner =>
        have hc : '{' ≠ c := by
          rintro rfl
          exact hbrace (List.mem_cons_self ..)
        simp [hc]
    have hchars : (tag inner).chars ++ rest = '{' :: '{' :: (inner ++ ['}', '}'] ++ rest) := by
      simp [chars]
    rw [hchars, countFrom_of_not_prefix (hchars ▸ mt hfits hprefix),
      countFrom_of_not_prefix hsecond, countFrom_append_of_not_mem hbrace, Nat.zero_add]

theorem countFrom_eq_countP_splitFrom (skip : Nat) {cs : List Char}
    (hstands : ∀ rest, rest <:+ cs → '{' :: '{' :: word <+: rest →
      ∃ inner, leadingTag? rest = some inner ∧ '{' :: '{' :: word <+: (tag inner).chars) :
    countFrom ('{' :: '{' :: word) 0 (cs.drop skip) =
      (splitFrom skip cs).countP (isTagWith ('{' :: '{' :: word)) := by
  induction skip, cs using splitFrom.induct with
  | case1 skip => simp [splitFrom, countFrom]
  | case2 skip c cs ih =>
    rw [List.drop_succ_cons, splitFrom]
    exact ih fun rest hrest => hstands rest (hrest.trans (List.suffix_cons _ _))
  | case3 c cs inner hleading ih =>
    obtain ⟨hinner, hcs⟩ := exists_eq_chars_append hleading
    have hfits : '{' :: '{' :: word <+: c :: cs → '{' :: '{' :: word <+: (tag inner).chars := by
      intro hprefix
      obtain ⟨other, hother, hstart⟩ := hstands _ (List.suffix_refl _) hprefix
      obtain rfl := Option.some.inj (hleading.symm.trans hother)
      exact hstart
    have hrest := ih fun rest hrest => hstands rest (hrest.trans (List.suffix_cons _ _))
    rw [splitFrom_of_leadingTag? hleading, List.countP_cons, ← hrest, List.drop_zero, hcs,
      countFrom_tag_append hinner (hcs ▸ hfits), Nat.add_comm]
    rfl
  | case4 c cs hleading ih =>
    have hprefix : ¬ '{' :: '{' :: word <+: c :: cs := by
      intro hprefix
      obtain ⟨inner, hinner, -⟩ := hstands _ (List.suffix_refl _) hprefix
      rw [hleading] at hinner
      cases hinner
    rw [splitFrom_of_leadingTag?_eq_none hleading, countP_isTagWith_consRun, List.drop_zero,
      countFrom_of_not_prefix hprefix]
    exact ih fun rest hrest => hstands rest (hrest.trans (List.suffix_cons _ _))

/-- A word that stands only where a tag starts with it is found as often as there are such tags. -/
theorem countFrom_eq_countP_split {document : List Char}
    (hstands : ∀ rest, rest <:+ document → '{' :: '{' :: word <+: rest →
      ∃ inner, leadingTag? rest = some inner ∧ '{' :: '{' :: word <+: (tag inner).chars) :
    countFrom ('{' :: '{' :: word) 0 document =
      (split document).countP (isTagWith ('{' :: '{' :: word)) :=
  countFrom_eq_countP_splitFrom 0 hstands

end Piece

theorem isNeverClosed_append {inner : List Char} (h : ∀ c ∈ inner, isBrace c = false)
    (rest : List Char) : isNeverClosed (inner ++ '}' :: '}' :: rest) = hasUnclosedTag rest := by
  induction inner with
  | nil => simp [isNeverClosed]
  | cons c inner ih =>
    rw [List.forall_mem_cons] at h
    have hc : c ≠ '}' := by
      rintro rfl
      cases h.1
    rw [List.cons_append, isNeverClosed, ih h.2]
    exact fun _ heq => absurd heq hc

theorem hasUnclosedTag_tag_append {inner : List Char} (h : ∀ c ∈ inner, isBrace c = false)
    (rest : List Char) :
    hasUnclosedTag ((Piece.tag inner).chars ++ rest) = hasUnclosedTag rest := by
  have hchars : (Piece.tag inner).chars ++ rest = '{' :: '{' :: (inner ++ '}' :: '}' :: rest) := by
    simp [Piece.chars]
  rw [hchars, hasUnclosedTag, isNeverClosed_append h]

theorem hasUnclosedTag_drop (skip : Nat) {cs : List Char} (h : OpensTags cs) :
    hasUnclosedTag (cs.drop skip) = false := by
  induction skip, cs using Piece.splitFrom.induct with
  | case1 skip => simp [hasUnclosedTag]
  | case2 skip c cs ih => exact ih (h.of_suffix (List.suffix_cons _ _))
  | case3 c cs inner hleading ih =>
    obtain ⟨hinner, hcs⟩ := Piece.exists_eq_chars_append hleading
    rw [List.drop_zero, hcs, hasUnclosedTag_tag_append hinner]
    exact ih (h.of_suffix (List.suffix_cons _ _))
  | case4 c cs hleading ih =>
    have hnone : ¬['{', '{'] <+: c :: cs := fun hprefix => by
      simpa [hleading] using h _ (List.suffix_refl _) hprefix
    rw [List.drop_zero, hasUnclosedTag]
    · exact ih (h.of_suffix (List.suffix_cons _ _))
    · rintro more rfl rfl
      exact hnone (by simp)

/-- Where every `{{` starts a tag, none is left open. -/
theorem hasUnclosedTag_eq_false {cs : List Char} (h : OpensTags cs) : hasUnclosedTag cs = false :=
  hasUnclosedTag_drop 0 h

end Template

end MachineConfig
