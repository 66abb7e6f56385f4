import MachineConfig.Proofs.Template.Concatenation

/-!
Another text in the place of a tag. A text without braces that makes no new tag with what is before
and behind it leaves all other tags as they are (`Piece.exists_split_replaced`).
-/

namespace MachineConfig.Template

namespace Piece

variable {inner s : List Char} {ps qs : List Piece}

theorem chars_ne_nil_of_mem_splitFrom {skip : Nat} {cs : List Char} {p : Piece}
    (h : p ∈ splitFrom skip cs) : p.chars ≠ [] := by
  induction skip, cs using splitFrom.induct with
  | case1 skip => simp [splitFrom] at h
  | case2 skip c cs ih => exact ih (by simpa [splitFrom] using h)
  | case3 c cs inner hleading ih =>
    rw [splitFrom_of_leadingTag? hleading] at h
    rcases List.mem_cons.mp h with rfl | h
    · exact List.cons_ne_nil _ _
    · exact ih h
  | case4 c cs hleading ih =>
    rw [splitFrom_of_leadingTag?_eq_none hleading] at h
    unfold consRun at h
    split at h
    next ds ps hsplit =>
      rcases List.mem_cons.mp h with rfl | h
      · exact List.cons_ne_nil _ _
      · exact ih (by rw [hsplit]; exact List.mem_cons_of_mem _ h)
    next =>
      rcases List.mem_cons.mp h with rfl | h
      · exact List.cons_ne_nil _ _
      · exact ih h

theorem straddles_iff {a b : List Char} : Straddles a b ↔
    ∃ i : Fin (split (a ++ b)).length, (split (a ++ b))[i] ≠ run (split (a ++ b))[i].chars ∧
      (spelled ((split (a ++ b)).take i)).length < a.length ∧
      a.length < (spelled ((split (a ++ b)).take (i + 1))).length := by
  constructor
  · rintro ⟨ps, inner, qs, hsplit, hstart, hstop⟩
    have hlength : ps.length < (split (a ++ b)).length := by simp [hsplit]
    refine ⟨⟨ps.length, hlength⟩, ?_⟩
    simp only [hsplit, Fin.getElem_fin, List.getElem_append_right (Nat.le_refl _), Nat.sub_self,
      List.getElem_cons_zero, List.take_left, List.take_length_add_append]
    exact ⟨nofun, hstart, by simpa [spelled_append] using hstop⟩
  · rintro ⟨i, hrun, hstart, hstop⟩
    rw [Fin.getElem_fin] at hrun
    rw [List.take_add_one, List.getElem?_eq_getElem i.isLt, spelled_append] at hstop
    have hsplit := (List.take_append_drop i.val (split (a ++ b))).symm
    rw [List.drop_eq_getElem_cons i.isLt] at hsplit
    generalize (split (a ++ b))[i.val] = p at hrun hstop hsplit
    cases p with
    | run cs => exact absurd rfl hrun
    | tag inner => exact ⟨_, inner, _, hsplit, hstart, by simpa using hstop⟩

instance (a b : List Char) : Decidable (Straddles a b) := decidable_of_iff' _ straddles_iff

/-- No tag of a document goes across the start of another. -/
theorem not_straddles_tag (inner a b : List Char) : ¬Straddles a ((tag inner).chars ++ b) := by
  rintro ⟨ps, other, qs, hsplit, hbefore, hafter⟩
  obtain ⟨hother, rest, hdocument⟩ := exists_split_eq_append_tag_iff.mp ⟨ps, qs, hsplit, rfl⟩
  rcases List.append_eq_append_iff.mp hdocument with ⟨more, hps, -⟩ | ⟨more, ha, hmore⟩
  · have := congrArg List.length hps
    simp only [List.length_append] at this
    omega
  · have hne : more ≠ [] := by
      rintro rfl
      simp [ha] at hbefore
    have hlength := length_chars_le_of_append_eq hother hne hmore
    have := congrArg List.length ha
    simp only [List.length_append] at this
    omega

/-- Pieces part at a tag in one way only, if the texts before it are to be the same. -/
theorem eq_of_append_tag_eq {ps' qs' : List Piece}
    (h : ps ++ tag inner :: qs = ps' ++ tag inner :: qs') (hsame : spelled ps = spelled ps') :
    ps = ps' ∧ qs = qs' := by
  induction ps generalizing ps' with
  | nil =>
    cases ps' with
    | nil => exact ⟨rfl, (List.cons.inj h).2⟩
    | cons p ps' =>
      obtain ⟨rfl, -⟩ := List.cons.inj h
      simp [chars] at hsame
  | cons p ps ih =>
    cases ps' with
    | nil =>
      obtain ⟨rfl, -⟩ := List.cons.inj h
      simp [chars] at hsame
    | cons p' ps' =>
      obtain ⟨rfl, hrest⟩ := List.cons.inj h
      obtain ⟨rfl, rfl⟩ := ih hrest (by simpa using hsame)
      exact ⟨rfl, rfl⟩

/-- What is before a tag and what is behind it are cut as they are in the whole. -/
theorem split_around_tag {document : List Char} (h : split document = ps ++ tag inner :: qs) :
    split (spelled ps) = ps ∧ split (spelled qs) = qs := by
  have hmem : tag inner ∈ split document := by simp [h]
  have hinner := isBrace_of_tag_mem_splitFrom hmem
  have hdocument : document = spelled ps ++ ((tag inner).chars ++ spelled qs) := by
    rw [← spelled_split document, h, spelled_append, spelled_cons]
  have hjoined := joined_split (not_straddles_tag inner (spelled ps) (spelled qs))
  rw [← hdocument, split_tag_append hinner] at hjoined
  have hsplit : split document = split (spelled ps) ++ tag inner :: split (spelled qs) := by
    generalize split (spelled ps) = ps' at hjoined
    generalize split document = whole at hjoined
    cases hjoined
    rfl
  obtain ⟨hps, hqs⟩ := eq_of_append_tag_eq (h.symm.trans hsplit) (spelled_split _).symm
  exact ⟨hps.symm, hqs.symm⟩

theorem leftBrace_not_mem_of_forall (hs : ∀ c ∈ s, isBrace c = false) : '{' ∉ s := fun hmem => by
  simpa [isBrace] using hs _ hmem

/-- No tag starts in a text without braces. -/
theorem not_straddles_of_forall (hs : ∀ c ∈ s, isBrace c = false) (b : List Char) :
    ¬Straddles s b := by
  rintro ⟨ps, inner, qs, hsplit, hbefore, -⟩
  obtain ⟨-, rest, hdocument⟩ := exists_split_eq_append_tag_iff.mp ⟨ps, qs, hsplit, rfl⟩
  rcases List.append_eq_append_iff.mp hdocument with ⟨more, hps, -⟩ | ⟨more, rfl, hmore⟩
  · simp only [hps, List.length_append] at hbefore
    omega
  · cases more with
    | nil => simp at hbefore
    | cons c more =>
      obtain ⟨rfl, -⟩ := List.cons.inj hmore
      exact leftBrace_not_mem_of_forall hs (by simp)

theorem split_of_forall (hs : ∀ c ∈ s, isBrace c = false) (hne : s ≠ []) : split s = [run s] := by
  induction s with
  | nil => exact absurd rfl hne
  | cons c s ih =>
    have hleading : leadingTag? (c :: s) = none := by
      refine Option.eq_none_iff_forall_ne_some.mpr fun inner htag => ?_
      obtain ⟨-, rest, heq⟩ := leadingTag?_eq_some_iff.mp htag
      refine leftBrace_not_mem_of_forall hs ?_
      rw [heq]
      exact List.mem_cons_self
    rw [split, splitFrom_of_leadingTag?_eq_none hleading]
    cases s with
    | nil => rfl
    | cons d s =>
      rw [List.forall_mem_cons] at hs
      have hrest := ih hs.2 (List.cons_ne_nil d s)
      rw [split] at hrest
      rw [hrest, consRun]

/-- Where a text without braces takes the place of a tag and makes no new one, the pieces are the
same but for those runs which that text is now part of. -/
theorem exists_split_replaced {document : List Char} (h : split document = ps ++ tag inner :: qs)
    (hs : ∀ c ∈ s, isBrace c = false) (hcut : ¬Straddles (spelled ps) (s ++ spelled qs)) :
    ∃ ps' qs', ∃ lefts rights news : List (List Char),
      ps = ps' ++ lefts.map run ∧ qs = rights.map run ++ qs' ∧
      split (spelled ps ++ (s ++ spelled qs)) = ps' ++ news.map run ++ qs' ∧
      news.flatten = lefts.flatten ++ s ++ rights.flatten := by
  obtain ⟨hps, hqs⟩ := split_around_tag h
  have hwhole := joined_split hcut
  have hbehind := joined_split (not_straddles_of_forall hs (spelled qs))
  rw [hps] at hwhole
  rw [hqs] at hbehind
  generalize split (spelled ps ++ (s ++ spelled qs)) = whole at hwhole
  generalize split (s ++ spelled qs) = behind at hwhole hbehind
  by_cases hne : s = []
  · subst hne
    have hsame : behind = qs := by
      generalize hnil : split [] = none at hbehind
      cases hbehind with
      | apart => rw [← hnil]; rfl
      | together => simp [split, splitFrom] at hnil
    subst hsame
    cases hwhole with
    | apart => exact ⟨ps, behind, [], [], [], by simp, by simp, by simp, by simp⟩
    | @together ps' l r qs' =>
      exact ⟨ps', qs', [l], [r], [l ++ r], by simp, by simp, by simp, by simp⟩
  · rw [split_of_forall hs hne] at hbehind
    generalize hrun : [run s] = runs at hbehind
    cases hbehind with
    | apart =>
      subst hrun
      generalize hbehind : [run s] ++ qs = behind at hwhole
      cases hwhole with
      | apart =>
        subst hbehind
        exact ⟨ps, qs, [], [], [s], by simp, by simp, by simp, by simp⟩
      | @together ps' l r qs' =>
        simp only [List.cons_append, List.nil_append, List.cons.injEq, run.injEq] at hbehind
        obtain ⟨rfl, rfl⟩ := hbehind
        exact ⟨ps', qs, [l], [], [l ++ s], by simp, by simp, by simp, by simp⟩
    | @together ps'' c r qs' =>
      obtain ⟨rfl, rfl⟩ : ps'' = [] ∧ c = s := by
        cases ps'' with
        | nil => simpa [eq_comm] using hrun
        | cons p ps'' => simp at hrun
      generalize hbehind : [] ++ run (c ++ r) :: qs' = behind at hwhole
      cases hwhole with
      | apart =>
        subst hbehind
        exact ⟨ps, qs', [], [r], [c ++ r], by simp, by simp, by simp, by simp⟩
      | @together ps' l x qs'' =>
        simp only [List.nil_append, List.cons.injEq, run.injEq] at hbehind
        obtain ⟨rfl, rfl⟩ := hbehind
        exact ⟨ps', qs', [l], [r], [l ++ (c ++ r)], by simp, by simp, by simp, by simp⟩

end Piece

end MachineConfig.Template
