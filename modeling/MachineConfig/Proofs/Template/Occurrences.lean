import MachineConfig.Proofs.Template.PieceLemmas

/-!
Where tags stand in a text. Two tags never overlap (`Piece.length_chars_le_of_append_eq`), so a text
is cut at every place where a tag stands in it, whatever braces are around it, and nowhere else
(`Piece.exists_split_eq_append_tag_iff`).
-/

namespace MachineConfig.Template

namespace Piece

theorem leadingTag?_chars_append {inner : List Char} (h : ∀ c ∈ inner, isBrace c = false)
    (rest : List Char) : leadingTag? ((tag inner).chars ++ rest) = some inner :=
  leadingTag?_eq_some_iff.mpr ⟨h, rest, by simp [chars]⟩

theorem splitFrom_of_leadingTag? {c : Char} {cs inner : List Char}
    (h : leadingTag? (c :: cs) = some inner) :
    splitFrom 0 (c :: cs) = tag inner :: splitFrom (inner.length + 3) cs := by
  rw [splitFrom, h]

theorem splitFrom_of_leadingTag?_eq_none {c : Char} {cs : List Char}
    (h : leadingTag? (c :: cs) = none) : splitFrom 0 (c :: cs) = consRun c (splitFrom 0 cs) := by
  rw [splitFrom, h]

theorem consRun_append_tag (c : Char) (ps : List Piece) (inner : List Char) (qs : List Piece) :
    consRun c (ps ++ tag inner :: qs) = consRun c ps ++ tag inner :: qs := by
  match ps with
  | [] => rfl
  | run _ :: _ => rfl
  | tag _ :: _ => rfl

theorem tag_mem_consRun {c : Char} {inner : List Char} {ps : List Piece} :
    tag inner ∈ consRun c ps ↔ tag inner ∈ ps := by
  match ps with
  | [] => simp [consRun]
  | run _ :: _ => simp [consRun]
  | tag _ :: _ => simp [consRun]

theorem isBrace_of_tag_mem_splitFrom {skip : Nat} {cs inner : List Char}
    (h : tag inner ∈ splitFrom skip cs) : ∀ c ∈ inner, isBrace c = false := by
  induction skip, cs using splitFrom.induct with
  | case1 skip => simp [splitFrom] at h
  | case2 skip c cs ih => exact ih (by simpa [splitFrom] using h)
  | case3 c cs other hleading ih =>
    rw [splitFrom_of_leadingTag? hleading, List.mem_cons, tag.injEq] at h
    rcases h with rfl | h
    · exact (leadingTag?_eq_some_iff.mp hleading).1
    · exact ih h
  | case4 c cs hleading ih =>
    rw [splitFrom_of_leadingTag?_eq_none hleading, tag_mem_consRun] at h
    exact ih h

theorem leftBrace_not_mem {inner : List Char} (h : ∀ c ∈ inner, isBrace c = false) :
    '{' ∉ inner ++ ['}', '}'] := by
  rw [List.mem_append, not_or]
  refine ⟨fun hmem => ?_, by simp⟩
  simpa [isBrace] using h _ hmem

/-- Two tags at different places of a text do not overlap. -/
theorem length_chars_le_of_append_eq {inner other before after rest : List Char}
    (hinner : ∀ c ∈ inner, isBrace c = false) (hbefore : before ≠ [])
    (h : (tag inner).chars ++ rest = before ++ ((tag other).chars ++ after)) :
    (tag inner).chars.length ≤ before.length := by
  refine Classical.byContradiction fun hlt => ?_
  rcases List.append_eq_append_iff.mp h with ⟨tail, rfl, -⟩ | ⟨tail, heq, htail⟩
  · simp at hlt
  -- One of the two opening braces of the second tag lies behind those of the first one.
  match before, tail with
  | [], _ => exact hbefore rfl
  | before, [] => simp [heq] at hlt
  | [a], [b] => simp [chars] at heq
  | [a], b :: c :: tail =>
    simp only [chars, List.cons_append, List.cons.injEq, List.nil_append] at heq htail
    refine leftBrace_not_mem hinner ?_
    rw [heq.2.2, ← htail.2.1]
    simp
  | a :: b :: before, c :: tail =>
    simp only [chars, List.cons_append, List.cons.injEq] at heq htail
    refine leftBrace_not_mem hinner ?_
    rw [heq.2.2, ← htail.1]
    simp

theorem exists_splitFrom_eq_append {inner : List Char} (hinner : ∀ c ∈ inner, isBrace c = false)
    {skip : Nat} {cs before after : List Char} (hskip : skip ≤ before.length)
    (hcs : cs = before ++ ((tag inner).chars ++ after)) :
    ∃ ps qs, splitFrom skip cs = ps ++ tag inner :: qs ∧ spelled ps = before.drop skip := by
  induction skip, cs using splitFrom.induct generalizing before with
  | case1 skip => simp [chars] at hcs
  | case2 skip c cs ih =>
    cases before with
    | nil => simp at hskip
    | cons b before =>
      rw [List.cons_append, List.cons.injEq] at hcs
      simpa [splitFrom] using ih (by simpa using hskip) hcs.2
  | case3 c cs other hleading ih =>
    rw [splitFrom_of_leadingTag? hleading]
    cases before with
    | nil =>
      rw [hcs, List.nil_append, leadingTag?_chars_append hinner] at hleading
      obtain rfl := Option.some.inj hleading
      exact ⟨[], _, rfl, rfl⟩
    | cons b before =>
      obtain ⟨hother, rest, hrest⟩ := leadingTag?_eq_some_iff.mp hleading
      have hfirst : (tag other).chars ++ rest = (b :: before) ++ ((tag inner).chars ++ after) := by
        rw [← hcs, hrest]
        simp [chars]
      have hlength := length_chars_le_of_append_eq hother (List.cons_ne_nil _ _) hfirst
      obtain ⟨more, hmore⟩ : (tag other).chars <+: b :: before :=
        List.prefix_of_prefix_length_le ⟨rest, hfirst⟩ (List.prefix_append _ _) hlength
      have hdrop : before.drop (other.length + 3) = more := by
        have := congrArg (List.drop (other.length + 4)) hmore
        simpa [chars] using this.symm
      have hroom : other.length + 3 ≤ before.length := by
        simp only [chars, List.length_append, List.length_cons, List.length_nil] at hlength
        omega
      obtain ⟨ps, qs, hsplit, hspelled⟩ := ih hroom (List.cons.inj hcs).2
      refine ⟨tag other :: ps, qs, by rw [hsplit]; rfl, ?_⟩
      rw [spelled_cons, hspelled, hdrop, hmore, List.drop_zero]
  | case4 c cs hleading ih =>
    rw [splitFrom_of_leadingTag?_eq_none hleading]
    cases before with
    | nil =>
      rw [hcs, List.nil_append, leadingTag?_chars_append hinner] at hleading
      cases hleading
    | cons b before =>
      rw [List.cons_append, List.cons.injEq] at hcs
      obtain ⟨ps, qs, hsplit, hspelled⟩ := ih (Nat.zero_le _) hcs.2
      refine ⟨consRun c ps, qs, by rw [hsplit, consRun_append_tag], ?_⟩
      rw [spelled_consRun, hspelled, hcs.1, List.drop_zero, List.drop_zero]

/-- A text is cut at every place where a tag stands in it, and nowhere else. -/
theorem exists_split_eq_append_tag_iff {document before inner : List Char} :
    (∃ ps qs, split document = ps ++ tag inner :: qs ∧ spelled ps = before) ↔
      (∀ c ∈ inner, isBrace c = false) ∧
        ∃ after, document = before ++ ((tag inner).chars ++ after) := by
  constructor
  · rintro ⟨ps, qs, hsplit, rfl⟩
    have hmem : tag inner ∈ splitFrom 0 document := by
      rw [← split, hsplit]
      simp
    refine ⟨isBrace_of_tag_mem_splitFrom hmem, spelled qs, ?_⟩
    rw [← spelled_cons, ← spelled_append, ← hsplit, spelled_split]
  · rintro ⟨hinner, after, rfl⟩
    obtain ⟨ps, qs, hsplit, hspelled⟩ := exists_splitFrom_eq_append hinner (Nat.zero_le _) rfl
    exact ⟨ps, qs, hsplit, by rw [hspelled, List.drop_zero]⟩

theorem tag_mem_split_iff {document inner : List Char} :
    tag inner ∈ split document ↔
      (∀ c ∈ inner, isBrace c = false) ∧ (tag inner).chars <:+: document := by
  rw [List.mem_iff_append]
  constructor
  · rintro ⟨ps, qs, hsplit⟩
    obtain ⟨hinner, after, rfl⟩ := exists_split_eq_append_tag_iff.mp ⟨ps, qs, hsplit, rfl⟩
    exact ⟨hinner, spelled ps, after, by simp⟩
  · rintro ⟨hinner, before, after, rfl⟩
    obtain ⟨ps, qs, hsplit, -⟩ := exists_split_eq_append_tag_iff.mpr
      ⟨hinner, after, List.append_assoc before _ after⟩
    exact ⟨ps, qs, hsplit⟩

end Piece

end MachineConfig.Template
