import MachineConfig.Template.Token
import Mathlib.Data.List.TakeDrop
import Mathlib.Data.List.TakeWhile

/-!
Cutting a document into pieces. The pieces spell the document (`Piece.spelled_split`), and pieces
that are kept apart by tags are what their own text is cut into (`Piece.split_spelled`).
-/

namespace MachineConfig.Template

theorem leadingTag?_eq_some_iff {cs inner : List Char} :
    leadingTag? cs = some inner ↔
      (∀ c ∈ inner, isBrace c = false) ∧
        ∃ rest, cs = '{' :: '{' :: inner ++ '}' :: '}' :: rest := by
  constructor
  · intro h
    unfold leadingTag? at h
    split at h
    · rename_i cs
      split at h
      · rename_i inner' rest hspan
        cases h
        rw [List.span_eq_takeWhile_dropWhile, Prod.mk.injEq] at hspan
        obtain ⟨htake, hdrop⟩ := hspan
        refine ⟨fun c hc => ?_, rest, ?_⟩
        · rw [← htake] at hc
          simpa using List.mem_takeWhile_imp hc
        · rw [List.cons_append, List.cons_append, ← htake, ← hdrop,
            List.takeWhile_append_dropWhile]
      · cases h
    · cases h
  · rintro ⟨hinner, rest, rfl⟩
    have free : ∀ c ∈ inner, (!isBrace c) = true := by simpa using hinner
    have stops : isBrace '}' = true := rfl
    simp [leadingTag?, List.span_eq_takeWhile_dropWhile, List.takeWhile_append_of_pos free,
      List.dropWhile_append_of_pos free, stops]

/-- A tag that comes later completes no tag that starts before it. -/
theorem leadingTag?_append_eq_none {cs rest : List Char} (hcs : cs ≠ [])
    (hnone : leadingTag? cs = none) (hrest : rest = [] ∨ ∃ more, rest = '{' :: '{' :: more) :
    leadingTag? (cs ++ rest) = none := by
  rcases hrest with rfl | ⟨more, rfl⟩
  · rwa [List.append_nil]
  refine Option.eq_none_iff_forall_ne_some.mpr fun inner htag => ?_
  obtain ⟨hfree, after, heq⟩ := leadingTag?_eq_some_iff.mp htag
  have hfree' : '{' ∉ inner := fun hmem => by simpa [isBrace] using hfree _ hmem
  have hself : ∀ after, cs ≠ '{' :: '{' :: inner ++ '}' :: '}' :: after := by
    rintro after rfl
    rw [leadingTag?_eq_some_iff.mpr ⟨hfree, after, rfl⟩] at hnone
    cases hnone
  -- The tag would end inside `rest`, so that the braces of `rest` lie inside the tag.
  have heq' : cs ++ '{' :: '{' :: more = ('{' :: '{' :: inner ++ ['}', '}']) ++ after := by
    simpa using heq
  rcases List.append_eq_append_iff.mp heq' with ⟨tail, htail, hmore⟩ | ⟨tail, rfl, -⟩
  · match cs, tail with
    | cs, [] => exact hself [] (by simpa using htail.symm)
    | [], _ => exact hcs rfl
    | [a], t :: tail =>
      simp only [List.cons_append, List.nil_append, List.cons.injEq] at htail hmore
      obtain ⟨-, rfl, rfl⟩ := htail
      cases inner with
      | nil => simp at hmore
      | cons c inner =>
        simp only [List.cons_append, List.cons.injEq, true_and] at hmore
        exact hfree' (by simp [← hmore.1])
    | a :: b :: cs, t :: tail =>
      simp only [List.cons_append, List.cons.injEq] at htail hmore
      have hmem : '{' ∈ inner ++ ['}', '}'] := by
        rw [htail.2.2, hmore.1]
        simp
      simp [hfree'] at hmem
  · exact hself tail (by simp)

namespace Piece

/-- The characters of consecutive pieces. -/
def spelled (ps : List Piece) : List Char := ps.flatMap chars

@[simp] theorem spelled_nil : spelled [] = [] := rfl

@[simp] theorem spelled_cons (p : Piece) (ps : List Piece) :
    spelled (p :: ps) = p.chars ++ spelled ps := List.flatMap_cons

@[simp] theorem spelled_append (ps qs : List Piece) :
    spelled (ps ++ qs) = spelled ps ++ spelled qs := List.flatMap_append

theorem spelled_consRun (c : Char) (ps : List Piece) :
    spelled (consRun c ps) = c :: spelled ps := by
  unfold consRun
  split <;> rfl

theorem spelled_splitFrom (skip : Nat) (cs : List Char) :
    spelled (splitFrom skip cs) = cs.drop skip := by
  induction skip, cs using splitFrom.induct with
  | case1 skip => simp [splitFrom]
  | case2 skip c cs ih => simpa [splitFrom] using ih
  | case3 c cs inner h ih =>
    obtain ⟨-, rest, hcs⟩ := leadingTag?_eq_some_iff.mp h
    have hdrop : cs.drop (inner.length + 3) = rest := by
      have := congrArg (List.drop (inner.length + 4)) hcs
      simpa using this
    rw [splitFrom, h, hcs]
    rw [spelled_cons, ih, hdrop]
    simp [chars]
  | case4 c cs h ih => rw [splitFrom, h, spelled_consRun, ih]; rfl

/-- The pieces of a document spell it. -/
theorem spelled_split (document : List Char) : spelled (split document) = document :=
  spelled_splitFrom 0 document

/-- Some tag starts in a text. -/
def holdsTag : List Char → Bool
  | [] => false
  | c :: cs => (leadingTag? (c :: cs)).isSome || holdsTag cs

theorem holdsTag_cons {c : Char} {cs : List Char} (h : holdsTag (c :: cs) = false) :
    leadingTag? (c :: cs) = none ∧ holdsTag cs = false := by
  simpa [holdsTag, -Option.isSome_eq_false_iff, Option.isSome_eq_false_iff] using h

/-- Pieces kept apart by tags: the tags hold no braces, the runs are not empty and hold no tag, and
no run is next to another. -/
inductive Separated : List Piece → Prop where
  | nil : Separated []
  | tag {inner ps} : (∀ c ∈ inner, isBrace c = false) → Separated ps → Separated (tag inner :: ps)
  | run {cs ps} : cs ≠ [] → holdsTag cs = false → (∀ ds, ps.head? ≠ some (run ds)) →
      Separated ps → Separated (run cs :: ps)

theorem consRun_of_head {ps : List Piece} (c : Char) (h : ∀ ds, ps.head? ≠ some (run ds)) :
    consRun c ps = run [c] :: ps := by
  unfold consRun
  split
  · rename_i ds _
    exact (h ds rfl).elim
  · rfl

theorem splitFrom_length_append (cs rest : List Char) :
    splitFrom cs.length (cs ++ rest) = split rest := by
  induction cs with
  | nil => rfl
  | cons c cs ih => simpa [splitFrom] using ih

theorem split_tag_append {inner : List Char} (h : ∀ c ∈ inner, isBrace c = false)
    (rest : List Char) : split ((tag inner).chars ++ rest) = tag inner :: split rest := by
  have hleading : leadingTag? ((tag inner).chars ++ rest) = some inner :=
    leadingTag?_eq_some_iff.mpr ⟨h, rest, by simp [chars]⟩
  have hchars : (tag inner).chars ++ rest = '{' :: (('{' :: inner ++ ['}', '}']) ++ rest) := by
    simp [chars]
  rw [hchars] at hleading
  rw [hchars, split, splitFrom, hleading]
  simp only [List.cons.injEq, true_and]
  rw [← splitFrom_length_append ('{' :: inner ++ ['}', '}']) rest]
  simp

theorem split_run_append {cs rest : List Char} (hcs : cs ≠ []) (htag : holdsTag cs = false)
    (hrest : rest = [] ∨ ∃ more, rest = '{' :: '{' :: more)
    (hhead : ∀ ds, (split rest).head? ≠ some (run ds)) :
    split (cs ++ rest) = run cs :: split rest := by
  induction cs with
  | nil => exact (hcs rfl).elim
  | cons c cs ih =>
    obtain ⟨hnone, htag⟩ := holdsTag_cons htag
    have hleading : leadingTag? (c :: (cs ++ rest)) = none :=
      leadingTag?_append_eq_none (List.cons_ne_nil c cs) hnone hrest
    have hstep : split (c :: cs ++ rest) = consRun c (split (cs ++ rest)) := by
      rw [List.cons_append, split, splitFrom, hleading]
      rfl
    rw [hstep]
    cases cs with
    | nil => exact consRun_of_head c hhead
    | cons d cs => rw [ih (List.cons_ne_nil d cs) htag, consRun]

/-- Pieces that are kept apart are what their text is cut into. -/
theorem split_spelled {ps : List Piece} (h : Separated ps) : split (spelled ps) = ps := by
  induction h with
  | nil => rfl
  | tag hinner _ ih =>
    rw [spelled_cons, split_tag_append hinner, ih]
  | @run cs ps hcs htag hhead h ih =>
    have hopens : spelled ps = [] ∨ ∃ more, spelled ps = '{' :: '{' :: more := by
      cases h with
      | nil => exact .inl rfl
      | @tag inner ps => exact .inr ⟨inner ++ ['}', '}'] ++ spelled ps, by simp [chars]⟩
      | @run ds => exact (hhead ds rfl).elim
    have hcut := split_run_append hcs htag hopens (by rw [ih]; exact hhead)
    rw [ih] at hcut
    exact hcut

end Piece

end MachineConfig.Template
