import MachineConfig.Proofs.Template.Partition
import MachineConfig.Proofs.Text.EncodingLemmas
import MachineConfig.Template.Render

/-!
Documents without tags. Rendering leaves them as they are (`Renderer.render_of_isUntagged`), and
reading a file, which unifies line ends, makes no tag (`isUntagged_unifyNewlines`).
-/

namespace MachineConfig.Template

/-- No tag stands anywhere in a text. -/
def IsUntagged (cs : List Char) : Prop := ∀ start stop, ¬IsTagAt cs start stop

theorem isTagAt_append {inner : List Char} (h : ∀ c ∈ inner, isBrace c = false)
    (before after : List Char) :
    IsTagAt (before ++ ((Piece.tag inner).chars ++ after)) before.length
      (before.length + (Piece.tag inner).chars.length) :=
  ⟨by simp, inner, h, slice_append before (Piece.tag inner).chars after⟩

theorem IsTagAt.exists_mem_split {cs : List Char} {start stop : Nat} (h : IsTagAt cs start stop) :
    ∃ inner, Piece.tag inner ∈ Piece.split cs := by
  obtain ⟨inner, hinner, -, hdrop⟩ := h.exists_inner
  refine ⟨inner, Piece.tag_mem_split_iff.mpr ⟨hinner, cs.take start, cs.drop stop, ?_⟩⟩
  rw [List.append_assoc, ← hdrop, List.take_append_drop]

theorem exists_isTagAt_of_holdsTag {cs : List Char} (h : Piece.holdsTag cs = true) :
    ∃ start stop, IsTagAt cs start stop := by
  induction cs with
  | nil => cases h
  | cons c cs ih =>
    rw [Piece.holdsTag, Bool.or_eq_true, Option.isSome_iff_exists] at h
    rcases h with ⟨inner, htag⟩ | h
    · obtain ⟨hinner, after, hcs⟩ := leadingTag?_eq_some_iff.mp htag
      have := isTagAt_append hinner [] after
      rw [hcs]
      exact ⟨_, _, by simpa [Piece.chars] using this⟩
    · obtain ⟨start, stop, hstop, htag⟩ := ih h
      exact ⟨start + 1, stop + 1, Nat.succ_le_succ hstop, by simpa [slice] using htag⟩

theorem split_of_holdsTag_eq_false {cs : List Char} (hcs : cs ≠ [])
    (h : Piece.holdsTag cs = false) : Piece.split cs = [.run cs] := by
  simpa [Piece.chars] using Piece.split_spelled (.run hcs h (by simp) .nil)

theorem isUntagged_iff {cs : List Char} : IsUntagged cs ↔ Piece.holdsTag cs = false := by
  constructor
  · intro h
    refine Bool.eq_false_iff.mpr fun hholds => ?_
    obtain ⟨start, stop, htag⟩ := exists_isTagAt_of_holdsTag hholds
    exact h start stop htag
  · intro h start stop htag
    obtain ⟨inner, hmem⟩ := htag.exists_mem_split
    by_cases hcs : cs = []
    · rw [hcs] at hmem
      cases hmem
    · rw [split_of_holdsTag_eq_false hcs h] at hmem
      simp at hmem

instance (cs : List Char) : Decidable (IsUntagged cs) := decidable_of_iff' _ isUntagged_iff

/-- A tag in a text with unified line ends was a tag before, perhaps with other line ends in it. -/
theorem isUntagged_unifyNewlines {cs : List Char} (h : IsUntagged cs) :
    IsUntagged (Text.unifyNewlines cs) := by
  intro start stop htag
  obtain ⟨inner, hinner, -, hdrop⟩ := htag.exists_inner
  have hwhole : Text.unifyNewlines cs = (Text.unifyNewlines cs).take start ++
      '{' :: ('{' :: (inner ++ '}' :: ('}' :: (Text.unifyNewlines cs).drop stop))) :=
    (List.take_append_drop start _).symm.trans (by rw [hdrop]; simp [Piece.chars])
  -- The four braces come from braces, and what is between them holds none.
  obtain ⟨front, rest, rfl, -, hrest⟩ := Text.exists_of_unifyNewlines_eq_append (by decide) hwhole
  obtain ⟨rest, rfl, hrest⟩ := Text.exists_of_unifyNewlines_eq_cons (by decide) hrest
  obtain ⟨found, rest, rfl, hfound, hrest⟩ :=
    Text.exists_of_unifyNewlines_eq_append (by decide) hrest
  obtain ⟨rest, rfl, -⟩ := Text.exists_of_unifyNewlines_eq_cons (by decide) hrest
  have hfree : ∀ c ∈ found, isBrace c = false := by
    intro c hc
    refine Bool.eq_false_iff.mpr fun hbrace => ?_
    have hreturn : c ≠ '\r' := by
      rintro rfl
      cases hbrace
    have hmem := Text.mem_unifyNewlines hreturn hc
    rw [hfound] at hmem
    simp [hinner c hmem] at hbrace
  exact h _ _ (by simpa [Piece.chars] using isTagAt_append hfree front rest)

namespace Renderer

/-- Rendering leaves a document without tags as it is. -/
theorem render_of_isUntagged (r : Renderer) {document : String}
    (h : IsUntagged document.toList) : r.render document = ⟨document, [], []⟩ := by
  by_cases hempty : document.toList = []
  · obtain rfl := String.toList_eq_nil_iff.mp hempty
    have htree : Tree.ofDocument "" = ⟨[], []⟩ := rfl
    rw [render, evaluate, htree, run, run]
    rfl
  · have hsplit := split_of_holdsTag_eq_false hempty (isUntagged_iff.mp h)
    have htree : Tree.ofDocument document = ⟨[.text document], []⟩ := by
      rw [Tree.ofDocument, Token.scan, hsplit]
      simp [Token.ofPieces, Piece.chars, Progress.step, Role.ofPiece, Progress.add,
        Progress.finish, Progress.addAll, unwind]
    rw [render, evaluate, htree, run, run, run]
    have hunresolved : unresolvedTags document = [] := by
      rw [unresolvedTags, hsplit]
      rfl
    simp [Output.text, Output.emit, hunresolved]

end Renderer

end MachineConfig.Template
