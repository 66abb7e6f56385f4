import MachineConfig.Proofs.Template.Concatenation
import MachineConfig.Proofs.Template.Limits

/-!
Rendering two documents as one. The nodes of the whole mean those of the first and then those of
the second (`Renderer.meanings_of_joined`). What the first leaves to the second, warnings and counts
of blocks, does not show in its text as long as no limit is reached, and so the texts come one after
the other (`Renderer.render_append`).
-/

namespace MachineConfig.Template

theorem Meaning.const_andThen_const (s t : String) : (const s).andThen (const t) = const (s ++ t) :=
  rfl

namespace Renderer

variable (r : Renderer) (scope : Scope)

theorem meanings_append (ns ms : List Node) :
    r.meanings scope (ns ++ ms) = (r.meanings scope ns).andThen (r.meanings scope ms) := by
  induction ns with
  | nil => rw [List.nil_append, meanings, Meaning.const_empty_andThen]
  | cons n ns ih => rw [List.cons_append, meanings, meanings, ih, Meaning.andThen_assoc]

theorem meanings_text_cons (value : String) (ns : List Node) :
    r.meanings scope (.text value :: ns) = (Meaning.const value).andThen (r.meanings scope ns) := by
  rw [meanings, meaning]

/-- Whether two texts have become one does not matter. -/
theorem meanings_of_joined {ns ms whole : List Node} (h : Node.Joined ns ms whole) :
    r.meanings scope whole = (r.meanings scope ns).andThen (r.meanings scope ms) := by
  cases h with
  | apart => exact r.meanings_append scope ns ms
  | @together ns u v ms =>
    have hlast : r.meanings scope [.text u] = Meaning.const u := by
      rw [meanings_text_cons, meanings, Meaning.const_andThen_const, String.append_empty]
    rw [meanings_append, meanings_append, hlast, meanings_text_cons, meanings_text_cons,
      Meaning.andThen_assoc, ← Meaning.andThen_assoc (.const u), Meaning.const_andThen_const]

/-- Nodes that come after others give the same as by themselves where no limit is reached, however
many blocks the others expanded and whatever warnings there are. -/
theorem text_andThen_eq {ns ms : List Node} {ws : List String} (us vs : List String)
    (hwithin : ((r.meanings scope ns).andThen (r.meanings scope ms)
      { warnings := ws }).2.IsWithin r.maxBlocks) :
    ((r.meanings scope ns).andThen (r.meanings scope ms) { warnings := ws }).1 =
      (r.meanings scope ns { warnings := us }).1 ++ (r.meanings scope ms { warnings := vs }).1 := by
  have first := r.follows_meanings r.maxBlocks ns scope
  have second := r.follows_meanings r.maxBlocks ms scope
  have hfirst : (r.meanings scope ns { warnings := ws }).2.IsWithin r.maxBlocks :=
    hwithin.of_subset (second.warnings_subset _)
  have hns := first.text_eq (.of_zero us) hfirst
  have hms := second.text_eq (.of_zero vs) hwithin
  exact (congrArg₂ (· ++ ·) hns hms).symm

/-- Rendering is compositional. If no tag goes from one document into the next and no block of the
first is open at its end, both together have the nodes and the warnings of the one before those of
the other; and where no limit is reached their text is that of the one before that of the other. -/
theorem render_append {d e : String} (hcut : ¬Piece.Straddles d.toList e.toList)
    (hopen : (Progress.ofDocument d).blocks = []) :
    Node.Joined (Tree.ofDocument d).nodes (Tree.ofDocument e).nodes (Tree.ofDocument (d ++ e)).nodes ∧
      (Tree.ofDocument (d ++ e)).warnings =
        (Tree.ofDocument d).warnings ++ (Tree.ofDocument e).warnings ∧
      ∀ r : Renderer, conditionalLimitWarning r.maxBlocks ∉ (r.render (d ++ e)).warnings →
        loopLimitWarning r.maxBlocks ∉ (r.render (d ++ e)).warnings →
        (r.render (d ++ e)).text = (r.render d).text ++ (r.render e).text := by
  obtain ⟨hnodes, hwarnings⟩ := Tree.ofDocument_append hcut hopen
  refine ⟨hnodes, hwarnings, fun r hconditionals hloops => ?_⟩
  have walk (document : String) := Prod.mk.inj (r.evaluate_eq_meanings (Tree.ofDocument document))
  have hwithin : (r.evaluate (Tree.ofDocument (d ++ e))).tally.IsWithin r.maxBlocks :=
    ⟨hconditionals, hloops⟩
  rw [(walk (d ++ e)).2, r.meanings_of_joined none hnodes] at hwithin
  have htext := r.text_andThen_eq none (Tree.ofDocument d).warnings (Tree.ofDocument e).warnings
    hwithin
  rw [← r.meanings_of_joined none hnodes, ← (walk (d ++ e)).1, ← (walk d).1, ← (walk e).1] at htext
  exact htext

/-- Two documents of which the second begins with a text, where the first ends with one, and closes
a block that it did not open. -/
def joinedDocuments : String × String :=
  ("\x7b\x7b#if a\x7d\x7dA\x7b\x7b/if\x7d\x7d, ", "b\x7b\x7b/if\x7d\x7d\x7b\x7bb\x7d\x7d")

theorem render_append_joinedDocuments :
    let d := joinedDocuments.1
    let e := joinedDocuments.2
    let r : Renderer := { vars := Table.ofList [("a", "1"), ("b", "B")], maxBlocks := 1 }
    ¬Piece.Straddles d.toList e.toList ∧ (Progress.ofDocument d).blocks = [] ∧
      (r.render (d ++ e)).text = (r.render d).text ++ (r.render e).text := by
  intro d e r
  have hpieces : Piece.split (d.toList ++ e.toList) =
      [.tag "#if a".toList, .run "A".toList, .tag "/if".toList, .run ", b".toList,
        .tag "/if".toList, .tag "b".toList] := by decide +kernel
  have hcut : ¬Piece.Straddles d.toList e.toList := by
    rintro ⟨ps, inner, qs, hsplit, hstart, hstop⟩
    rw [hpieces] at hsplit
    simp only [List.cons_eq_append_iff, List.nil_eq_append_iff, List.cons.injEq, Piece.tag.injEq,
      reduceCtorEq, false_and, and_false, false_or, or_false, exists_false] at hsplit
    rcases hsplit with ⟨rfl, ⟨rfl, -⟩⟩ | ⟨_, rfl, _, rfl, ⟨rfl, ⟨rfl, -⟩⟩ |
      ⟨_, rfl, _, rfl, ⟨rfl, ⟨rfl, -⟩⟩ | ⟨_, rfl, rfl, ⟨rfl, -⟩⟩⟩⟩
    all_goals revert hstart hstop; decide +kernel
  have hopen : (Progress.ofDocument d).blocks = [] := by decide +kernel
  exact ⟨hcut, hopen, (render_append hcut hopen).2.2 r (by decide +kernel) (by decide +kernel)⟩

end Renderer

end MachineConfig.Template
