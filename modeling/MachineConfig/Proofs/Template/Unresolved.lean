import MachineConfig.Proofs.Template.Occurrences
import MachineConfig.Proofs.Template.Walk
import MachineConfig.Proofs.Text.SortedLemmas

/-!
The tags that are left in a rendered document. They are looked for in the output as a whole, where
values may bring braces of their own, and still every tag that the walk leaves as it was read is
among them (`Renderer.left_mem_unresolved`).
-/

namespace MachineConfig.Template

theorem mem_unresolvedTags_iff {text tag : String} :
    tag ∈ unresolvedTags text ↔
      ∃ inner, Piece.tag inner ∈ Piece.split text.toList ∧
        String.ofList (Text.trim inner) = tag := by
  rw [unresolvedTags, Text.mem_sortedSet, List.mem_filterMap]
  constructor
  · rintro ⟨_ | inner, hmem, htag⟩
    · cases htag
    · exact ⟨inner, hmem, Option.some.inj htag⟩
  · rintro ⟨inner, hmem, rfl⟩
    exact ⟨.tag inner, hmem, rfl⟩

/-- The tags of a text are among those of any text around it. -/
theorem tag_mem_split_append {before text after : String} {inner : List Char}
    (h : Piece.tag inner ∈ Piece.split text.toList) :
    Piece.tag inner ∈ Piece.split (before ++ text ++ after).toList := by
  rw [Piece.tag_mem_split_iff] at h ⊢
  refine ⟨h.1, h.2.trans ⟨before.toList, after.toList, ?_⟩⟩
  rw [String.toList_append, String.toList_append]

namespace Renderer

/-- What is reported of a document is in the order of code points, each tag once. Every tag of a
node that the walk leaves as it was read is reported: a name without a value, a tag that is a text,
or any tag in a block past its limit. -/
theorem left_mem_unresolved (r : Renderer) (document : String) :
    (r.render document).unresolved.Pairwise (Text.isBefore · ·) ∧
      ∀ ⦃n : Node⦄ ⦃ns : List Node⦄ ⦃scope : Scope⦄ ⦃work : List (List Node × Scope)⦄ ⦃o : Output⦄,
        r.Reaches (Tree.ofDocument document) ((n :: ns, scope) :: work) o → r.Leaves scope o n →
        ∀ inner, Piece.tag inner ∈ Piece.split n.verbatim.toList →
          String.ofList (Text.trim inner) ∈ (r.render document).unresolved := by
  refine ⟨Text.pairwise_sortedSet _, fun _ _ _ _ _ hreaches hleaves inner htag => ?_⟩
  refine mem_unresolvedTags_iff.2 ⟨inner, ?_, rfl⟩
  obtain ⟨before, after, htext⟩ := hreaches.verbatim_isInfix hleaves
  rw [htext]
  exact tag_mem_split_append htag

/-- A name that has a value, a name that has none, a closing tag with nothing to close, and a block
with a tag in it. -/
def leftDocument : String :=
  "\x7b\x7ba\x7d\x7d\x7b\x7b b \x7d\x7d\x7b\x7b/if\x7d\x7d" ++
    "\x7b\x7b#if c\x7d\x7d\x7b\x7bd\x7d\x7d\x7b\x7b/if\x7d\x7d"

theorem nodes_leftDocument : (Tree.ofDocument leftDocument).nodes =
    [.scalar "a" "\x7b\x7ba\x7d\x7d", .scalar "b" "\x7b\x7b b \x7d\x7d",
      .text "\x7b\x7b/if\x7d\x7d",
      .conditional "c" false [.scalar "d" "\x7b\x7bd\x7d\x7d"] []
        "\x7b\x7b#if c\x7d\x7d\x7b\x7bd\x7d\x7d\x7b\x7b/if\x7d\x7d"] := rfl

/-- The value is a brace, which comes to stand before the first tag that is left, and no block may
be expanded. -/
def leftRenderer : Renderer := { vars := Table.ofList [("a", "\x7b")], maxBlocks := 0 }

theorem left_mem_unresolved_leftDocument :
    let unresolved := (leftRenderer.render leftDocument).unresolved
    "b" ∈ unresolved ∧ "/if" ∈ unresolved ∧ "#if c" ∈ unresolved ∧ "d" ∈ unresolved := by
  have hvalue := @Reaches.start leftRenderer (Tree.ofDocument leftDocument)
  rw [nodes_leftDocument] at hvalue
  have hname := hvalue.scalar
  have htext := hname.scalar
  have hblock := htext.text
  have hreported := (left_mem_unresolved leftRenderer leftDocument).2
  exact ⟨hreported hname (by decide) " b ".toList (by decide +kernel),
    hreported htext (by decide) "/if".toList (by decide +kernel),
    hreported hblock (by decide) "#if c".toList (by decide +kernel),
    hreported hblock (by decide) "d".toList (by decide +kernel)⟩

end Renderer

end MachineConfig.Template
