import MachineConfig.Template.Tree
import Mathlib.Data.List.TakeDrop

/-!
What the operations on blocks that are being read do to many nodes at once.
-/

namespace MachineConfig.Template

namespace Node

@[simp] theorem verbatims_nil : verbatims [] = "" := rfl

@[simp] theorem verbatims_cons (n : Node) (ns : List Node) :
    verbatims (n :: ns) = n.verbatim ++ verbatims ns := by
  simp [verbatims]

@[simp] theorem verbatims_append (ns ms : List Node) :
    verbatims (ns ++ ms) = verbatims ns ++ verbatims ms := by
  simp [verbatims]

end Node

namespace OpenBlock

theorem foldl_add_of_none {b : OpenBlock} (h : b.otherwise = none) (nodes : List Node) :
    nodes.foldl add b = { b with children := b.children ++ nodes.toArray } := by
  induction nodes generalizing b with
  | nil => simp
  | cons n ns ih =>
    have hadd : b.add n = { b with children := b.children.push n } := by rw [add, h]
    have hnone : (b.add n).otherwise = none := by rw [hadd]; exact h
    rw [List.foldl_cons, ih hnone, hadd]
    simp

theorem foldl_add_of_some {b : OpenBlock} {tag : Token} {whenFalse : Array Node}
    (h : b.otherwise = some (tag, whenFalse)) (nodes : List Node) :
    nodes.foldl add b = { b with otherwise := some (tag, whenFalse ++ nodes.toArray) } := by
  induction nodes generalizing b whenFalse with
  | nil => simp [← h]
  | cons n ns ih =>
    have hadd : b.add n = { b with otherwise := some (tag, whenFalse.push n) } := by rw [add, h]
    rw [List.foldl_cons, hadd, ih rfl]
    simp

@[simp] theorem add_block (b : OpenBlock) (node : Node) : (b.add node).block = b.block := by
  unfold add
  split <;> rfl

@[simp] theorem foldl_add_block (b : OpenBlock) (nodes : List Node) :
    (nodes.foldl add b).block = b.block := by
  induction nodes generalizing b with
  | nil => rfl
  | cons n ns ih => rw [List.foldl_cons, ih, add_block]

end OpenBlock

theorem unwind_cons (b : OpenBlock) (bs : List OpenBlock) :
    unwind (b :: bs) = unwind bs ++ b.literal := by
  simp [unwind]

/-- Open blocks are those inside the innermost one of a kind, that one, and those outside it. -/
theorem exists_innermost {α : Type} (kind : α → Block) (block : Block) (xs : List α) :
    (∀ x ∈ xs, kind x ≠ block) ∨
      ∃ inside x outside, xs = inside ++ x :: outside ∧ (∀ y ∈ inside, kind y ≠ block) ∧
        kind x = block := by
  induction xs with
  | nil => exact .inl (List.forall_mem_nil _)
  | cons x xs ih =>
    by_cases hx : kind x = block
    · exact .inr ⟨[], x, xs, rfl, List.forall_mem_nil _, hx⟩
    · rcases ih with hnone | ⟨inside, y, outside, rfl, hinside, hy⟩
      · exact .inl (List.forall_mem_cons.mpr ⟨hx, hnone⟩)
      · exact .inr ⟨x :: inside, y, outside, rfl, List.forall_mem_cons.mpr ⟨hx, hinside⟩, hy⟩

namespace Progress

/-- Nodes added outside all blocks. -/
theorem addAll_of_nil {p : Progress} (h : p.blocks = []) (nodes : List Node) :
    p.addAll nodes = { p with nodes := p.nodes ++ nodes.toArray } := by
  induction nodes generalizing p with
  | nil => simp [addAll]
  | cons n ns ih =>
    have hadd : p.add n = { p with nodes := p.nodes.push n } := by rw [add, h]
    have hnil : (p.add n).blocks = [] := by rw [hadd]; exact h
    rw [addAll, List.foldl_cons, ← addAll, ih hnil, hadd]
    simp

/-- Nodes added inside blocks go to the innermost one. -/
theorem addAll_of_cons {p : Progress} {b : OpenBlock} {bs : List OpenBlock}
    (h : p.blocks = b :: bs) (nodes : List Node) :
    p.addAll nodes = { p with blocks := nodes.foldl OpenBlock.add b :: bs } := by
  induction nodes generalizing p b with
  | nil => simp [addAll, ← h]
  | cons n ns ih =>
    have hadd : p.add n = { p with blocks := b.add n :: bs } := by rw [add, h]
    rw [addAll, List.foldl_cons, hadd, ← addAll, ih rfl]
    simp

@[simp] theorem inLoop_add (p : Progress) (node : Node) : (p.add node).inLoop = p.inLoop := by
  unfold add inLoop
  split
  · rfl
  · rename_i b bs hblocks
    simp [hblocks]

@[simp] theorem inLoop_addAll (p : Progress) (nodes : List Node) :
    (p.addAll nodes).inLoop = p.inLoop := by
  induction nodes generalizing p with
  | nil => rfl
  | cons n ns ih => rw [addAll, List.foldl_cons, ← addAll, ih, inLoop_add]

theorem addAll_append (p : Progress) (ns ms : List Node) :
    p.addAll (ns ++ ms) = (p.addAll ns).addAll ms := List.foldl_append

theorem warnings_add (p : Progress) (node : Node) : (p.add node).warnings = p.warnings := by
  unfold add
  split <;> rfl

theorem warnings_addAll (p : Progress) (nodes : List Node) :
    (p.addAll nodes).warnings = p.warnings := by
  induction nodes generalizing p with
  | nil => rfl
  | cons n ns ih => rw [addAll, List.foldl_cons, ← addAll, ih, warnings_add]

theorem warnings_close (p : Progress) (block : Block) (closer : Token) (document : List Char) :
    (p.close block closer document).warnings = p.warnings := by
  unfold close
  split <;> rw [warnings_add]

section step

variable {document : List Char} {p : Progress} {token : Token}

theorem step_opener {block : Block} {arg : String} (hrole : token.role = .opener block arg)
    (h : block = .eachBlock → p.inLoop = false) :
    p.step document token =
      { p with blocks := { block, arg, opener := token } :: p.blocks } := by
  have hnested : ¬(block = .eachBlock ∧ p.inLoop) := by
    rintro ⟨hblock, hloop⟩
    rw [h hblock] at hloop
    cases hloop
  simp only [step, hrole, if_neg hnested]

theorem step_otherwise {b : OpenBlock} {bs : List OpenBlock} (hrole : token.role = .otherwise)
    (hblocks : p.blocks = b :: bs) (htakes : b.takesElse) :
    p.step document token =
      { p with blocks := { b with otherwise := some (token, #[]) } :: bs } := by
  simp only [step, hrole, hblocks, if_pos htakes]

/-- A closing tag for the innermost open block closes it. -/
theorem step_closer {b : OpenBlock} {bs : List OpenBlock} (hrole : token.role = .closer b.block)
    (hblocks : p.blocks = b :: bs) :
    p.step document token = Progress.add { p with blocks := bs } (b.close token document) := by
  have hspan : (b :: bs).span (·.block ≠ b.block) = ([], b :: bs) := by
    simp [List.span_eq_takeWhile_dropWhile]
  simp only [step, hrole, close, hblocks, hspan]
  rfl

end step

end Progress

end MachineConfig.Template
