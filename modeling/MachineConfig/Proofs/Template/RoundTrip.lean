import MachineConfig.Proofs.Template.FormLemmas
import MachineConfig.Proofs.Template.TokenLemmas
import MachineConfig.Proofs.Template.TreeLemmas

/-!
Reading a printed form gives the form back (`Tree.ofDocument_prints`). Wherever the pieces of a
form stand in a document, reading their tokens adds the nodes of the form to what has been read
before (`Adds`), because every closing and every else tag meets its own block as the innermost
open one.
-/

namespace MachineConfig.Template

theorem OpenBlock.close_eq_blockNode {b : OpenBlock} {closer : Token} {document source : List Char}
    (h : (document.drop b.opener.start).take (closer.stop - b.opener.start) = source) :
    b.close closer document = Form.blockNode b.block b.arg b.children.toList
      ((b.otherwise.map (·.2.toList)).getD []) (String.ofList source) := by
  unfold close Form.blockNode
  rw [h]
  cases b.block <;> rfl

open Progress Token

/-- Reading these pieces, wherever they stand in the document, adds these nodes. `loops` says
that there is a loop among them, and then they must not stand in a loop. -/
def Adds (document : String) (loops : Bool) (ps : List Piece) (nodes : List Node) : Prop :=
  ∀ (p : Progress) (start : Nat) (before after : List Token),
    scan document = before ++ ofPieces start ps ++ after → (loops → p.inLoop = false) →
      (ofPieces start ps).foldl (step document.toList) p = p.addAll nodes

namespace Adds

variable {document : String} {loops loops' : Bool} {ps qs : List Piece} {ns ms : List Node}

theorem nil : Adds document false [] [] := fun _ _ _ _ _ _ => rfl

theorem append (h : Adds document loops ps ns) (h' : Adds document loops' qs ms) :
    Adds document (loops || loops') (ps ++ qs) (ns ++ ms) := by
  intro p start before after hscan hloop
  rw [Bool.or_eq_true] at hloop
  rw [ofPieces_append] at hscan ⊢
  have hfirst := h p start before _ (by simpa using hscan) fun hl => hloop (.inl hl)
  have hsecond := h' (p.addAll ns) _ (before ++ ofPieces start ps) after (by simpa using hscan)
    fun hl => by rw [inLoop_addAll]; exact hloop (.inr hl)
  rw [List.foldl_append, hfirst, hsecond, addAll_append]

theorem text (value : String) : Adds document false [.run value.toList] [.text value] := by
  intro p start before after _ _
  simp [ofPieces, Role.ofPiece, step, addAll, Piece.chars]

theorem scalar {name : String} (h : isScalarName name.toList) (spaced : Bool) :
    Adds document false [.tag (scalarInner name spaced)]
      [.scalar name (String.ofList (Piece.tag (scalarInner name spaced)).chars)] := by
  intro p start before after _ _
  simp [ofPieces, Role.ofPiece, Role.ofInner_scalar h, step, addAll]

/-- A block and its tags add the block, if what is between the tags adds its content. -/
theorem block (kind : Block) {arg : String} (harg : Form.isArgument arg)
    (h : Adds document loops ps ns) (hloops : kind = .eachBlock → loops = false) :
    Adds document (kind = .eachBlock || loops)
      (Form.openPiece kind arg :: ps ++ [Form.closePiece kind])
      [Form.blockNode kind arg ns [] (String.ofList
        (Piece.spelled (Form.openPiece kind arg :: ps ++ [Form.closePiece kind])))] := by
  intro p start before after hscan hloop
  rw [Bool.or_eq_true, decide_eq_true_eq] at hloop
  obtain ⟨opener, start', closer, htokens, hopener, hcloser⟩ :
      ∃ opener start' closer,
        ofPieces start (Form.openPiece kind arg :: ps ++ [Form.closePiece kind]) =
          opener :: ofPieces start' ps ++ [closer] ∧
        opener.role = .opener kind arg ∧ closer.role = .closer kind := by
    rw [List.cons_append, ofPieces, ofPieces_append]
    exact ⟨_, _, _, rfl, Role.ofInner_opener kind harg, Role.ofInner_closer kind⟩
  rw [← spelled_ofPieces start, htokens]
  rw [htokens] at hscan
  -- The opening tag makes the block the innermost one, so that the content goes there.
  simp only [List.cons_append, List.foldl_cons, List.foldl_append, List.foldl_nil]
  rw [step_opener hopener fun hk => hloop (.inl hk)]
  have hinner : loops →
      inLoop { p with blocks := { block := kind, arg, opener } :: p.blocks } = false := by
    intro hl
    have hkind : kind ≠ .eachBlock := fun hk => by simp [hloops hk] at hl
    have hp := hloop (.inr hl)
    rw [inLoop] at hp ⊢
    simp [hkind, hp]
  rw [h _ start' (before ++ [opener]) (closer :: after) (by simpa using hscan) hinner,
    addAll_of_cons rfl, OpenBlock.foldl_add_of_none rfl]
  -- The closing tag meets that block.
  rw [step_closer hcloser rfl, OpenBlock.close_eq_blockNode (slice_scan hscan)]
  simp [addAll]

/-- The same for an if block with an else tag. -/
theorem ifElse {condition : String} {first : Piece}
    (hfirst : Role.ofPiece first = .opener .ifBlock condition)
    (h : Adds document loops ps ns) (h' : Adds document loops' qs ms) :
    Adds document (loops || loops')
      (first :: ps ++ Form.elsePiece :: qs ++ [Form.closePiece .ifBlock])
      [Form.blockNode .ifBlock condition ns ms (String.ofList (Piece.spelled
        (first :: ps ++ Form.elsePiece :: qs ++ [Form.closePiece .ifBlock])))] := by
  intro p start before after hscan hloop
  rw [Bool.or_eq_true] at hloop
  obtain ⟨opener, start', tag, start'', closer, htokens, hopener, htag, hcloser⟩ :
      ∃ opener start' tag start'' closer,
        ofPieces start (first :: ps ++ Form.elsePiece :: qs ++ [Form.closePiece .ifBlock]) =
          opener :: (ofPieces start' ps ++ tag :: ofPieces start'' qs) ++ [closer] ∧
        opener.role = .opener .ifBlock condition ∧ tag.role = .otherwise ∧
        closer.role = .closer .ifBlock := by
    rw [List.cons_append, List.cons_append, ofPieces, ofPieces_append, ofPieces_append, ofPieces]
    exact ⟨_, _, _, _, _, rfl, hfirst, Role.ofInner_else, Role.ofInner_closer .ifBlock⟩
  rw [← spelled_ofPieces start, htokens]
  rw [htokens] at hscan
  have hinLoop (b : OpenBlock) (hb : b.block = .ifBlock) :
      inLoop { p with blocks := b :: p.blocks } = p.inLoop := by simp [inLoop, hb]
  simp only [List.cons_append, List.foldl_cons, List.foldl_append, List.foldl_nil]
  rw [step_opener hopener fun hk => by cases hk]
  rw [h _ start' (before ++ [opener]) (tag :: ofPieces start'' qs ++ closer :: after)
      (by simpa using hscan) fun hl => by rw [hinLoop _ rfl]; exact hloop (.inl hl),
    addAll_of_cons rfl, OpenBlock.foldl_add_of_none rfl]
  -- The else tag meets the block without one, and what follows goes to the second branch.
  rw [step_otherwise htag rfl rfl]
  rw [h' _ start'' (before ++ opener :: ofPieces start' ps ++ [tag]) (closer :: after)
      (by simpa using hscan) fun hl => by rw [hinLoop _ rfl]; exact hloop (.inr hl),
    addAll_of_cons rfl, OpenBlock.foldl_add_of_some rfl]
  rw [step_closer hcloser rfl, OpenBlock.close_eq_blockNode (slice_scan hscan)]
  simp [addAll]

end Adds

namespace Form

theorem ofList_spelled_pieces (f : Form) : String.ofList (Piece.spelled f.pieces) = f.print := by
  rw [← toList_print, String.ofList_toList]

mutual

/-- Reading a printed form adds its node. -/
theorem adds_node (document : String) : (f : Form) → f.isWellFormed →
    Adds document f.hasLoop f.pieces [f.node]
  | text value, _ => .text value
  | scalar name spaced, hf => by
    have hsource := ofList_spelled_pieces (scalar name spaced)
    simp only [pieces, Piece.spelled_cons, Piece.spelled_nil, List.append_nil] at hsource
    rw [node, ← hsource]
    exact .scalar hf spaced
  | block kind arg body, hf => by
    simp only [isWellFormed, Bool.and_eq_true, Bool.or_eq_true, decide_eq_true_eq,
      Bool.not_eq_true'] at hf
    obtain ⟨⟨harg, hbody⟩, hloops⟩ := hf
    rw [node, ← ofList_spelled_pieces]
    exact .block kind harg (adds_nodes document body hbody) fun hk =>
      hloops.resolve_left fun hne => hne hk
  | ifElse condition whenTrue whenFalse, hf => by
    simp only [isWellFormed, Bool.and_eq_true] at hf
    obtain ⟨⟨harg, htrue⟩, hfalse⟩ := hf
    rw [node, ← ofList_spelled_pieces]
    exact .ifElse (Role.ofInner_opener .ifBlock harg) (adds_nodes document whenTrue htrue)
      (adds_nodes document whenFalse hfalse)

theorem adds_nodes (document : String) : (fs : List Form) → allWellFormed fs →
    Adds document (anyHasLoop fs) (allPieces fs) (nodes fs)
  | [], _ => .nil
  | f :: fs, hfs => by
    simp only [allWellFormed, Bool.and_eq_true] at hfs
    exact (adds_node document f hfs.1.1).append (adds_nodes document fs hfs.1.2)

end

end Form

/-- A document whose pieces add nodes reads as these. -/
theorem Tree.ofDocument_of_adds {document : String} {loops : Bool} {ps : List Piece}
    {nodes : List Node} (hsplit : Piece.split document.toList = ps)
    (h : Adds document loops ps nodes) : Tree.ofDocument document = ⟨nodes, []⟩ := by
  have htokens : scan document = ofPieces 0 ps := by rw [scan, hsplit]
  have hread := h {} 0 [] [] (by simp [htokens]) fun _ => rfl
  rw [Tree.ofDocument, htokens, hread, addAll_of_nil rfl]
  simp [finish, unwind, addAll]

theorem Tree.nodes_prints {fs : List Form} (h : Form.allWellFormed fs) :
    (Tree.ofDocument (Form.prints fs)).nodes = Form.nodes fs := by
  rw [ofDocument_of_adds (Form.split_prints h) (Form.adds_nodes _ fs h)]

theorem Tree.warnings_prints {fs : List Form} (h : Form.allWellFormed fs) :
    (Tree.ofDocument (Form.prints fs)).warnings = [] := by
  rw [ofDocument_of_adds (Form.split_prints h) (Form.adds_nodes _ fs h)]

/-- Reading gives back every well-formed template that was printed, without a warning. -/
theorem Tree.ofDocument_prints (fs : List Form) (h : Form.allWellFormed fs) :
    Tree.ofDocument (Form.prints fs) = ⟨Form.nodes fs, []⟩ := by
  have hnodes := Tree.nodes_prints h
  have hwarnings := Tree.warnings_prints h
  exact congrArg₂ Tree.mk hnodes hwarnings

/-- A loop in a branch, an else tag with nothing after it, and braces before and after tags. -/
theorem Tree.ofDocument_prints_nested :
    let fs : List Form := [
      .text "\x7b",
      .ifElse "os == \"linux\"" [
        .block .eachBlock "hosts" [.scalar "@index" true, .text "\x7d\x7d "]] [],
      .block .unlessBlock "a  b" [.ifElse "c" [] [.text "\x7b\x7b"]]]
    Form.allWellFormed fs ∧ Tree.ofDocument (Form.prints fs) = ⟨Form.nodes fs, []⟩ := by
  intro fs
  have h : Form.allWellFormed fs := by decide
  exact ⟨h, Tree.ofDocument_prints fs h⟩

end MachineConfig.Template
