import MachineConfig.Proofs.Template.Reading
import MachineConfig.Proofs.Template.RoundTrip

/-!
Reading without positions. The source of a block is what its tags and its parts spell, so reading
needs no more of the tokens than their roles and texts. `Progress.read` reads them that way, and
`Tree.nodes_ofDocument`: every document has the nodes that this gives.
-/

namespace MachineConfig.Template

namespace OpenBlock

/-- The node of a block that ends with `closer`, its source put together from what it holds. -/
def node (b : OpenBlock) (closer : Token) : Node :=
  Form.blockNode b.block b.arg b.children.toList ((b.otherwise.map (·.2.toList)).getD [])
    (Node.verbatims b.literal ++ closer.text)

theorem HasRead.close_eq_node {document : String} {before ts after : List Token} {b : OpenBlock}
    {closer : Token} (h : b.HasRead ts)
    (hscan : Token.scan document = before ++ (ts ++ [closer]) ++ after) :
    b.close closer document.toList = b.node closer := by
  obtain ⟨inner, rfl⟩ : ∃ inner, ts = b.opener :: inner := by
    cases h with
    | whole => exact ⟨_, rfl⟩
    | divided => exact ⟨_, rfl⟩
  rw [close_eq_blockNode (Token.slice_scan hscan), node, String.ofList_toList,
    h.literal.verbatims_eq]
  simp [String.append_assoc]

end OpenBlock

namespace Progress

/-- Closes the innermost open block of a kind, told from the tokens alone. -/
def closeSpelled (p : Progress) (block : Block) (closer : Token) : Progress :=
  match p.blocks.span (·.block ≠ block) with
  | (_, []) => p.add (.text closer.text)
  | (unclosed, b :: bs) =>
    Progress.add { p with blocks := bs } (((unwind unclosed).foldl OpenBlock.add b).node closer)

/-- Reads the next token, wherever it stands. -/
def read (p : Progress) (token : Token) : Progress :=
  match token.role with
  | .closer block => p.closeSpelled block token
  | _ => p.step [] token

section read

variable {p : Progress} {token : Token}

theorem read_text (hrole : token.role = .text) : p.read token = p.add (.text token.text) := by
  simp only [read, step, hrole]

theorem read_scalar {name : String} (hrole : token.role = .scalar name) :
    p.read token = p.add (.scalar name token.text) := by
  simp only [read, step, hrole]

theorem read_opener {block : Block} {arg : String} (hrole : token.role = .opener block arg)
    (h : block = .eachBlock → p.inLoop = false) :
    p.read token = { p with blocks := { block, arg, opener := token } :: p.blocks } := by
  rw [← step_opener hrole h, read, hrole]

theorem read_nested {arg : String} (hrole : token.role = .opener .eachBlock arg)
    (h : p.inLoop = true) :
    p.read token = { p.add (.text token.text) with
      warnings := p.warnings.push (nestedLoopWarning token.text) } := by
  simp only [read, step, hrole, h, and_self, if_true, warnings_add]

theorem read_taken {b : OpenBlock} {bs : List OpenBlock} (hrole : token.role = .otherwise)
    (hblocks : p.blocks = b :: bs) (htakes : b.takesElse) :
    p.read token = { p with blocks := { b with otherwise := some (token, #[]) } :: bs } := by
  rw [← step_otherwise hrole hblocks htakes, read, hrole]

/-- An else tag that the innermost block does not take is text. -/
theorem read_stray (hrole : token.role = .otherwise)
    (h : ∀ b ∈ p.blocks.head?, b.takesElse = false) :
    p.read token = p.add (.text token.text) := by
  rcases p with ⟨nodes, _ | ⟨b, bs⟩, warnings⟩
  · simp only [read, step, hrole]
  · simp only [read, step, hrole, h b rfl, Bool.false_eq_true, if_false]

theorem read_closer {block : Block} {b : OpenBlock} {unclosed bs : List OpenBlock}
    (hrole : token.role = .closer block) (hblocks : p.blocks = unclosed ++ b :: bs)
    (hunclosed : ∀ c ∈ unclosed, c.block ≠ block) (hblock : b.block = block) :
    p.read token = Progress.add { p with blocks := bs }
      (((unwind unclosed).foldl OpenBlock.add b).node token) := by
  have hspan : p.blocks.span (·.block ≠ block) = (unclosed, b :: bs) := by
    rw [hblocks, List.span_eq_takeWhile_dropWhile,
      List.takeWhile_append_of_pos (by simpa using hunclosed),
      List.dropWhile_append_of_pos (by simpa using hunclosed)]
    simp [hblock]
  simp only [read, hrole, closeSpelled, hspan]

/-- A closing tag with nothing to close is text. -/
theorem read_unopened {block : Block} (hrole : token.role = .closer block)
    (h : ∀ b ∈ p.blocks, b.block ≠ block) : p.read token = p.add (.text token.text) := by
  have hspan : p.blocks.span (·.block ≠ block) = (p.blocks, []) := by
    rw [List.span_eq_takeWhile_dropWhile, List.takeWhile_eq_self_iff.mpr (by simpa using h),
      List.dropWhile_eq_nil_iff.mpr (by simpa using h)]
  simp only [read, hrole, closeSpelled, hspan]

end read

theorem HasRead.step_eq_read {document : String} {ts after : List Token} {p : Progress}
    {token : Token} (h : p.HasRead ts) (hscan : Token.scan document = ts ++ token :: after) :
    p.step document.toList token = p.read token := by
  unfold Progress.read
  split
  next block hrole =>
    simp only [Progress.step, hrole, Progress.close, closeSpelled]
    rcases hspan : p.blocks.span (·.block ≠ block) with ⟨unclosed, _ | ⟨b, bs⟩⟩
    · simp only [hspan]
    · obtain ⟨hblocks, -⟩ := span_blocks_eq hspan
      obtain ⟨done, rest, rfl, -, hrest⟩ := h
      rw [hblocks] at hrest
      obtain ⟨before, us, vs, rfl, -, hb, hinside⟩ := hrest.split
      -- The whole block spells the tokens from its opening tag on.
      have hfull := hb.addAll hinside.unwind
      have hscan' : Token.scan document =
          done ++ before ++ (us ++ vs ++ [token]) ++ after := by simpa using hscan
      simp only [hspan, hfull.close_eq_node hscan']
  next hrole =>
    unfold Progress.step
    cases hrole' : token.role with
    | closer block => exact absurd hrole' (hrole block)
    | _ => rfl

theorem HasRead.foldl_step_eq {document : String} {ts us vs : List Token} {p : Progress}
    (h : p.HasRead ts) (hscan : Token.scan document = ts ++ us ++ vs) :
    us.foldl (Progress.step document.toList) p = us.foldl Progress.read p := by
  induction us generalizing ts p with
  | nil => rfl
  | cons token us ih =>
    have hscan' : Token.scan document = ts ++ token :: (us ++ vs) := by simpa using hscan
    have hnext := h.step hscan'
    rw [List.foldl_cons, List.foldl_cons, ← h.step_eq_read hscan']
    exact ih hnext (by simpa using hscan)

/-- As far as a document is read, it is read as its tokens are. -/
theorem foldl_step_eq_read {document : String} {us vs : List Token}
    (hscan : Token.scan document = us ++ vs) :
    us.foldl (step document.toList) {} = us.foldl read {} := by
  have start : HasRead [] {} := ⟨[], [], rfl, .nil, .nil⟩
  exact start.foldl_step_eq (by simpa using hscan)

end Progress

theorem Tree.nodes_ofDocument (document : String) : (ofDocument document).nodes =
    ((Token.scan document).foldl Progress.read {}).finish.nodes.toList := by
  rw [ofDocument, Progress.foldl_step_eq_read (List.append_nil _).symm]

end MachineConfig.Template
