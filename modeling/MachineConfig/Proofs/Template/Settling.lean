import MachineConfig.Proofs.Template.Concatenation
import MachineConfig.Proofs.Template.Frames

/-!
Tags that come to nothing, read as text from the start. `Frame.settle` takes as text every tag that
does not become one of a closed block, and `Progress.nodes_settle`: reading what is left gives the
same nodes. While the tokens are read, the blocks that will not be closed are melted into those
around them (`Progress.melt`), and every step keeps to that (`Progress.read_melt`).
-/

namespace MachineConfig.Template

/-- The token, read as text. -/
def Token.asText (t : Token) : Token := { t with role := .text }

namespace Frame

/-- Whether a tag becomes one of a block that is closed, which those of the opening tags `C` are. -/
def settles (C : List Token) (fs : List Frame) (t : Token) : Bool :=
  match t.role with
  | .text => true
  | .scalar _ => true
  | .opener _ _ => t ∈ C
  | .otherwise => fs.head?.any fun f => f.takesElse && f.opener ∈ C
  | .closer block => (innermost? block fs).isSome

/-- The tokens, those that come to nothing as text. -/
def settle (C : List Token) : List Frame → List Token → List Token
  | _, [] => []
  | fs, t :: ts => (if settles C fs t then t else t.asText) :: settle C (step fs t) ts

end Frame

namespace OpenBlock

theorem literal_add (b : OpenBlock) (node : Node) : (b.add node).literal = b.literal ++ [node] := by
  rcases b with ⟨block, arg, opener, children, _ | ⟨tag, nodes⟩⟩ <;> simp [add, literal]

theorem literal_takeElse {b : OpenBlock} (htakes : b.takesElse) (tag : Token) :
    ({ b with otherwise := some (tag, #[]) } : OpenBlock).literal =
      b.literal ++ [.text tag.text] := by
  have hnone : b.otherwise = none := by
    simp only [takesElse, Bool.and_eq_true, Option.isNone_iff_eq_none] at htakes
    exact htakes.2
  simp [literal, hnone]

@[simp] theorem add_opener (b : OpenBlock) (node : Node) : (b.add node).opener = b.opener := by
  unfold add
  split <;> rfl

end OpenBlock

namespace Progress

/-- What has been read, with the blocks that are not closed melted into those around them. -/
def melted (C : List Token) (nodes : Array Node) : List OpenBlock → Progress
  | [] => { nodes }
  | b :: bs =>
    let outside := melted C nodes bs
    if b.opener ∈ C then { outside with blocks := b :: outside.blocks }
    else outside.addAll b.literal

def melt (C : List Token) (p : Progress) : Progress := melted C p.nodes p.blocks

variable {C : List Token} {p : Progress} {token : Token} {nodes : Array Node} {b : OpenBlock}
  {bs unclosed : List OpenBlock}

theorem melted_of_mem (h : b.opener ∈ C) :
    melted C nodes (b :: bs) =
      { melted C nodes bs with blocks := b :: (melted C nodes bs).blocks } := by
  rw [melted]
  exact if_pos h

theorem melted_of_not_mem (h : b.opener ∉ C) :
    melted C nodes (b :: bs) = (melted C nodes bs).addAll b.literal := by
  rw [melted]
  exact if_neg h

theorem melted_append (h : ∀ c ∈ unclosed, c.opener ∉ C) :
    melted C nodes (unclosed ++ bs) = (melted C nodes bs).addAll (unwind unclosed) := by
  induction unclosed with
  | nil => rfl
  | cons c unclosed ih =>
    rw [List.forall_mem_cons] at h
    rw [List.cons_append, melted_of_not_mem h.1, ih h.2, unwind_cons, addAll_append]

theorem melt_add (p : Progress) (node : Node) : (p.add node).melt C = (p.melt C).add node := by
  rcases p with ⟨nodes, _ | ⟨b, bs⟩, warnings⟩
  · rfl
  · simp only [add, melt]
    by_cases h : b.opener ∈ C
    · have h' : (b.add node).opener ∈ C := by rwa [OpenBlock.add_opener]
      rw [melted_of_mem h', melted_of_mem h]
    · have h' : (b.add node).opener ∉ C := by rwa [OpenBlock.add_opener]
      rw [melted_of_not_mem h', melted_of_not_mem h, OpenBlock.literal_add, addAll_append]
      rfl

theorem map_block_addAll (q : Progress) (ns : List Node) :
    (q.addAll ns).blocks.map (·.block) = q.blocks.map (·.block) := by
  induction ns generalizing q with
  | nil => rfl
  | cons n ns ih =>
    rw [addAll, List.foldl_cons, ← addAll, ih]
    rcases q with ⟨nodes, _ | ⟨b, bs⟩, warnings⟩
    · rfl
    · simp [add]

/-- What is melted has no other blocks. -/
theorem blocks_melted_sublist (C : List Token) (nodes : Array Node) (bs : List OpenBlock) :
    ((melted C nodes bs).blocks.map (·.block)).Sublist (bs.map (·.block)) := by
  induction bs with
  | nil => exact List.Sublist.refl _
  | cons b bs ih =>
    by_cases h : b.opener ∈ C
    · rw [melted_of_mem h]
      exact ih.cons_cons b.block
    · rw [melted_of_not_mem h, map_block_addAll]
      exact ih.cons b.block

theorem read_asText (p : Progress) (token : Token) :
    p.read token.asText = p.add (.text token.text) := read_text rfl

/-- What is melted is in no loop that was none. -/
theorem inLoop_melt (h : p.inLoop = false) : (p.melt C).inLoop = false := by
  have hsub := (blocks_melted_sublist C p.nodes p.blocks).subset
  simp only [inLoop, List.any_eq_false, decide_eq_true_eq] at h ⊢
  intro b hb hkind
  obtain ⟨c, hc, hceq⟩ := List.mem_map.mp (hsub (List.mem_map_of_mem hb))
  exact h c hc (hceq.trans hkind)

theorem read_melt_opener {block : Block} {arg : String} (hrole : token.role = .opener block arg)
    (h : Frame.Foresees C (p.blocks.map (·.frame)) token) :
    (p.read token).melt C = (p.melt C).read (if token ∈ C then token else token.asText) := by
  by_cases hnested : block = .eachBlock ∧ p.inLoop
  · obtain ⟨rfl, hloop⟩ := hnested
    have hmem : token ∉ C := h.nested hrole (by rwa [Frame.inLoop_frames])
    rw [if_neg hmem, read_asText, read_nested hrole hloop, ← melt_add]
    rfl
  · have hfree : block = .eachBlock → p.inLoop = false := fun hblock => by
      simpa [hblock] using hnested
    rw [read_opener hrole hfree]
    by_cases hmem : token ∈ C
    · rw [if_pos hmem, read_opener hrole fun hblock => inLoop_melt (hfree hblock)]
      exact melted_of_mem hmem
    · rw [if_neg hmem, read_asText]
      exact melted_of_not_mem hmem

theorem read_melt_otherwise (hrole : token.role = .otherwise) :
    (p.read token).melt C = (p.melt C).read
      (if p.blocks.head?.any fun b => b.takesElse && b.opener ∈ C then token
        else token.asText) := by
  rcases p with ⟨nodes, _ | ⟨b, bs⟩, warnings⟩
  · rw [read_stray hrole (by simp), melt_add]
    exact (read_asText _ _).symm
  simp only [List.head?_cons, Option.any_some, Bool.and_eq_true, decide_eq_true_eq]
  by_cases htakes : b.takesElse
  · rw [read_taken hrole rfl htakes]
    by_cases hmem : b.opener ∈ C
    · have hmelt : (melt C ⟨nodes, b :: bs, warnings⟩).blocks =
          b :: (melted C nodes bs).blocks := by
        rw [melt, melted_of_mem hmem]
      rw [if_pos ⟨htakes, hmem⟩, read_taken hrole hmelt htakes, melt, melt, melted_of_mem hmem]
      exact melted_of_mem hmem
    · have hmelt : melted C nodes ({ b with otherwise := some (token, #[]) } :: bs) =
          (melted C nodes bs).addAll (b.literal ++ [.text token.text]) := by
        rw [← OpenBlock.literal_takeElse htakes]
        exact melted_of_not_mem hmem
      rw [if_neg fun hboth => hmem hboth.2, read_asText, melt, melt, melted_of_not_mem hmem,
        hmelt, addAll_append]
      rfl
  · rw [if_neg fun hboth => htakes hboth.1, read_asText, ← melt_add,
      read_stray hrole (by simpa using htakes)]

theorem read_melt_closer {block : Block} (hrole : token.role = .closer block)
    (h : Frame.Foresees C (p.blocks.map (·.frame)) token) :
    (p.read token).melt C = (p.melt C).read
      (if (p.blocks.map (·.frame)).any (·.block = block) then token else token.asText) := by
  rcases exists_innermost OpenBlock.block block p.blocks with
    hnone | ⟨unclosed, b, bs, hblocks, hunclosed, hb⟩
  · have hopen : ¬(p.blocks.map (·.frame)).any (·.block = block) = true := by
      simpa using! hnone
    rw [if_neg hopen, read_asText, ← melt_add, read_unopened hrole hnone]
  · have hopen : (p.blocks.map (·.frame)).any (·.block = block) = true := by
      rw [hblocks]
      simpa using! .inr (.inl hb)
    have hframes : p.blocks.map (·.frame) =
        unclosed.map (·.frame) ++ b.frame :: bs.map (·.frame) := by rw [hblocks]; simp
    obtain ⟨hmem, hnot⟩ := h.closer hrole hframes (by simpa using! hunclosed) hb
    have hmelt : p.melt C = { melted C p.nodes bs with
        blocks := (unwind unclosed).foldl OpenBlock.add b :: (melted C p.nodes bs).blocks } := by
      rw [melt, hblocks, melted_append (by simpa using! hnot), melted_of_mem hmem,
        addAll_of_cons rfl]
    have hblocks' : (p.melt C).blocks =
        [] ++ (unwind unclosed).foldl OpenBlock.add b :: (melted C p.nodes bs).blocks := by
      rw [hmelt]
      rfl
    have hb' : ((unwind unclosed).foldl OpenBlock.add b).block = block := by
      rw [OpenBlock.foldl_add_block, hb]
    rw [if_pos hopen, read_closer hrole hblocks hunclosed hb, melt_add,
      read_closer hrole hblocks' (List.forall_mem_nil _) hb', hmelt]
    rfl

/-- Reading a token comes to the same after melting. -/
theorem read_melt (h : Frame.Foresees C (p.blocks.map (·.frame)) token) :
    (p.read token).melt C =
      (p.melt C).read
        (if Frame.settles C (p.blocks.map (·.frame)) token then token else token.asText) := by
  unfold Frame.settles
  cases hrole : token.role with
  | text => rw [if_pos rfl, read_text hrole, read_text hrole, melt_add]
  | scalar name => rw [if_pos rfl, read_scalar hrole, read_scalar hrole, melt_add]
  | opener block arg =>
    simp only [decide_eq_true_eq]
    exact read_melt_opener hrole h
  | otherwise =>
    rw [read_melt_otherwise hrole, List.head?_map, Option.any_map]
    simp only [Frame.takesElse_frame]
    rfl
  | closer block =>
    simp only [Frame.isSome_innermost?]
    exact read_melt_closer hrole h

/-- Reading all tokens in turn. -/
theorem foldl_read_melt {ts : List Token} (h : Frame.Foretells C (p.blocks.map (·.frame)) ts) :
    (ts.foldl read p).melt C =
      (Frame.settle C (p.blocks.map (·.frame)) ts).foldl read (p.melt C) := by
  induction ts generalizing p with
  | nil => rfl
  | cons t ts ih =>
    cases h with
    | cons hnow hlater =>
      rw [← Frame.frames_read] at hlater
      rw [List.foldl_cons, ih hlater, Frame.settle, List.foldl_cons, ← read_melt hnow,
        Frame.frames_read]

theorem foretells_end {fs : List Frame} {ts : List Token} (h : Frame.Foretells C fs ts) :
    ∀ f ∈ ts.foldl Frame.step fs, f.opener ∉ C := by
  induction h with
  | nil hnone => exact hnone
  | cons _ _ ih => exact ih

/-- At the end no block is open that would not have been melted. -/
theorem nodes_finish_eq (h : ∀ b ∈ p.blocks, b.opener ∉ C) :
    p.finish.nodes = (p.melt C).finish.nodes := by
  have hmelt : p.melt C = ({ nodes := p.nodes } : Progress).addAll (unwind p.blocks) := by
    rw [melt, ← List.append_nil p.blocks, melted_append h, List.append_nil]
    rfl
  have hblocks : (p.melt C).blocks = [] := by
    rw [hmelt, addAll_of_nil rfl]
  rw [finish_of_nil hblocks, hmelt, finish, addAll_of_nil rfl, addAll_of_nil rfl]

/-- The nodes are those of the tokens of which the tags that come to nothing have become text. -/
theorem nodes_settle {ts : List Token} (h : Frame.Foretells C [] ts) :
    (ts.foldl read {}).finish.nodes =
      ((Frame.settle C [] ts).foldl read {}).finish.nodes := by
  have hend : ∀ b ∈ (ts.foldl read {}).blocks, b.opener ∉ C := by
    intro b hb
    refine foretells_end h b.frame ?_
    rw [← List.map_nil, ← Frame.frames_foldl_read {} ts]
    exact List.mem_map_of_mem hb
  rw [nodes_finish_eq hend]
  exact congrArg (·.finish.nodes) (@foldl_read_melt C {} ts h)

end Progress

end MachineConfig.Template
