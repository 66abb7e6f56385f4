import MachineConfig.Proofs.Template.Spelling

/-!
Trees that differ at some places. `Node.Exchanged` relates lists of nodes which are the same but for
a number of places, at any depth, and for the sources of the blocks around these.
`Progress.Exchanged.foldl_read`: where what has been read so far is related like that, it stays so
as long as the same tags and texts are read, wherever they stand.
-/

namespace MachineConfig.Template

/-- The same nodes but for `n` places, where `olds` stand in the first and `news` in the second. The
source of a block around such a place has the same put in its place. -/
inductive Node.Exchanged (olds news : List Node) : Nat → List Node → List Node → Prop where
  | nil : Exchanged olds news 0 [] []
  | here {n ns ms} : Exchanged olds news n ns ms →
      Exchanged olds news (n + 1) (olds ++ ns) (news ++ ms)
  | same {n node ns ms} : Exchanged olds news n ns ms →
      Exchanged olds news n (node :: ns) (node :: ms)
  | conditional {k l n condition negate opener tag closer whenTrue whenTrue' whenFalse whenFalse' ns
      ms} : Exchanged olds news k whenTrue whenTrue' → Exchanged olds news l whenFalse whenFalse' →
      Exchanged olds news n ns ms →
      Exchanged olds news (k + l + n)
        (.conditional condition negate whenTrue whenFalse
          (opener ++ verbatims whenTrue ++ tag ++ verbatims whenFalse ++ closer) :: ns)
        (.conditional condition negate whenTrue' whenFalse'
          (opener ++ verbatims whenTrue' ++ tag ++ verbatims whenFalse' ++ closer) :: ms)
  | loop {k n array opener closer body body' ns ms} : Exchanged olds news k body body' →
      Exchanged olds news n ns ms →
      Exchanged olds news (k + n) (.loop array body (opener ++ verbatims body ++ closer) :: ns)
        (.loop array body' (opener ++ verbatims body' ++ closer) :: ms)

/-- Two tokens that read the same, wherever they stand. -/
def Token.Alike (t t' : Token) : Prop := t.role = t'.role ∧ t.text = t'.text

theorem Token.ofPieces_alike (start start' : Nat) (ps : List Piece) :
    List.Forall₂ Token.Alike (ofPieces start ps) (ofPieces start' ps) := by
  induction ps generalizing start start' with
  | nil => exact .nil
  | cons p ps ih => exact .cons ⟨rfl, rfl⟩ (ih _ _)

variable {olds news : List Node} {k l n : Nat}

namespace Node.Exchanged

variable {ns ns' ms ms' : List Node}

theorem refl (ns : List Node) : Exchanged olds news 0 ns ns := by
  induction ns with
  | nil => exact .nil
  | cons node ns ih => exact .same ih

theorem append (h : Exchanged olds news n ns ns') (h' : Exchanged olds news k ms ms') :
    Exchanged olds news (n + k) (ns ++ ms) (ns' ++ ms') := by
  induction h with
  | nil => simpa using h'
  | here _ ih => simpa [Nat.add_right_comm] using ih.here
  | same _ ih => exact .same ih
  | conditional htrue hfalse _ _ _ ih =>
    rw [Nat.add_assoc]
    exact .conditional htrue hfalse ih
  | loop hbody _ _ ih =>
    rw [Nat.add_assoc]
    exact .loop hbody ih

theorem place : Exchanged olds news 1 olds news := by
  simpa using (@Exchanged.nil olds news).here

end Node.Exchanged

namespace OpenBlock

/-- Two blocks with the same tags, wherever these stand. -/
structure SameTags (b b' : OpenBlock) : Prop where
  block : b.block = b'.block
  arg : b.arg = b'.arg
  opener : b.opener.text = b'.opener.text

/-- Two blocks that are being read, the same but for `n` places. -/
inductive Exchanged (olds news : List Node) : Nat → OpenBlock → OpenBlock → Prop where
  | whole {n b b'} : SameTags b b' → b.otherwise = none → b'.otherwise = none →
      Node.Exchanged olds news n b.children.toList b'.children.toList → Exchanged olds news n b b'
  | divided {k n b b' tag tag' nodes nodes'} : SameTags b b' → b.block = .ifBlock →
      b.otherwise = some (tag, nodes) → b'.otherwise = some (tag', nodes') → tag.text = tag'.text →
      Node.Exchanged olds news k b.children.toList b'.children.toList →
      Node.Exchanged olds news n nodes.toList nodes'.toList → Exchanged olds news (k + n) b b'

namespace Exchanged

variable {b b' : OpenBlock} {ns ns' : List Node}

theorem sameTags (h : b.Exchanged olds news n b') : SameTags b b' := by
  cases h with
  | whole hsame => exact hsame
  | divided hsame => exact hsame

theorem takesElse_eq (h : b.Exchanged olds news n b') : b.takesElse = b'.takesElse := by
  cases h with
  | whole hsame hnone hnone' => rw [takesElse, takesElse, hsame.block, hnone, hnone']
  | divided hsame _ hsome hsome' => rw [takesElse, takesElse, hsame.block, hsome, hsome']; rfl

theorem addAll (h : b.Exchanged olds news n b') (hns : Node.Exchanged olds news k ns ns') :
    (ns.foldl add b).Exchanged olds news (n + k) (ns'.foldl add b') := by
  cases h with
  | whole hsame hnone hnone' hchildren =>
    rw [foldl_add_of_none hnone, foldl_add_of_none hnone']
    exact .whole ⟨hsame.block, hsame.arg, hsame.opener⟩ hnone hnone'
      (by simpa using hchildren.append hns)
  | divided hsame hblock hsome hsome' htag hchildren hnodes =>
    rw [foldl_add_of_some hsome, foldl_add_of_some hsome', Nat.add_assoc]
    exact .divided ⟨hsame.block, hsame.arg, hsame.opener⟩ hblock rfl rfl htag hchildren
      (by simpa using hnodes.append hns)

theorem takeElse (h : b.Exchanged olds news n b') (htakes : b.takesElse) {tag tag' : Token}
    (htag : tag.text = tag'.text) :
    Exchanged olds news n { b with otherwise := some (tag, #[]) }
      { b' with otherwise := some (tag', #[]) } := by
  simp only [takesElse, Bool.and_eq_true, decide_eq_true_eq, Option.isNone_iff_eq_none] at htakes
  cases h with
  | @whole n _ _ hsame _ _ hchildren =>
    have hsame' : SameTags { b with otherwise := some (tag, #[]) }
        { b' with otherwise := some (tag', #[]) } := ⟨hsame.block, hsame.arg, hsame.opener⟩
    exact .divided hsame' htakes.1 rfl rfl htag hchildren .nil
  | divided _ _ hsome => simp [htakes.2] at hsome

theorem literal (h : b.Exchanged olds news n b') :
    Node.Exchanged olds news n b.literal b'.literal := by
  cases h with
  | whole hsame hnone hnone' hchildren =>
    simp only [OpenBlock.literal, hnone, hnone', List.append_nil, hsame.opener]
    exact .same hchildren
  | divided hsame hblock hsome hsome' htag hchildren hnodes =>
    simp only [OpenBlock.literal, hsome, hsome', hsame.opener, htag]
    exact .same (hchildren.append (.same hnodes))

theorem node (h : b.Exchanged olds news n b') {closer closer' : Token}
    (hcloser : closer.text = closer'.text) :
    Node.Exchanged olds news n [b.node closer] [b'.node closer'] := by
  cases h with
  | whole hsame hnone hnone' hchildren =>
    have hconditional (negate : Bool) := @Node.Exchanged.conditional olds news n 0 0 b.arg negate
      b.opener.text "" closer.text _ _ [] [] [] [] hchildren .nil .nil
    have hloop := @Node.Exchanged.loop olds news n 0 b.arg b.opener.text closer.text _ _ [] []
      hchildren .nil
    simp only [Node.verbatims_nil, String.append_empty, Nat.add_zero] at hconditional hloop
    simp only [OpenBlock.node, OpenBlock.literal, hnone, hnone', List.append_nil,
      Node.verbatims_cons, Node.verbatim, Option.map_none, Option.getD_none, ← hsame.block,
      ← hsame.arg, ← hsame.opener, ← hcloser]
    cases b.block with
    | ifBlock => exact hconditional false
    | unlessBlock => exact hconditional true
    | eachBlock => exact hloop
  | @divided k m _ _ tag _ _ _ hsame hblock hsome hsome' htag hchildren hnodes =>
    have hconditional := @Node.Exchanged.conditional olds news k m 0 b.arg false b.opener.text
      tag.text closer.text _ _ _ _ [] [] hchildren hnodes .nil
    simp only [Nat.add_zero, String.append_assoc] at hconditional
    simp only [OpenBlock.node, OpenBlock.literal, hsome, hsome', Node.verbatims_append,
      Node.verbatims_cons, Node.verbatim, Option.map_some, Option.getD_some, ← hsame.block,
      ← hsame.arg, ← hsame.opener, ← hcloser, ← htag, hblock, Form.blockNode, String.append_assoc]
    exact hconditional

end Exchanged

/-- The same of open blocks, the innermost first. -/
inductive AllExchanged (olds news : List Node) : Nat → List OpenBlock → List OpenBlock → Prop where
  | nil : AllExchanged olds news 0 [] []
  | cons {k n b b' bs bs'} : b.Exchanged olds news k b' → AllExchanged olds news n bs bs' →
      AllExchanged olds news (n + k) (b :: bs) (b' :: bs')

namespace AllExchanged

variable {bs bs' inside outside : List OpenBlock} {b : OpenBlock}

theorem unwind (h : AllExchanged olds news n bs bs') :
    Node.Exchanged olds news n (unwind bs) (unwind bs') := by
  induction h with
  | nil => exact .nil
  | cons hb _ ih =>
    rw [unwind_cons, unwind_cons]
    exact ih.append hb.literal

theorem map_block (h : AllExchanged olds news n bs bs') : bs.map (·.block) = bs'.map (·.block) := by
  induction h with
  | nil => rfl
  | cons hb _ ih => rw [List.map_cons, List.map_cons, ih, hb.sameTags.block]

/-- The block at some place, those inside it and those outside it. -/
theorem split (h : AllExchanged olds news n (inside ++ b :: outside) bs') :
    ∃ k l m inside' b' outside', n = m + l + k ∧ bs' = inside' ++ b' :: outside' ∧
      AllExchanged olds news k inside inside' ∧ b.Exchanged olds news l b' ∧
      AllExchanged olds news m outside outside' := by
  induction inside generalizing n bs' with
  | nil =>
    cases h with
    | cons hb hrest => exact ⟨0, _, _, [], _, _, rfl, rfl, .nil, hb, hrest⟩
  | cons c inside ih =>
    cases h with
    | @cons j _ _ c' _ _ hc hrest =>
      obtain ⟨k, l, m, inside', b', outside', rfl, rfl, hinside, hb, houtside⟩ := ih hrest
      exact ⟨k + j, l, m, c' :: inside', b', outside', by omega, rfl, hinside.cons hc, hb, houtside⟩

end AllExchanged

end OpenBlock

namespace Progress

/-- What has been read of two documents, the same but for `n` places. -/
inductive Exchanged (olds news : List Node) : Nat → Progress → Progress → Prop where
  | mk {k l p p'} : Node.Exchanged olds news k p.nodes.toList p'.nodes.toList →
      OpenBlock.AllExchanged olds news l p.blocks p'.blocks → Exchanged olds news (k + l) p p'

namespace Exchanged

variable {p p' : Progress} {ns ns' : List Node} {t t' : Token}

theorem addAll (h : p.Exchanged olds news n p') (hns : Node.Exchanged olds news k ns ns') :
    (p.addAll ns).Exchanged olds news (n + k) (p'.addAll ns') := by
  cases h with
  | @mk i l _ _ hnodes hblocks =>
    cases hbs : p.blocks with
    | nil =>
      rw [hbs] at hblocks
      generalize hbs' : p'.blocks = bs' at hblocks
      cases hblocks
      rw [addAll_of_nil hbs, addAll_of_nil hbs', Nat.add_zero, ← Nat.add_zero (i + k)]
      refine .mk (by simpa using hnodes.append hns) ?_
      simp only [hbs, hbs']
      exact .nil
    | cons b bs =>
      rw [hbs] at hblocks
      generalize hbs' : p'.blocks = bs' at hblocks
      cases hblocks with
      | cons hb hrest =>
        rw [addAll_of_cons hbs, addAll_of_cons hbs', Nat.add_assoc]
        refine .mk hnodes ?_
        rw [Nat.add_assoc]
        exact hrest.cons (hb.addAll hns)

theorem add (h : p.Exchanged olds news n p') {node node' : Node}
    (hnode : Node.Exchanged olds news k [node] [node']) :
    (p.add node).Exchanged olds news (n + k) (p'.add node') := h.addAll hnode

theorem text (h : p.Exchanged olds news n p') (htext : t.text = t'.text) :
    (p.add (.text t.text)).Exchanged olds news n (p'.add (.text t'.text)) := by
  rw [htext]
  exact h.add (.refl _)

theorem map_block (h : p.Exchanged olds news n p') :
    p.blocks.map (·.block) = p'.blocks.map (·.block) := by
  cases h with
  | mk _ hblocks => exact hblocks.map_block

theorem inLoop_eq (h : p.Exchanged olds news n p') : p.inLoop = p'.inLoop := by
  have hany := congrArg (·.any fun block => decide (block = .eachBlock)) h.map_block
  simpa only [List.any_map, Function.comp_def] using! hany

theorem closer (h : p.Exchanged olds news n p') {block : Block} (hrole : t.role = .closer block)
    (hrole' : t'.role = .closer block) (htext : t.text = t'.text) :
    (p.read t).Exchanged olds news n (p'.read t') := by
  rcases exists_innermost OpenBlock.block block p.blocks with
    hnone | ⟨unclosed, b, outside, hblocks, hunclosed, hb⟩
  · have hnone' : ∀ b ∈ p'.blocks, b.block ≠ block := by
      have hmap : ∀ kind ∈ p.blocks.map (·.block), kind ≠ block := by simpa using hnone
      rw [h.map_block] at hmap
      simpa using hmap
    rw [read_unopened hrole hnone, read_unopened hrole' hnone']
    exact h.text htext
  · cases h with
    | mk hnodes hall =>
      rw [hblocks] at hall
      obtain ⟨k, l, m, unclosed', b', outside', rfl, hblocks', hinside, hexchanged, houtside⟩ :=
        hall.split
      have hunclosed' : ∀ c ∈ unclosed', c.block ≠ block := by
        have hmap : ∀ kind ∈ unclosed.map (·.block), kind ≠ block := by simpa using hunclosed
        rw [hinside.map_block] at hmap
        simpa using hmap
      have hb' : b'.block = block := hexchanged.sameTags.block.symm.trans hb
      rw [read_closer hrole hblocks hunclosed hb, read_closer hrole' hblocks' hunclosed' hb']
      have hbase : Exchanged olds news _ { p with blocks := outside }
          { p' with blocks := outside' } := .mk hnodes houtside
      have hwhole := hbase.add ((hexchanged.addAll hinside.unwind).node htext)
      rwa [Nat.add_assoc, ← Nat.add_assoc m] at hwhole

theorem opener (h : p.Exchanged olds news n p') {block : Block} {arg : String}
    (htext : t.text = t'.text) :
    Exchanged olds news n { p with blocks := { block, arg, opener := t } :: p.blocks }
      { p' with blocks := { block, arg, opener := t' } :: p'.blocks } := by
  cases h with
  | @mk k l _ _ hnodes hblocks =>
    have hb : OpenBlock.Exchanged olds news 0 { block, arg, opener := t }
        { block, arg, opener := t' } := .whole ⟨rfl, rfl, htext⟩ rfl rfl .nil
    exact .mk hnodes (hblocks.cons hb)

theorem otherwise (h : p.Exchanged olds news n p') (hrole : t.role = .otherwise)
    (hrole' : t'.role = .otherwise) (htext : t.text = t'.text) :
    (p.read t).Exchanged olds news n (p'.read t') := by
  have hstray := h.text htext
  rcases h with ⟨hnodes, hblocks⟩
  cases hbs : p.blocks with
  | nil =>
    rw [hbs] at hblocks
    generalize hbs' : p'.blocks = bs' at hblocks
    cases hblocks
    rwa [read_stray hrole (by simp [hbs]), read_stray hrole' (by simp [hbs'])]
  | cons b bs =>
    rw [hbs] at hblocks
    generalize hbs' : p'.blocks = bs' at hblocks
    cases hblocks with
    | @cons k n _ b' _ bs' hb hrest =>
      by_cases htakes : b.takesElse
      · rw [read_taken hrole hbs htakes, read_taken hrole' hbs' (hb.takesElse_eq ▸ htakes)]
        exact .mk hnodes (hrest.cons (hb.takeElse htakes htext))
      · have htakes' : b'.takesElse = false := by simpa [hb.takesElse_eq] using htakes
        rwa [read_stray hrole (by simpa [hbs] using htakes),
          read_stray hrole' (by simpa [hbs'] using htakes')]

/-- The same tag or text is read. -/
theorem read (h : p.Exchanged olds news n p') (hrole : t.role = t'.role)
    (htext : t.text = t'.text) : (p.read t).Exchanged olds news n (p'.read t') := by
  cases hrole' : t'.role with
  | text =>
    rw [read_text (hrole.trans hrole'), read_text hrole']
    exact h.text htext
  | scalar name =>
    rw [read_scalar (hrole.trans hrole'), read_scalar hrole', htext]
    exact h.add (.refl _)
  | opener block arg =>
    by_cases hnested : block = .eachBlock ∧ p'.inLoop
    · obtain ⟨rfl, hloop⟩ := hnested
      rw [read_nested (hrole.trans hrole') (h.inLoop_eq.trans hloop), read_nested hrole' hloop]
      cases h.text htext with
      | mk hnodes hblocks => exact .mk hnodes hblocks
    · have hfree : block = .eachBlock → p'.inLoop = false := fun hblock => by
        simpa [hblock] using hnested
      rw [read_opener (hrole.trans hrole') fun hblock => h.inLoop_eq.trans (hfree hblock),
        read_opener hrole' hfree]
      exact h.opener htext
  | otherwise => exact h.otherwise (hrole.trans hrole') hrole' htext
  | closer block => exact h.closer (hrole.trans hrole') hrole' htext

/-- Reading the same tags and texts in turn. -/
theorem foldl_read {ts ts' : List Token} (h : p.Exchanged olds news n p')
    (hts : List.Forall₂ Token.Alike ts ts') :
    (ts.foldl Progress.read p).Exchanged olds news n (ts'.foldl Progress.read p') := by
  induction hts generalizing p p' with
  | nil => exact h
  | cons halike _ ih => exact ih (h.read halike.1 halike.2)

theorem finish (h : p.Exchanged olds news n p') :
    Node.Exchanged olds news n p.finish.nodes.toList p'.finish.nodes.toList := by
  rcases h with ⟨hnodes, hblocks⟩
  rw [Progress.finish, Progress.finish, addAll_of_nil rfl, addAll_of_nil rfl]
  simpa using hnodes.append hblocks.unwind

end Exchanged

/-- Reading texts adds them. -/
theorem foldl_read_texts {ts : List Token} (h : ∀ t ∈ ts, t.role = .text) (p : Progress) :
    ts.foldl read p = p.addAll (ts.map fun t => .text t.text) := by
  induction ts generalizing p with
  | nil => rfl
  | cons t ts ih =>
    rw [List.forall_mem_cons] at h
    rw [List.foldl_cons, read_text h.1, ih h.2]
    rfl

/-- Where other texts stand between the same tokens, the trees are the same but for that place. -/
theorem exchanged_texts {before before' olds news after after' : List Token}
    (hbefore : List.Forall₂ Token.Alike before before')
    (hafter : List.Forall₂ Token.Alike after after')
    (holds : ∀ t ∈ olds, t.role = .text) (hnews : ∀ t ∈ news, t.role = .text) :
    Node.Exchanged (olds.map fun t => .text t.text) (news.map fun t => .text t.text) 1
      ((before ++ olds ++ after).foldl read {}).finish.nodes.toList
      ((before' ++ news ++ after').foldl read {}).finish.nodes.toList := by
  have start : Exchanged (olds.map fun t => .text t.text) (news.map fun t => .text t.text) (0 + 0)
      {} {} := .mk .nil .nil
  simp only [List.foldl_append, foldl_read_texts holds, foldl_read_texts hnews]
  exact (((start.foldl_read hbefore).addAll .place).foldl_read hafter).finish

end Progress

end MachineConfig.Template
