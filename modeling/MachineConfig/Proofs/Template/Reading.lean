import MachineConfig.Proofs.Template.TokenLemmas
import MachineConfig.Proofs.Template.TreeLemmas

/-!
Reading a document loses nothing. `ReadsAs` relates tokens to the nodes that they may be read as:
each token is a text, a scalar or a tag of a block, and a block keeps as its source what its tags
and its parts spell. `Tree.readsAs_ofDocument`: the tokens of every document read as its tree. Its
invariant is `Progress.HasRead`, in which the blocks that are still open account for the tokens
since their opening tags.
-/

namespace MachineConfig.Template

/-- Consecutive tokens read as nodes. -/
inductive ReadsAs : List Token → List Node → Prop where
  | nil : ReadsAs [] []
  /-- Any token but a scalar may have to stand for itself. -/
  | text {token ts ns} : (∀ name, token.role ≠ .scalar name) → ReadsAs ts ns →
      ReadsAs (token :: ts) (.text token.text :: ns)
  | scalar {token name ts ns} : token.role = .scalar name → ReadsAs ts ns →
      ReadsAs (token :: ts) (.scalar name token.text :: ns)
  /-- An if or unless block without an else tag. -/
  | conditional {opener closer condition negate inner body ts ns} :
      opener.role = .opener (if negate then .unlessBlock else .ifBlock) condition →
      closer.role = .closer (if negate then .unlessBlock else .ifBlock) →
      ReadsAs inner body → ReadsAs ts ns →
      ReadsAs (opener :: inner ++ closer :: ts)
        (.conditional condition negate body []
          (opener.text ++ Node.verbatims body ++ closer.text) :: ns)
  /-- An if block with an else tag. -/
  | ifElse {opener tag closer condition inner inner' whenTrue whenFalse ts ns} :
      opener.role = .opener .ifBlock condition → tag.role = .otherwise →
      closer.role = .closer .ifBlock →
      ReadsAs inner whenTrue → ReadsAs inner' whenFalse → ReadsAs ts ns →
      ReadsAs (opener :: inner ++ tag :: inner' ++ closer :: ts)
        (.conditional condition false whenTrue whenFalse
          (opener.text ++ Node.verbatims whenTrue ++ tag.text ++ Node.verbatims whenFalse ++
            closer.text) :: ns)
  | loop {opener closer array inner body ts ns} :
      opener.role = .opener .eachBlock array → closer.role = .closer .eachBlock →
      ReadsAs inner body → ReadsAs ts ns →
      ReadsAs (opener :: inner ++ closer :: ts)
        (.loop array body (opener.text ++ Node.verbatims body ++ closer.text) :: ns)

namespace ReadsAs

/-- The nodes stand for what the tokens spell. -/
theorem verbatims_eq {ts : List Token} {ns : List Node} (h : ReadsAs ts ns) :
    Node.verbatims ns = Token.spelled ts := by
  induction h with
  | nil => rfl
  | text _ _ ih | scalar _ _ ih => simp [Node.verbatim, ih]
  | conditional _ _ _ _ ihBody ih | loop _ _ _ _ ihBody ih =>
    simp [Node.verbatim, ihBody, ih, String.append_assoc]
  | ifElse _ _ _ _ _ _ ihTrue ihFalse ih =>
    simp [Node.verbatim, ihTrue, ihFalse, ih, String.append_assoc]

theorem append {ts us : List Token} {ns ms : List Node} (h : ReadsAs ts ns)
    (h' : ReadsAs us ms) : ReadsAs (ts ++ us) (ns ++ ms) := by
  induction h with
  | nil => exact h'
  | text hrole _ ih => exact .text hrole ih
  | scalar hrole _ ih => exact .scalar hrole ih
  | conditional hopener hcloser hbody _ _ ih =>
    simpa using ReadsAs.conditional hopener hcloser hbody ih
  | ifElse hopener htag hcloser htrue hfalse _ _ _ ih =>
    simpa using ReadsAs.ifElse hopener htag hcloser htrue hfalse ih
  | loop hopener hcloser hbody _ _ ih =>
    simpa using ReadsAs.loop hopener hcloser hbody ih

end ReadsAs

namespace OpenBlock

/-- What has come of a block so far accounts for tokens, the first of which opened it. -/
inductive HasRead : List Token → OpenBlock → Prop where
  | whole {b inner} : b.opener.role = .opener b.block b.arg → b.otherwise = none →
      ReadsAs inner b.children.toList → HasRead (b.opener :: inner) b
  | divided {b tag nodes inner inner'} : b.opener.role = .opener b.block b.arg →
      b.block = .ifBlock → b.otherwise = some (tag, nodes) → tag.role = .otherwise →
      ReadsAs inner b.children.toList → ReadsAs inner' nodes.toList →
      HasRead (b.opener :: inner ++ tag :: inner') b

theorem HasRead.takeElse {ts : List Token} {b : OpenBlock} {tag : Token} (h : b.HasRead ts)
    (htakes : b.takesElse) (htag : tag.role = .otherwise) :
    ({ b with otherwise := some (tag, #[]) } : OpenBlock).HasRead (ts ++ [tag]) := by
  simp only [takesElse, Bool.and_eq_true, decide_eq_true_eq, Option.isNone_iff_eq_none] at htakes
  cases h with
  | whole hopener hnone hinner =>
    exact .divided (b := { b with otherwise := some (tag, #[]) }) hopener htakes.1 rfl htag
      hinner .nil
  | divided hopener hblock hsome htag hinner hinner' => simp [htakes.2] at hsome

theorem HasRead.addAll {ts us : List Token} {b : OpenBlock} {nodes : List Node}
    (h : b.HasRead ts) (hnodes : ReadsAs us nodes) :
    (nodes.foldl add b).HasRead (ts ++ us) := by
  cases h with
  | whole hopener hnone hinner =>
    rw [foldl_add_of_none hnone]
    exact .whole (b := { b with children := b.children ++ nodes.toArray }) hopener hnone
      (by simpa using hinner.append hnodes)
  | @divided _ tag old inner inner' hopener hblock hsome htag hinner hinner' =>
    rw [foldl_add_of_some hsome, List.append_assoc, List.cons_append]
    exact .divided (b := { b with otherwise := some (tag, old ++ nodes.toArray) }) hopener hblock
      rfl htag hinner (by simpa using hinner'.append hnodes)

/-- A block that is never closed reads as text and the content it has. -/
theorem HasRead.literal {ts : List Token} {b : OpenBlock} (h : b.HasRead ts) :
    ReadsAs ts b.literal := by
  cases h with
  | whole hopener hnone hinner =>
    simp only [OpenBlock.literal, hnone, List.append_nil]
    exact .text (by simp [hopener]) hinner
  | divided hopener hblock hsome htag hinner hinner' =>
    simp only [OpenBlock.literal, hsome]
    exact .text (by simp [hopener]) (hinner.append (.text (by simp [htag]) hinner'))

/-- A block that is closed keeps as its source what its tokens and the closing one spell. -/
theorem HasRead.close {document : String} {before ts after : List Token} {b : OpenBlock}
    {closer : Token} (h : b.HasRead ts) (hcloser : closer.role = .closer b.block)
    (hscan : Token.scan document = before ++ (ts ++ [closer]) ++ after) :
    ReadsAs (ts ++ [closer]) [b.close closer document.toList] := by
  cases h with
  | @whole _ inner hopener hnone hinner =>
    have hspelled : Token.spelled (b.opener :: inner ++ [closer]) =
        b.opener.text ++ Node.verbatims b.children.toList ++ closer.text := by
      simp [hinner.verbatims_eq, String.append_assoc]
    simp only [OpenBlock.close, Token.slice_scan hscan, hspelled, String.ofList_toList, hnone,
      Option.map_none, Option.getD_none]
    cases hblock : b.block with rw [hblock] at hopener hcloser
    | ifBlock => exact @ReadsAs.conditional _ _ _ false _ _ _ _ hopener hcloser hinner .nil
    | unlessBlock => exact @ReadsAs.conditional _ _ _ true _ _ _ _ hopener hcloser hinner .nil
    | eachBlock => exact .loop hopener hcloser hinner .nil
  | @divided _ tag nodes inner inner' hopener hblock hsome htag hinner hinner' =>
    have hspelled : Token.spelled (b.opener :: (inner ++ tag :: inner') ++ [closer]) =
        b.opener.text ++ Node.verbatims b.children.toList ++ tag.text ++
          Node.verbatims nodes.toList ++ closer.text := by
      simp [hinner.verbatims_eq, hinner'.verbatims_eq, String.append_assoc]
    have hscan' : Token.scan document =
        before ++ (b.opener :: (inner ++ tag :: inner') ++ [closer]) ++ after := by
      simpa using hscan
    rw [hblock] at hopener hcloser
    simp only [OpenBlock.close, hblock, hsome, Token.slice_scan hscan', hspelled,
      String.ofList_toList, Option.map_some, Option.getD_some]
    exact .ifElse hopener htag hcloser hinner hinner' .nil

/-- The open blocks, the innermost first, account for consecutive tokens. -/
inductive HaveRead : List Token → List OpenBlock → Prop where
  | nil : HaveRead [] []
  | cons {ts us b bs} : HaveRead ts bs → HasRead us b → HaveRead (ts ++ us) (b :: bs)

theorem HaveRead.unwind {ts : List Token} {bs : List OpenBlock} (h : HaveRead ts bs) :
    ReadsAs ts (unwind bs) := by
  induction h with
  | nil => exact .nil
  | cons _ hb ih =>
    rw [unwind_cons]
    exact ih.append hb.literal

/-- The tokens since some open block: its own, and those of the blocks inside it. -/
theorem HaveRead.split {ts : List Token} {inside outside : List OpenBlock} {b : OpenBlock}
    (h : HaveRead ts (inside ++ b :: outside)) :
    ∃ before us vs, ts = before ++ us ++ vs ∧
      HaveRead before outside ∧ b.HasRead us ∧ HaveRead vs inside := by
  induction inside generalizing ts with
  | nil =>
    cases h with
    | @cons before us _ _ hbefore hb =>
      exact ⟨before, us, [], by simp, hbefore, hb, .nil⟩
  | cons c inside ih =>
    cases h with
    | @cons _ ws _ _ hrest hc =>
      obtain ⟨before, us, vs, rfl, hbefore, hb, hinside⟩ := ih hrest
      exact ⟨before, us, vs ++ ws, by simp, hbefore, hb, hinside.cons hc⟩

end OpenBlock

namespace Progress

/-- The blocks are those inside the innermost one of a kind, that one, and those outside it. -/
theorem span_blocks_eq {blocks unclosed bs : List OpenBlock} {b : OpenBlock} {block : Block}
    (h : blocks.span (·.block ≠ block) = (unclosed, b :: bs)) :
    blocks = unclosed ++ b :: bs ∧ b.block = block := by
  rw [List.span_eq_takeWhile_dropWhile, Prod.mk.injEq] at h
  obtain ⟨htake, hdrop⟩ := h
  refine ⟨by rw [← htake, ← hdrop, List.takeWhile_append_dropWhile], ?_⟩
  have hhead := List.head?_dropWhile_not (·.block ≠ block) blocks
  rw [hdrop] at hhead
  simpa using hhead

/-- The invariant of reading: the finished nodes account for the first tokens, and the open blocks
for those after them. -/
def HasRead (ts : List Token) (p : Progress) : Prop :=
  ∃ done rest, ts = done ++ rest ∧ ReadsAs done p.nodes.toList ∧
    OpenBlock.HaveRead rest p.blocks

theorem HasRead.add {ts us : List Token} {p : Progress} {node : Node} (h : p.HasRead ts)
    (hnode : ReadsAs us [node]) : (p.add node).HasRead (ts ++ us) := by
  obtain ⟨done, rest, rfl, hdone, hrest⟩ := h
  cases hblocks : p.blocks with
  | nil =>
    rw [hblocks] at hrest
    cases hrest
    refine ⟨done ++ us, [], by simp, ?_, ?_⟩
    · simpa [Progress.add, hblocks] using hdone.append hnode
    · simpa [Progress.add, hblocks] using .nil
  | cons b bs =>
    rw [hblocks] at hrest
    cases hrest with
    | @cons before vs _ _ hbefore hb =>
      refine ⟨done, before ++ (vs ++ us), by simp, ?_, ?_⟩
      · simpa [Progress.add, hblocks] using hdone
      · simpa [Progress.add, hblocks] using hbefore.cons (hb.addAll hnode)

theorem HasRead.text {ts : List Token} {p : Progress} {token : Token} (h : p.HasRead ts)
    (hrole : ∀ name, token.role ≠ .scalar name) :
    (p.add (.text token.text)).HasRead (ts ++ [token]) :=
  h.add (.text hrole .nil)

theorem HasRead.close {document : String} {ts after : List Token} {p : Progress} {block : Block}
    {closer : Token} (h : p.HasRead ts) (hcloser : closer.role = .closer block)
    (hscan : Token.scan document = ts ++ closer :: after) :
    (p.close block closer document.toList).HasRead (ts ++ [closer]) := by
  unfold Progress.close
  split
  · exact h.text (by simp [hcloser])
  · rename_i unclosed b bs hspan
    obtain ⟨hblocks, hblock⟩ := span_blocks_eq hspan
    obtain ⟨done, rest, rfl, hdone, hrest⟩ := h
    rw [hblocks] at hrest
    obtain ⟨before, us, vs, rfl, hbefore, hb, hinside⟩ := hrest.split
    -- What was never closed inside the block becomes the end of its content.
    have hfull := hb.addAll hinside.unwind
    have hbase : HasRead (done ++ before) { p with blocks := bs } :=
      ⟨done, before, rfl, hdone, hbefore⟩
    have hscan' : Token.scan document =
        done ++ before ++ (us ++ vs ++ [closer]) ++ after := by simpa using hscan
    have hnode := hfull.close (by rw [OpenBlock.foldl_add_block, hblock, hcloser]) hscan'
    simpa using hbase.add hnode

theorem HasRead.step {document : String} {ts after : List Token} {p : Progress} {token : Token}
    (h : p.HasRead ts) (hscan : Token.scan document = ts ++ token :: after) :
    (p.step document.toList token).HasRead (ts ++ [token]) := by
  unfold Progress.step
  cases hrole : token.role with
  | text => exact h.text (by simp [hrole])
  | scalar name => exact h.add (.scalar hrole .nil)
  | closer block => exact h.close hrole hscan
  | opener block arg =>
    by_cases hnested : block = .eachBlock ∧ p.inLoop
    · simp only [if_pos hnested]
      exact h.text (by simp [hrole])
    · obtain ⟨done, rest, rfl, hdone, hrest⟩ := h
      simp only [if_neg hnested]
      exact ⟨done, rest ++ [token], by simp, hdone,
        hrest.cons (.whole (b := { block, arg, opener := token }) hrole rfl .nil)⟩
  | otherwise =>
    have htext : (p.add (.text token.text)).HasRead (ts ++ [token]) := h.text (by simp [hrole])
    obtain ⟨done, rest, rfl, hdone, hrest⟩ := h
    cases hblocks : p.blocks with
    | nil => simpa only using htext
    | cons b bs =>
      by_cases htakes : b.takesElse
      · simp only [if_pos htakes]
        rw [hblocks] at hrest
        cases hrest with
        | @cons before us _ _ hbefore hb =>
          refine ⟨done, before ++ (us ++ [token]), by simp, hdone, hbefore.cons ?_⟩
          exact hb.takeElse htakes hrole
      · simpa only [if_neg htakes] using htext

/-- Reading all tokens in turn. -/
theorem HasRead.foldl_step {document : String} {ts us : List Token} {p : Progress}
    (h : p.HasRead ts) (hscan : Token.scan document = ts ++ us) :
    (us.foldl (Progress.step document.toList) p).HasRead (ts ++ us) := by
  induction us generalizing ts p with
  | nil => simpa using h
  | cons token us ih =>
    have hstep := h.step hscan
    rw [List.append_cons] at hscan ⊢
    exact ih hstep hscan

/-- At the end the blocks that are still open become text. -/
theorem HasRead.finish {ts : List Token} {p : Progress} (h : p.HasRead ts) :
    ReadsAs ts p.finish.nodes.toList := by
  obtain ⟨done, rest, rfl, hdone, hrest⟩ := h
  rw [Progress.finish, addAll_of_nil rfl]
  simpa using hdone.append hrest.unwind

end Progress

namespace Tree

theorem readsAs_ofDocument (document : String) :
    ReadsAs (Token.scan document) (ofDocument document).nodes := by
  have start : Progress.HasRead [] {} := ⟨[], [], rfl, .nil, .nil⟩
  exact (start.foldl_step rfl).finish

/-- The nodes of a tree stand for the whole document, and at every depth each block keeps what its
tags and its parts spell. -/
theorem ofDocument_lossless (document : String) :
    Node.verbatims (ofDocument document).nodes = document ∧
      ReadsAs (Token.scan document) (ofDocument document).nodes := by
  have h := readsAs_ofDocument document
  refine ⟨?_, h⟩
  rw [h.verbatims_eq, Token.spelled_scan]

end Tree

end MachineConfig.Template
