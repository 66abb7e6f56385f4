import MachineConfig.Proofs.Template.Frames
import MachineConfig.Proofs.Template.Partition

/-!
The shape of trees. However a document nests its tags, no loop of its tree stands in a loop and no
unless block has a second branch, and the warnings are those of the each tags that are read while a
loop is open (`Tree.ofDocument_shape`). The invariant of reading is `Progress.IsShaped`: at most one
of the open blocks is a loop, and there is no loop in the blocks that were opened since.
-/

namespace MachineConfig.Template

namespace Node

def isLoop : Node → Bool
  | loop .. => true
  | _ => false

/-- The nodes directly below a node. -/
def parts : Node → List Node
  | conditional _ _ whenTrue whenFalse _ => whenTrue ++ whenFalse
  | loop _ body _ => body
  | _ => []

/-- A node is one of these nodes or stands anywhere below them. -/
inductive Occurs (n : Node) : List Node → Prop where
  | here {ns} : n ∈ ns → Occurs n ns
  | inside {m ns} : m ∈ ns → Occurs n m.parts → Occurs n ns

/-- All of these nodes, and all that stand anywhere below them. -/
def Everywhere (P : Node → Prop) (ns : List Node) : Prop := ∀ n, Occurs n ns → P n

section everywhere

variable {P Q : Node → Prop} {n : Node} {ns ms : List Node}

theorem Everywhere.mono (h : Everywhere P ns) (himp : ∀ n, P n → Q n) : Everywhere Q ns :=
  fun n hn => himp n (h n hn)

theorem occurs_append : Occurs n (ns ++ ms) ↔ Occurs n ns ∨ Occurs n ms := by
  constructor
  · intro h
    cases h with
    | here hmem => exact (List.mem_append.mp hmem).imp .here .here
    | inside hmem hbelow =>
      exact (List.mem_append.mp hmem).imp (.inside · hbelow) (.inside · hbelow)
  · rintro ((hmem | ⟨hmem, hbelow⟩) | (hmem | ⟨hmem, hbelow⟩))
    · exact .here (List.mem_append_left _ hmem)
    · exact .inside (List.mem_append_left _ hmem) hbelow
    · exact .here (List.mem_append_right _ hmem)
    · exact .inside (List.mem_append_right _ hmem) hbelow

theorem everywhere_nil : Everywhere P [] := by
  rintro n (hmem | ⟨hmem, -⟩) <;> cases hmem

theorem everywhere_append : Everywhere P (ns ++ ms) ↔ Everywhere P ns ∧ Everywhere P ms := by
  simp only [Everywhere, occurs_append, or_imp, forall_and]

theorem everywhere_singleton : Everywhere P [n] ↔ P n ∧ Everywhere P n.parts := by
  constructor
  · intro h
    exact ⟨h n (.here (List.mem_singleton_self n)),
      fun m hm => h m (.inside (List.mem_singleton_self n) hm)⟩
  · rintro ⟨hn, hparts⟩ m (hmem | ⟨hmem, hbelow⟩)
    · rwa [List.mem_singleton.mp hmem]
    · rw [List.mem_singleton.mp hmem] at hbelow
      exact hparts m hbelow

theorem everywhere_cons : Everywhere P (n :: ns) ↔ Everywhere P [n] ∧ Everywhere P ns := by
  rw [← List.singleton_append, everywhere_append]

end everywhere

/-- No loop stands in a loop, and only an if block has a second branch. -/
def IsShaped : Node → Prop
  | loop _ body _ => Everywhere (fun n => n.isLoop = false) body
  | conditional _ negate _ whenFalse _ => negate = true → whenFalse = []
  | _ => True

/-- A node may stand inside a loop, or outside all loops. -/
def Fits (inLoop : Bool) (n : Node) : Prop := n.IsShaped ∧ (inLoop = true → n.isLoop = false)

theorem Fits.outside {inLoop : Bool} {n : Node} (h : n.Fits inLoop) : n.Fits false := ⟨h.1, nofun⟩

theorem fits_text (inLoop : Bool) (value : String) : Everywhere (Fits inLoop) [text value] :=
  everywhere_singleton.mpr ⟨⟨trivial, fun _ => rfl⟩, everywhere_nil⟩

theorem fits_scalar (inLoop : Bool) (name source : String) :
    Everywhere (Fits inLoop) [scalar name source] :=
  everywhere_singleton.mpr ⟨⟨trivial, fun _ => rfl⟩, everywhere_nil⟩

end Node

open Node (Everywhere Fits)

namespace OpenBlock

/-- What has been read inside a block, on both sides of its else tag. -/
def content (b : OpenBlock) : List Node :=
  b.children.toList ++ (b.otherwise.map (·.2.toList)).getD []

/-- One of the blocks is a loop. -/
def loopIn (bs : List OpenBlock) : Bool := bs.any (·.block = .eachBlock)

/-- At most one of the open blocks is a loop, there is none in it and the blocks inside it, and only
an if block has an else tag. -/
inductive AreShaped : List OpenBlock → Prop where
  | nil : AreShaped []
  | cons {b bs} : AreShaped bs → (b.block = .eachBlock → loopIn bs = false) →
      (b.block ≠ .ifBlock → b.otherwise = none) →
      Everywhere (Fits (loopIn (b :: bs))) b.content → AreShaped (b :: bs)

variable {b : OpenBlock} {bs inside outside : List OpenBlock} {inLoop : Bool}

theorem content_foldl_add (b : OpenBlock) (nodes : List Node) :
    (nodes.foldl add b).content = b.content ++ nodes := by
  cases h : b.otherwise with
  | none =>
    rw [foldl_add_of_none h]
    simp [content, h]
  | some taken =>
    rw [foldl_add_of_some h]
    simp [content, h]

theorem otherwise_foldl_add (b : OpenBlock) (nodes : List Node) :
    (nodes.foldl add b).otherwise = none ↔ b.otherwise = none := by
  cases h : b.otherwise with
  | none => rw [foldl_add_of_none h, h]
  | some taken => simp [foldl_add_of_some h]

theorem fits_literal (h : Everywhere (Fits inLoop) b.content) :
    Everywhere (Fits inLoop) b.literal := by
  rw [content, Node.everywhere_append] at h
  have hopener := Node.fits_text inLoop b.opener.text
  rw [literal, Node.everywhere_append, Node.everywhere_cons]
  refine ⟨⟨hopener, h.1⟩, ?_⟩
  cases hotherwise : b.otherwise with
  | none => exact Node.everywhere_nil
  | some taken =>
    have hrest := h.2
    rw [hotherwise] at hrest
    exact Node.everywhere_cons.mpr ⟨Node.fits_text inLoop taken.1.text, hrest⟩

theorem loopIn_append_right (inside : List OpenBlock) (h : loopIn outside = true) :
    loopIn (inside ++ outside) = true := by
  rw [loopIn, List.any_append]
  exact Bool.or_eq_true_iff.mpr (.inr h)

theorem AreShaped.of_append (h : AreShaped (inside ++ outside)) : AreShaped outside := by
  induction inside with
  | nil => exact h
  | cons b inside ih =>
    cases h with
    | cons hrest => exact ih hrest

/-- What becomes of blocks that are never closed fits in where they were opened. -/
theorem AreShaped.unwind (h : AreShaped (inside ++ outside)) :
    Everywhere (Fits (loopIn outside)) (unwind inside) := by
  induction inside with
  | nil => exact Node.everywhere_nil
  | cons b inside ih =>
    cases h with
    | cons hrest _ _ hcontent =>
      rw [unwind_cons, Node.everywhere_append]
      refine ⟨ih hrest, fits_literal (hcontent.mono fun n hn => ⟨hn.1, fun houtside => hn.2 ?_⟩)⟩
      exact loopIn_append_right (b :: inside) houtside

/-- The node of a closed block fits in where the block was opened. -/
theorem fits_close (heach : b.block = .eachBlock → loopIn bs = false)
    (hplain : b.block ≠ .ifBlock → b.otherwise = none)
    (hcontent : Everywhere (Fits (loopIn (b :: bs))) b.content) (closer : Token)
    (document : List Char) : Everywhere (Fits (loopIn bs)) [b.close closer document] := by
  have hbelow : Everywhere (Fits (loopIn bs)) b.content :=
    hcontent.mono fun n hn => ⟨hn.1, fun houtside => hn.2 (loopIn_append_right [b] houtside)⟩
  rw [Node.everywhere_singleton]
  cases hblock : b.block with
  | eachBlock =>
    have hinside : loopIn (b :: bs) = true := by simp [loopIn, hblock]
    have hnone := hplain (by simp [hblock])
    simp only [content, hnone, Option.map_none, Option.getD_none, List.append_nil] at hcontent hbelow
    simp only [close, hblock]
    refine ⟨⟨hcontent.mono fun n hn => hn.2 hinside, ?_⟩, hbelow⟩
    simp [heach hblock]
  | ifBlock =>
    simp only [close, hblock]
    exact ⟨⟨fun h => (Bool.false_ne_true h).elim, fun _ => rfl⟩, hbelow⟩
  | unlessBlock =>
    have hnone := hplain (by simp [hblock])
    simp only [close, hblock]
    refine ⟨⟨fun _ => ?_, fun _ => rfl⟩, hbelow⟩
    rw [hnone, Option.map_none, Option.getD_none]

end OpenBlock

namespace Progress

variable {p : Progress} {node : Node} {nodes : List Node} {token : Token}

/-- The invariant of reading: what is finished and what is open has the shape that trees have. -/
structure IsShaped (p : Progress) : Prop where
  nodes : Everywhere (Fits false) p.nodes.toList
  blocks : OpenBlock.AreShaped p.blocks

theorem IsShaped.add (h : p.IsShaped) (hnode : Everywhere (Fits p.inLoop) [node]) :
    (p.add node).IsShaped := by
  rcases p with ⟨done, _ | ⟨b, bs⟩, warnings⟩
  · refine ⟨?_, .nil⟩
    simp only [Progress.add, Array.toList_push]
    exact Node.everywhere_append.mpr ⟨h.nodes, hnode⟩
  · refine ⟨h.nodes, ?_⟩
    cases h.blocks with
    | cons hrest heach hplain hcontent =>
      have hadd : b.add node = [node].foldl OpenBlock.add b := rfl
      refine .cons hrest (by rwa [OpenBlock.add_block]) (fun hblock => ?_) ?_
      · rw [hadd, OpenBlock.otherwise_foldl_add]
        exact hplain (by rwa [OpenBlock.add_block] at hblock)
      · have hloop : OpenBlock.loopIn (b.add node :: bs) = OpenBlock.loopIn (b :: bs) := by
          simp [OpenBlock.loopIn]
        rw [hloop, hadd, OpenBlock.content_foldl_add]
        exact Node.everywhere_append.mpr ⟨hcontent, hnode⟩

theorem IsShaped.text (h : p.IsShaped) (value : String) : (p.add (.text value)).IsShaped :=
  h.add (Node.fits_text _ value)

theorem IsShaped.close (h : p.IsShaped) (block : Block) (closer : Token) (document : List Char) :
    (p.close block closer document).IsShaped := by
  unfold Progress.close
  split
  · exact h.text closer.text
  next unclosed b bs hspan =>
  obtain ⟨hblocks, -⟩ := span_blocks_eq hspan
  have hall := h.blocks
  rw [hblocks] at hall
  cases hall.of_append with
  | cons hrest heach hplain hcontent =>
    refine IsShaped.add ⟨h.nodes, hrest⟩ (OpenBlock.fits_close ?_ ?_ ?_ closer document)
    · rwa [OpenBlock.foldl_add_block]
    · rwa [OpenBlock.foldl_add_block, OpenBlock.otherwise_foldl_add]
    · have hloop : OpenBlock.loopIn ((unwind unclosed).foldl OpenBlock.add b :: bs) =
          OpenBlock.loopIn (b :: bs) := by
        simp [OpenBlock.loopIn]
      rw [hloop, OpenBlock.content_foldl_add]
      exact Node.everywhere_append.mpr ⟨hcontent, hall.unwind⟩

theorem IsShaped.step (h : p.IsShaped) (document : List Char) (token : Token) :
    (p.step document token).IsShaped := by
  unfold Progress.step
  cases token.role with
  | text => exact h.text token.text
  | scalar name => exact h.add (Node.fits_scalar _ name token.text)
  | closer block => exact h.close block token document
  | opener block arg =>
    by_cases hnested : block = .eachBlock ∧ p.inLoop
    · simp only [if_pos hnested]
      exact ⟨(h.text token.text).nodes, (h.text token.text).blocks⟩
    · simp only [if_neg hnested]
      refine ⟨h.nodes, .cons h.blocks (fun hblock => ?_) (fun _ => rfl) Node.everywhere_nil⟩
      exact Bool.eq_false_iff.mpr fun hloop => hnested ⟨hblock, hloop⟩
  | otherwise =>
    cases hblocks : p.blocks with
    | nil => exact h.text token.text
    | cons b bs =>
      by_cases htakes : b.takesElse
      · simp only [if_pos htakes]
        have hall := h.blocks
        rw [hblocks] at hall
        cases hall with
        | cons hrest heach hplain hcontent =>
          simp only [OpenBlock.takesElse, Bool.and_eq_true, decide_eq_true_eq,
            Option.isNone_iff_eq_none] at htakes
          refine ⟨h.nodes, .cons hrest heach (fun hblock => (hblock htakes.1).elim) ?_⟩
          simpa [OpenBlock.content, OpenBlock.loopIn, htakes.2] using hcontent
      · simp only [if_neg htakes]
        exact h.text token.text

theorem IsShaped.foldl_step (h : p.IsShaped) (document : List Char) (ts : List Token) :
    (ts.foldl (Progress.step document) p).IsShaped := by
  induction ts generalizing p with
  | nil => exact h
  | cons t ts ih => exact ih (h.step document t)

theorem IsShaped.finish (h : p.IsShaped) :
    Everywhere (Fits false) p.finish.nodes.toList := by
  rw [Progress.finish, addAll_of_nil rfl, Array.toList_append, List.toList_toArray]
  have hall : OpenBlock.AreShaped (p.blocks ++ []) := by rw [List.append_nil]; exact h.blocks
  exact Node.everywhere_append.mpr ⟨h.nodes, hall.unwind⟩

end Progress

/-! ## Loops inside a loop -/

/-- The tokens of a document that end before a token. -/
def Token.before (document : String) (t : Token) : List Token :=
  (scan document).filter (·.stop ≤ t.start)

/-- The each tags of a document that are read while a loop is open, in the order in which they stand
there. -/
def Tree.nestedLoopTags (document : String) : List Token :=
  (Token.scan document).filter fun t =>
    t.role.opens .eachBlock && Frame.inLoop ((t.before document).foldl Frame.step [])

theorem Token.before_eq {document : String} {us ts : List Token} {t : Token}
    (h : scan document = us ++ t :: ts) : t.before document = us := by
  have hstart := (scan_position h).1
  have hmem : t ∈ scan document := by rw [h]; simp
  have hpos := start_lt_stop_of_mem_scan hmem
  have hus : ∀ u ∈ us, u.stop ≤ t.start := by
    intro u hu
    obtain ⟨before, after, rfl⟩ := List.append_of_mem hu
    have hu := scan_position (h.trans (List.append_assoc before (u :: after) (t :: ts)))
    rw [hstart, hu.2, hu.1]
    simp
  have hts : ∀ v ∈ ts, ¬v.stop ≤ t.start := by
    intro v hv
    obtain ⟨before, after, rfl⟩ := List.append_of_mem hv
    have hscan : scan document = (us ++ t :: before) ++ v :: after := by simpa using h
    have hv := scan_position hscan
    rw [hstart, hv.2, hv.1]
    have := (scan_position h).2
    simp
    omega
  rw [Token.before, h, List.filter_append, List.filter_cons_of_neg (by simpa using hpos),
    List.filter_eq_self.mpr (by simpa using hus), List.filter_eq_nil_iff.mpr (by simpa using hts),
    List.append_nil]

namespace Progress

theorem warnings_step (document : List Char) (p : Progress) (token : Token) :
    (p.step document token).warnings.toList = p.warnings.toList ++
      if token.role.opens .eachBlock && p.inLoop then [nestedLoopWarning token.text] else [] := by
  unfold step
  cases token.role with
  | text | scalar => simp [Role.opens, warnings_add]
  | closer block => simp [warnings_close]
  | opener block arg =>
    by_cases hnested : block = .eachBlock ∧ p.inLoop
    · simp [hnested.1, hnested.2, warnings_add]
    · have hopens : ((Role.opener block arg).opens .eachBlock && p.inLoop) = false := by
        simpa using hnested
      simp only [if_neg hnested, hopens, Bool.false_eq_true, if_false, List.append_nil]
  | otherwise =>
    cases p.blocks with
    | nil => simp [warnings_add]
    | cons b bs =>
      by_cases htakes : b.takesElse
      · simp [htakes]
      · simp [htakes, warnings_add]

/-- Reading on from some place of a document warns of the each tags that are inside a loop. -/
theorem warnings_foldl_step {document : String} {us ts : List Token}
    (h : Token.scan document = us ++ ts) :
    (ts.foldl (step document.toList) (upTo document us)).warnings.toList =
      (upTo document us).warnings.toList ++
        (ts.filter fun t => t.role.opens .eachBlock &&
          Frame.inLoop ((t.before document).foldl Frame.step [])).map (nestedLoopWarning ·.text) := by
  induction ts generalizing us with
  | nil => simp
  | cons t ts ih =>
    have hnext : upTo document (us ++ [t]) = (upTo document us).step document.toList t := by
      simp [upTo]
    have hloop : Frame.inLoop ((t.before document).foldl Frame.step []) =
        (upTo document us).inLoop := by
      rw [Token.before_eq h, ← frames_upTo, Frame.inLoop_frames]
    rw [List.append_cons] at h
    rw [List.foldl_cons, ← hnext, ih h, hnext, warnings_step, List.filter_cons, hloop]
    split <;> simp

end Progress

namespace Tree

/-- No loop of a tree has a loop anywhere below it, and no unless block has a second branch. There
is one warning for each tag that would open a loop while another is open, in the order in which
these tags stand in the document, and no other. -/
theorem ofDocument_shape (document : String) :
    Everywhere Node.IsShaped (ofDocument document).nodes ∧
      (ofDocument document).warnings =
        (nestedLoopTags document).map (nestedLoopWarning ·.text) := by
  have start : Progress.IsShaped {} := ⟨Node.everywhere_nil, .nil⟩
  constructor
  · exact (start.foldl_step document.toList (Token.scan document)).finish.mono fun n hn => hn.1
  · have hwarnings := Progress.warnings_foldl_step (List.nil_append (Token.scan document)).symm
    simpa [ofDocument, Progress.finish, Progress.warnings_addAll, Progress.upTo, nestedLoopTags]
      using hwarnings

/-- A loop inside a conditional inside a loop. -/
example : nestedLoopTags ("\x7b\x7b#each a\x7d\x7d\x7b\x7b#if b\x7d\x7d\x7b\x7b#each c\x7d\x7d" ++
    "\x7b\x7b/each\x7d\x7d\x7b\x7b#each d\x7d\x7d\x7b\x7b/each\x7d\x7d") =
      [⟨.opener .eachBlock "c", "\x7b\x7b#each c\x7d\x7d", 20, 31⟩] := by
  decide

end Tree

end MachineConfig.Template
