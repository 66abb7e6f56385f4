import MachineConfig.Proofs.Template.Spelling

/-!
Which blocks are closed. How a tag is read depends on the open blocks only through their kinds and
on whether they have an else tag: their frames, which `Frame.step` follows by themselves
(`Frame.frames_read`). From them one can tell in advance which opening tags have a block that is
closed (`Frame.closed`), each tag being the only one at its place (`Frame.foretells_closed`).
-/

namespace MachineConfig.Template

/-- What of an open block decides how the next tags are read. -/
structure Frame where
  block : Block
  opener : Token
  hasElse : Bool
  deriving DecidableEq

def OpenBlock.frame (b : OpenBlock) : Frame := ⟨b.block, b.opener, b.otherwise.isSome⟩

namespace Frame

def takesElse (f : Frame) : Bool := f.block = .ifBlock && !f.hasElse

/-- Gives the innermost frame an else tag, if it takes one. -/
def markElse : List Frame → List Frame
  | [] => []
  | f :: fs => if f.takesElse then { f with hasElse := true } :: fs else f :: fs

def inLoop (fs : List Frame) : Bool := fs.any (·.block = .eachBlock)

/-- The innermost frame of a kind, and those outside it. -/
def innermost? (block : Block) : List Frame → Option (Frame × List Frame)
  | [] => none
  | f :: fs => if f.block = block then some (f, fs) else innermost? block fs

/-- The frames after the next token. -/
def step (fs : List Frame) (token : Token) : List Frame :=
  match token.role with
  | .text => fs
  | .scalar _ => fs
  | .opener block _ =>
    if block = .eachBlock ∧ inLoop fs then fs else ⟨block, token, false⟩ :: fs
  | .otherwise => markElse fs
  | .closer block => ((innermost? block fs).map (·.2)).getD fs

/-- The opening tag of the block that a token closes. -/
def closes? (fs : List Frame) (token : Token) : Option Token :=
  match token.role with
  | .closer block => (innermost? block fs).map (·.1.opener)
  | _ => none

/-- The opening tags of the blocks that are closed from here on. -/
def closed : List Frame → List Token → List Token
  | _, [] => []
  | fs, t :: ts => (closes? fs t).toList ++ closed (step fs t) ts

theorem markElse_of_takes {f : Frame} {fs : List Frame} (h : f.takesElse) :
    markElse (f :: fs) = { f with hasElse := true } :: fs := if_pos h

theorem markElse_of_not {f : Frame} {fs : List Frame} (h : ¬f.takesElse) :
    markElse (f :: fs) = f :: fs := if_neg h

section innermost

variable {block : Block} {f : Frame} {fs inside outside : List Frame}

theorem innermost?_append (hinside : ∀ g ∈ inside, g.block ≠ block) (hblock : f.block = block) :
    innermost? block (inside ++ f :: outside) = some (f, outside) := by
  induction inside with
  | nil => rw [List.nil_append, innermost?, if_pos hblock]
  | cons g inside ih =>
    rw [List.forall_mem_cons] at hinside
    rw [List.cons_append, innermost?, if_neg hinside.1, ih hinside.2]

theorem innermost?_of_forall_ne (h : ∀ g ∈ fs, g.block ≠ block) : innermost? block fs = none := by
  induction fs with
  | nil => rfl
  | cons g fs ih =>
    rw [List.forall_mem_cons] at h
    rw [innermost?, if_neg h.1, ih h.2]

theorem exists_of_innermost? (h : innermost? block fs = some (f, outside)) :
    ∃ inside, fs = inside ++ f :: outside ∧ (∀ g ∈ inside, g.block ≠ block) ∧ f.block = block := by
  rcases exists_innermost Frame.block block fs with hnone | ⟨inside, f', outside', rfl, hinside, hf⟩
  · rw [innermost?_of_forall_ne hnone] at h
    cases h
  · rw [innermost?_append hinside hf] at h
    cases h
    exact ⟨inside, rfl, hinside, hf⟩

theorem isSome_innermost? (block : Block) (fs : List Frame) :
    (innermost? block fs).isSome = fs.any (·.block = block) := by
  induction fs with
  | nil => rfl
  | cons f fs ih =>
    by_cases hf : f.block = block
    · simp [innermost?, hf]
    · simp [innermost?, hf, ih]

variable {token : Token}

theorem step_innermost (hrole : token.role = .closer block)
    (hinside : ∀ g ∈ inside, g.block ≠ block) (hblock : f.block = block) :
    step (inside ++ f :: outside) token = outside := by
  simp only [step, hrole, innermost?_append hinside hblock, Option.map_some, Option.getD_some]

theorem closes?_innermost (hrole : token.role = .closer block)
    (hinside : ∀ g ∈ inside, g.block ≠ block) (hblock : f.block = block) :
    closes? (inside ++ f :: outside) token = some f.opener := by
  simp only [closes?, hrole, innermost?_append hinside hblock, Option.map_some]

theorem step_unopened (hrole : token.role = .closer block) (h : ∀ g ∈ fs, g.block ≠ block) :
    step fs token = fs := by
  simp only [step, hrole, innermost?_of_forall_ne h, Option.map_none, Option.getD_none]

/-- A token closes nothing, or is a closing tag for the innermost frame of its kind. -/
theorem closes?_cases (fs : List Frame) (token : Token) :
    closes? fs token = none ∨
      ∃ block inside f outside, token.role = .closer block ∧ fs = inside ++ f :: outside ∧
        (∀ g ∈ inside, g.block ≠ block) ∧ f.block = block := by
  cases hrole : token.role with
  | closer block =>
    rcases exists_innermost Frame.block block fs with hnone | ⟨inside, f, outside, hfs, hinside, hf⟩
    · simp [closes?, hrole, innermost?_of_forall_ne hnone]
    · exact .inr ⟨block, inside, f, outside, rfl, hfs, hinside, hf⟩
  | _ => simp [closes?, hrole]

end innermost

/-! ## One step -/

section step

variable {block : Block} {arg name : String} {fs : List Frame} {g : Frame} {token : Token}

theorem step_text (hrole : token.role = .text) : step fs token = fs := by
  simp only [step, hrole]

theorem step_scalar (hrole : token.role = .scalar name) : step fs token = fs := by
  simp only [step, hrole]

theorem step_nested (hrole : token.role = .opener block arg)
    (hnested : block = .eachBlock ∧ inLoop fs) : step fs token = fs := by
  simp only [step, hrole, if_pos hnested]

theorem step_opener (hrole : token.role = .opener block arg)
    (hopens : ¬(block = .eachBlock ∧ inLoop fs)) :
    step fs token = ⟨block, token, false⟩ :: fs := by
  simp only [step, hrole, if_neg hopens]

theorem step_otherwise (hrole : token.role = .otherwise) : step fs token = markElse fs := by
  simp only [step, hrole]

theorem step_closer (hrole : token.role = .closer block) :
    step fs token = ((innermost? block fs).map (·.2)).getD fs := by
  simp only [step, hrole]

theorem exists_of_mem_markElse (h : g ∈ markElse fs) :
    ∃ f ∈ fs, f.opener = g.opener ∧ f.block = g.block := by
  cases fs with
  | nil => cases h
  | cons f fs =>
    by_cases htakes : f.takesElse
    · rw [markElse_of_takes htakes] at h
      rcases List.mem_cons.mp h with rfl | hg
      · exact ⟨f, List.mem_cons_self, rfl, rfl⟩
      · exact ⟨g, List.mem_cons_of_mem _ hg, rfl, rfl⟩
    · rw [markElse_of_not htakes] at h
      exact ⟨g, h, rfl, rfl⟩

/-- A frame after a token was there before but for its else tag, or it is that of the token, which
does not open a loop inside another. -/
theorem mem_step (h : g ∈ step fs token) :
    (∃ f ∈ fs, f.opener = g.opener ∧ f.block = g.block) ∨
      g.opener = token ∧ ¬(g.block = .eachBlock ∧ inLoop fs) := by
  have hkept (hg : g ∈ fs) : ∃ f ∈ fs, f.opener = g.opener ∧ f.block = g.block :=
    ⟨g, hg, rfl, rfl⟩
  cases hrole : token.role with
  | text =>
    rw [step_text hrole] at h
    exact .inl (hkept h)
  | scalar name =>
    rw [step_scalar hrole] at h
    exact .inl (hkept h)
  | opener block arg =>
    by_cases hnested : block = .eachBlock ∧ inLoop fs
    · rw [step_nested hrole hnested] at h
      exact .inl (hkept h)
    · rw [step_opener hrole hnested] at h
      rcases List.mem_cons.mp h with rfl | hg
      · exact .inr ⟨rfl, hnested⟩
      · exact .inl (hkept hg)
  | otherwise =>
    rw [step_otherwise hrole] at h
    exact .inl (exists_of_mem_markElse h)
  | closer block =>
    rcases exists_innermost Frame.block block fs with hnone | ⟨inside, f, outside, rfl, hinside, hf⟩
    · rw [step_unopened hrole hnone] at h
      exact .inl (hkept h)
    · rw [step_innermost hrole hinside hf] at h
      exact .inl (hkept (List.mem_append_right _ (List.mem_cons_of_mem _ h)))

end step

/-! ## Frames of what is being read -/

section frames

variable {p : Progress} {token : Token}

@[simp] theorem takesElse_frame (b : OpenBlock) : b.frame.takesElse = b.takesElse := by
  rcases b with ⟨block, arg, opener, children, _ | ⟨tag, nodes⟩⟩ <;> rfl

@[simp] theorem inLoop_frames (p : Progress) : inLoop (p.blocks.map (·.frame)) = p.inLoop := by
  rw [inLoop, List.any_map]
  rfl

@[simp] theorem frames_add (p : Progress) (node : Node) :
    (p.add node).blocks.map (·.frame) = p.blocks.map (·.frame) := by
  rcases p with ⟨nodes, _ | ⟨b, bs⟩, warnings⟩
  · rfl
  · rcases b with ⟨block, arg, opener, children, _ | ⟨tag, nodes⟩⟩ <;> rfl

/-- The frames follow the reading. -/
theorem frames_read (p : Progress) (token : Token) :
    (p.read token).blocks.map (·.frame) = step (p.blocks.map (·.frame)) token := by
  cases hrole : token.role with
  | text => rw [Progress.read_text hrole, frames_add, step_text hrole]
  | scalar name => rw [Progress.read_scalar hrole, frames_add, step_scalar hrole]
  | opener block arg =>
    by_cases hnested : block = .eachBlock ∧ p.inLoop
    · rw [step_nested hrole (by rwa [inLoop_frames])]
      obtain ⟨rfl, hloop⟩ := hnested
      rw [Progress.read_nested hrole hloop]
      exact frames_add p _
    · rw [step_opener hrole (by rwa [inLoop_frames]),
        Progress.read_opener hrole fun hblock => by simpa [hblock] using hnested]
      rfl
  | otherwise =>
    rw [step_otherwise hrole]
    rcases p with ⟨nodes, _ | ⟨b, bs⟩, warnings⟩
    · rw [Progress.read_stray hrole (by simp)]
      rfl
    · simp only [List.map_cons, markElse, takesElse_frame]
      split
      next htakes =>
        rw [Progress.read_taken hrole rfl htakes]
        rfl
      next htakes =>
        rw [Progress.read_stray hrole (by simpa using htakes), frames_add]
        rfl
  | closer block =>
    rcases exists_innermost OpenBlock.block block p.blocks with
      hnone | ⟨unclosed, b, outside, hblocks, hunclosed, hb⟩
    · have hframes : ∀ g ∈ p.blocks.map (·.frame), g.block ≠ block := by simpa using! hnone
      rw [Progress.read_unopened hrole hnone, frames_add, step_unopened hrole hframes]
    · have hframes : ∀ g ∈ unclosed.map (·.frame), g.block ≠ block := by simpa using! hunclosed
      have hb' : b.frame.block = block := hb
      rw [Progress.read_closer hrole hblocks hunclosed hb, frames_add, hblocks, List.map_append,
        List.map_cons, step_innermost hrole hframes hb']

theorem frames_foldl_read (p : Progress) (ts : List Token) :
    (ts.foldl Progress.read p).blocks.map (·.frame) = ts.foldl step (p.blocks.map (·.frame)) := by
  induction ts generalizing p with
  | nil => rfl
  | cons t ts ih => rw [List.foldl_cons, ih, frames_read, List.foldl_cons]

end frames

/-! ## Telling in advance which blocks are closed -/

theorem openers_step (fs : List Frame) (t : Token) :
    ((step fs t).map opener).Sublist (t :: fs.map opener) := by
  have hkeep : (fs.map opener).Sublist (t :: fs.map opener) := List.sublist_cons_self _ _
  cases hrole : t.role with
  | text => rwa [step_text hrole]
  | scalar name => rwa [step_scalar hrole]
  | opener block arg =>
    by_cases hnested : block = .eachBlock ∧ inLoop fs
    · rwa [step_nested hrole hnested]
    · rw [step_opener hrole hnested]
      exact List.Sublist.refl _
  | otherwise =>
    rw [step_otherwise hrole]
    cases fs with
    | nil => exact hkeep
    | cons f fs =>
      simp only [markElse]
      split <;> exact hkeep
  | closer block =>
    rcases exists_innermost Frame.block block fs with hnone | ⟨inside, f, outside, rfl, hinside, hf⟩
    · rwa [step_unopened hrole hnone]
    · rw [step_innermost hrole hinside hf]
      refine List.Sublist.trans (List.Sublist.map _ ?_) hkeep
      exact (List.sublist_cons_self _ _).trans (List.sublist_append_right _ _)

theorem mem_of_mem_step {fs : List Frame} {t o : Token} {ts : List Token}
    (h : o ∈ (step fs t).map opener ++ ts) : o ∈ fs.map opener ++ t :: ts :=
  List.perm_middle.symm.subset (((openers_step fs t).append_right ts).subset h)

/-- What is open was open or is opened on the way. -/
theorem mem_of_mem_openers {fs : List Frame} {ts : List Token} {o : Token}
    (h : o ∈ (ts.foldl step fs).map opener) : o ∈ fs.map opener ++ ts := by
  induction ts generalizing fs with
  | nil => simpa using h
  | cons t ts ih => exact mem_of_mem_step (ih h)

/-- What is closed was open or is opened on the way. -/
theorem mem_of_mem_closed {fs : List Frame} {ts : List Token} {o : Token} (h : o ∈ closed fs ts) :
    o ∈ fs.map opener ++ ts := by
  induction ts generalizing fs with
  | nil => cases h
  | cons t ts ih =>
    rw [closed, List.mem_append, Option.mem_toList] at h
    rcases h with h | h
    · rcases closes?_cases fs t with hnone | ⟨block, inside, f, outside, hrole, rfl, hinside, hf⟩
      · rw [hnone] at h
        cases h
      · rw [closes?_innermost hrole hinside hf] at h
        cases h
        simp
    · exact mem_of_mem_step (ih h)

theorem nodup_step {fs : List Frame} {t : Token} {ts : List Token}
    (h : (fs.map opener ++ t :: ts).Nodup) : ((step fs t).map opener ++ ts).Nodup := by
  have hperm : (t :: fs.map opener ++ ts).Nodup := List.perm_middle.nodup_iff.mp h
  exact hperm.sublist ((openers_step fs t).append_right ts)

/-- Tags of `C` have blocks that are closed, and others have not: what that says of the next
token. -/
structure Foresees (C : List Token) (fs : List Frame) (t : Token) : Prop where
  nested {arg : String} : t.role = .opener .eachBlock arg → inLoop fs = true → t ∉ C
  closer {block : Block} {inside outside : List Frame} {f : Frame} : t.role = .closer block →
    fs = inside ++ f :: outside → (∀ g ∈ inside, g.block ≠ block) → f.block = block →
    f.opener ∈ C ∧ ∀ g ∈ inside, g.opener ∉ C

/-- The same of everything that is still to be read. -/
inductive Foretells (C : List Token) : List Frame → List Token → Prop where
  | nil {fs} : (∀ f ∈ fs, f.opener ∉ C) → Foretells C fs []
  | cons {fs t ts} : Foresees C fs t → Foretells C (step fs t) ts → Foretells C fs (t :: ts)

section nodup

variable {C ts : List Token} {fs : List Frame} {t : Token}

/-- A block is closed once. -/
theorem closes?_ne_of_mem_step (hnodup : (fs.map opener ++ t :: ts).Nodup) {o : Token}
    (ho : o ∈ (step fs t).map opener ++ ts) : closes? fs t ≠ some o := by
  intro hcloses
  rcases closes?_cases fs t with hnone | ⟨block, inside, f, outside, hrole, rfl, hinside, hf⟩
  · rw [hnone] at hcloses
    cases hcloses
  · rw [closes?_innermost hrole hinside hf] at hcloses
    cases hcloses
    rw [step_innermost hrole hinside hf] at ho
    simp only [List.map_append, List.map_cons, List.append_assoc, List.cons_append,
      List.nodup_append, List.nodup_cons] at hnodup
    grind

theorem foresees_of_forall (hnodup : (fs.map opener ++ t :: ts).Nodup)
    (hC : ∀ o ∈ fs.map opener ++ t :: ts, o ∈ C ↔ o ∈ closed fs (t :: ts)) : Foresees C fs t where
  nested hrole hloop hmem := by
    have hnext : step fs t = fs := step_nested hrole ⟨rfl, hloop⟩
    have hclosed := (hC t (by simp)).mp hmem
    have hnone : closes? fs t = none := by simp only [closes?, hrole]
    rw [closed, hnone, hnext] at hclosed
    have hmem' := mem_of_mem_closed hclosed
    exact (List.nodup_cons.mp (List.perm_middle.nodup_iff.mp hnodup)).1 hmem'
  closer {block inside outside f} hrole hfs hinside hf := by
    subst hfs
    rw [closed, closes?_innermost hrole hinside hf, step_innermost hrole hinside hf] at hC
    refine ⟨(hC _ (by simp)).mpr (by simp), fun g hg hmem => ?_⟩
    have hclosed := (hC g.opener (by simpa using .inl ⟨g, hg, rfl⟩)).mp hmem
    simp only [Option.toList_some, List.singleton_append, List.mem_cons] at hclosed
    simp only [List.map_append, List.map_cons, List.append_assoc, List.cons_append,
      List.nodup_append, List.nodup_cons] at hnodup
    rcases hclosed with heq | hclosed
    · grind
    · have := mem_of_mem_closed hclosed
      grind

theorem foretells_of_forall (hnodup : (fs.map opener ++ ts).Nodup)
    (hC : ∀ o ∈ fs.map opener ++ ts, o ∈ C ↔ o ∈ closed fs ts) : Foretells C fs ts := by
  induction ts generalizing fs with
  | nil =>
    refine .nil fun f hf hmem => ?_
    have hnil := (hC _ (by simpa using ⟨f, hf, rfl⟩)).mp hmem
    cases hnil
  | cons t ts ih =>
    refine .cons (foresees_of_forall hnodup hC) (ih (nodup_step hnodup) fun o ho => ?_)
    rw [hC o (mem_of_mem_step ho), closed, List.mem_append, Option.mem_toList]
    exact or_iff_right (closes?_ne_of_mem_step hnodup ho)

end nodup

theorem foretells_closed {ts : List Token} (h : ts.Nodup) : Foretells (closed [] ts) [] ts :=
  foretells_of_forall (by simpa using h) fun _ _ => Iff.rfl

end Frame

/-! ## The tags of a document whose blocks are closed -/

namespace Progress

/-- What has been read before a token of a document, from the tokens before it. -/
def upTo (document : String) (ts : List Token) : Progress := ts.foldl (step document.toList) {}

/-- The opening tag of the block that a token closes. -/
def closes? (p : Progress) (token : Token) : Option Token :=
  match token.role with
  | .closer block => (p.blocks.find? (·.block = block)).map (·.opener)
  | _ => none

/-- The opening tags whose blocks are closed while the tokens are read. -/
def closedTags (document : List Char) : Progress → List Token → List Token
  | _, [] => []
  | p, t :: ts => (p.closes? t).toList ++ closedTags document (p.step document t) ts

theorem frames_step (document : List Char) (p : Progress) (token : Token) :
    (p.step document token).blocks.map (·.frame) =
      Frame.step (p.blocks.map (·.frame)) token := by
  rw [← Frame.frames_read]
  unfold Progress.read
  split
  next block hrole =>
    simp only [step, hrole, close, closeSpelled]
    rcases hspan : p.blocks.span (·.block ≠ block) with ⟨unclosed, _ | ⟨b, bs⟩⟩
    · simp only [hspan]
    · simp only [hspan, Frame.frames_add]
  next hrole =>
    unfold step
    cases hrole' : token.role with
    | closer block => exact absurd hrole' (hrole block)
    | _ => rfl

theorem frames_upTo (document : String) (ts : List Token) :
    (upTo document ts).blocks.map (·.frame) = ts.foldl Frame.step [] := by
  have hfold (p : Progress) : (ts.foldl (step document.toList) p).blocks.map (·.frame) =
      ts.foldl Frame.step (p.blocks.map (·.frame)) := by
    induction ts generalizing p with
    | nil => rfl
    | cons t ts ih => rw [List.foldl_cons, ih, frames_step, List.foldl_cons]
  exact hfold {}

theorem closes?_frames (p : Progress) (token : Token) :
    p.closes? token = Frame.closes? (p.blocks.map (·.frame)) token := by
  have hfind (block : Block) (bs : List OpenBlock) :
      (bs.find? (·.block = block)).map (·.opener) =
        (Frame.innermost? block (bs.map (·.frame))).map (·.1.opener) := by
    induction bs with
    | nil => rfl
    | cons b bs ih =>
      by_cases hb : b.block = block
      · have hframe : b.frame.block = block := hb
        simp only [List.find?_cons, hb, decide_true, List.map_cons, Frame.innermost?, hframe,
          if_true]
        rfl
      · have hframe : ¬b.frame.block = block := hb
        simp only [List.find?_cons, hb, decide_false, List.map_cons, Frame.innermost?, hframe,
          if_false, ih]
  unfold closes? Frame.closes?
  cases token.role with
  | closer block => exact hfind block p.blocks
  | _ => rfl

theorem closedTags_eq (document : List Char) (p : Progress) (ts : List Token) :
    closedTags document p ts = Frame.closed (p.blocks.map (·.frame)) ts := by
  induction ts generalizing p with
  | nil => rfl
  | cons t ts ih => rw [closedTags, Frame.closed, closes?_frames, ih, frames_step]

end Progress

/-- The opening tags of a document whose blocks are closed, in the order in which they are. -/
def Tree.closedTags (document : String) : List Token :=
  Progress.closedTags document.toList {} (Token.scan document)

theorem Tree.closedTags_eq (document : String) :
    closedTags document = Frame.closed [] (Token.scan document) :=
  Progress.closedTags_eq document.toList {} _

end MachineConfig.Template
