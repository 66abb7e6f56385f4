import MachineConfig.Proofs.Template.Settling
import Mathlib.Data.List.Nodup

/-!
Opening tags that make no difference. While the block of a tag that is never closed is open, other
tags may be read otherwise than they would be without it: an else tag that would belong to the block
outside it, and, in a loop that is none, every further loop, which may then keep an else tag from
the block that it would stand in. If none of these else tags would belong to a block that is closed
(`Frame.Unnoticed`), the same tags come to nothing with the block as without it
(`Frame.Without.settle_eq`).
-/

namespace MachineConfig.Template

namespace Frame

/-- No else tag that is read from here on, with the block of `opener` as the innermost one, makes it
an if block that is closed and has an else tag. -/
def Spares (C : List Token) (fs : List Frame) (ts : List Token) (opener : Token) : Prop :=
  ∀ us e vs f rest, ts = us ++ e :: vs → e.role = .otherwise → us.foldl step fs = f :: rest →
    f.opener = opener → f.takesElse → f.opener ∉ C

/-- From here on, nothing that comes to a block that is closed depends on whether that of `t` is
open. -/
structure Unnoticed (C : List Token) (t : Token) (fs : List Frame) (ts : List Token) : Prop where
  otherwise : ∀ us e vs f g rest, ts = us ++ e :: vs → e.role = .otherwise →
    us.foldl step fs = f :: g :: rest → f.opener = t → g.takesElse → g.opener ∉ C
  nested : ∀ us e vs array f rest, ts = us ++ e :: vs → e.role = .opener .eachBlock array →
    us.foldl step fs = f :: rest → (∃ g ∈ f :: rest, g.opener = t ∧ g.block = .eachBlock) →
    Spares C (step (f :: rest) e) vs f.opener

section along

variable {C ts us : List Token} {fs : List Frame} {t e opener : Token}

theorem Spares.tail (h : Spares C fs (e :: ts) opener) : Spares C (step fs e) ts opener :=
  fun us e' vs f rest hts => h (e :: us) e' vs f rest (by rw [hts]; rfl)

theorem Unnoticed.tail (h : Unnoticed C t fs (e :: ts)) : Unnoticed C t (step fs e) ts where
  otherwise us e' vs f g rest hts := h.otherwise (e :: us) e' vs f g rest (by rw [hts]; rfl)
  nested us e' vs array f rest hts := h.nested (e :: us) e' vs array f rest (by rw [hts]; rfl)

theorem Foretells.append (h : Foretells C fs (us ++ ts)) : Foretells C (us.foldl step fs) ts := by
  induction us generalizing fs with
  | nil => exact h
  | cons u us ih =>
    cases h with
    | cons _ hlater => exact ih hlater

theorem closed_append (fs : List Frame) (us ts : List Token) :
    closed fs (us ++ ts) = closed fs us ++ closed (us.foldl step fs) ts := by
  induction us generalizing fs with
  | nil => rfl
  | cons u us ih =>
    rw [List.cons_append, closed, ih, closed, List.append_assoc, List.foldl_cons]

theorem settle_append (fs : List Frame) (us ts : List Token) :
    settle C fs (us ++ ts) = settle C fs us ++ settle C (us.foldl step fs) ts := by
  induction us generalizing fs with
  | nil => rfl
  | cons u us ih =>
    rw [List.cons_append, settle, ih, settle, List.cons_append, List.foldl_cons]

end along

/-- Frames that the reading to come cannot tell apart. Those that are not closed may differ in
whether they have an else tag. -/
structure Alike (C : List Token) (f g : Frame) : Prop where
  block : f.block = g.block
  opener : f.opener = g.opener
  hasElse : f.opener ∈ C → f.hasElse = g.hasElse

/-- The frames `fs` with the block of `t` and `gs` without it. If that block is a loop, there may be
a loop in `gs` that cannot be one in `fs`, directly inside a block that is spared. -/
inductive Without (C : List Token) (t : Token) (spared : Token → Prop) :
    List Frame → List Frame → Prop where
  | nil : Without C t spared [] []
  | both {f g fs gs} : Alike C f g → Without C t spared fs gs →
      Without C t spared (f :: fs) (g :: gs)
  | gone {f fs gs} : f.opener = t → (∀ g ∈ fs, g.opener ≠ t) → Without C t spared fs gs →
      Without C t spared (f :: fs) gs
  | extra {g fs gs} : g.block = .eachBlock → (∃ f ∈ fs, f.opener = t ∧ f.block = .eachBlock) →
      (∀ f ∈ fs.head?, spared f.opener) → Without C t spared fs gs →
      Without C t spared fs (g :: gs)

/-- The block of `t` is the only loop, if it is one. -/
def IsOnlyLoop (t : Token) (fs : List Frame) : Prop :=
  (∃ f ∈ fs, f.opener = t ∧ f.block = .eachBlock) → ∀ f ∈ fs, f.block = .eachBlock → f.opener = t

namespace Without

variable {C ts : List Token} {t e : Token} {spared spared' : Token → Prop} {fs gs : List Frame}

theorem refl (fs : List Frame) : Without C t spared fs fs := by
  induction fs with
  | nil => exact .nil
  | cons f fs ih => exact .both ⟨rfl, rfl, fun _ => rfl⟩ ih

theorem mono (h : Without C t spared fs gs) (hle : ∀ o, spared o → spared' o) :
    Without C t spared' fs gs := by
  induction h with
  | nil => exact .nil
  | both halike _ ih => exact .both halike ih
  | gone ht hne _ ih => exact .gone ht hne ih
  | extra hblock hloop hspared _ ih =>
    exact .extra hblock hloop (fun f hf => hle _ (hspared f hf)) ih

section otherwise

/-- Marking a frame that is not closed does not matter, -/
theorem markElse_left (h : Without C t spared fs gs)
    (hnot : ∀ f ∈ fs.head?, f.takesElse → f.opener ∉ C) : Without C t spared (markElse fs) gs := by
  cases fs with
  | nil => exact h
  | cons f fs =>
    by_cases htakes : f.takesElse
    · have hmem := hnot f rfl htakes
      rw [markElse_of_takes htakes]
      generalize hfs : f :: fs = whole at h
      induction h with
      | nil => cases hfs
      | both halike hrest =>
        cases hfs
        exact .both ⟨halike.block, halike.opener, fun h => absurd h hmem⟩ hrest
      | gone ht hne hrest =>
        cases hfs
        exact .gone ht hne hrest
      | extra hblock hloop hspared _ ih =>
        cases hfs
        refine .extra hblock ?_ (fun f' hf' => by cases hf'; exact hspared f rfl) (ih rfl)
        exact (List.exists_mem_cons_iff _ _ _).mpr ((List.exists_mem_cons_iff _ _ _).mp hloop)
    · rwa [markElse_of_not htakes]

/-- on either side. -/
theorem markElse_right (h : Without C t spared fs gs)
    (hnot : ∀ g ∈ gs.head?, g.takesElse → g.opener ∉ C) : Without C t spared fs (markElse gs) := by
  cases gs with
  | nil => exact h
  | cons g gs =>
    by_cases htakes : g.takesElse
    · have hmem := hnot g rfl htakes
      rw [markElse_of_takes htakes]
      generalize hgs : g :: gs = whole at h
      induction h with
      | nil => cases hgs
      | both halike hrest =>
        cases hgs
        exact .both ⟨halike.block, halike.opener, fun h => absurd (halike.opener ▸ h) hmem⟩ hrest
      | gone ht hne _ ih => exact .gone ht hne (ih hgs)
      | extra hblock hloop hspared hrest =>
        cases hgs
        simp [takesElse, hblock] at htakes
    · rwa [markElse_of_not htakes]

/-- An else tag is read alike. -/
theorem otherwise (h : Without C t spared fs gs) (ht : t ∉ C)
    (hunnoticed : ∀ f g rest, fs = f :: g :: rest → f.opener = t → g.takesElse → g.opener ∉ C)
    (hspared : ∀ f rest, fs = f :: rest → spared f.opener → f.takesElse → f.opener ∉ C) :
    (fs.head?.any fun f => f.takesElse && f.opener ∈ C) =
        (gs.head?.any fun g => g.takesElse && g.opener ∈ C) ∧
      Without C t spared (markElse fs) (markElse gs) := by
  have apart (hf : ∀ f ∈ fs.head?, f.takesElse → f.opener ∉ C)
      (hg : ∀ g ∈ gs.head?, g.takesElse → g.opener ∉ C) :
      (fs.head?.any fun f => f.takesElse && f.opener ∈ C) =
          (gs.head?.any fun g => g.takesElse && g.opener ∈ C) ∧
        Without C t spared (markElse fs) (markElse gs) := by
    have hnone {hs : List Frame} (hs' : ∀ f ∈ hs.head?, f.takesElse → f.opener ∉ C) :
        (hs.head?.any fun f => f.takesElse && f.opener ∈ C) = false := by
      simpa [Option.any_eq_false] using hs'
    exact ⟨by rw [hnone hf, hnone hg], (h.markElse_left hf).markElse_right hg⟩
  cases h with
  | nil => exact ⟨rfl, .nil⟩
  | @both f g fs gs halike hrest =>
    by_cases hmem : f.opener ∈ C
    · have htakes : g.takesElse = f.takesElse := by
        rw [takesElse, takesElse, halike.block, halike.hasElse hmem]
      refine ⟨by simp [htakes, halike.opener], ?_⟩
      by_cases hf : f.takesElse
      · rw [markElse_of_takes hf, markElse_of_takes (htakes.trans hf)]
        exact .both ⟨halike.block, halike.opener, fun _ => rfl⟩ hrest
      · rw [markElse_of_not hf, markElse_of_not (htakes ▸ hf)]
        exact .both halike hrest
    · exact apart (fun f' hf' _ => by cases hf'; exact hmem)
        (fun g' hg' _ => by cases hg'; exact halike.opener ▸ hmem)
  | @gone f fs gs hf hne hrest =>
    refine apart (fun f' hf' _ => by cases hf'; exact hf ▸ ht) fun g hg htakes => ?_
    cases hrest with
    | nil => cases hg
    | @both f' g' fs gs halike hrest =>
      cases hg
      by_cases hmem : f'.opener ∈ C
      · have htakes' : f'.takesElse := by
          rwa [takesElse, halike.block, halike.hasElse hmem]
        exact halike.opener ▸ hunnoticed f f' fs rfl hf htakes'
      · exact halike.opener ▸ hmem
    | gone hf' _ _ => exact absurd hf' (hne _ List.mem_cons_self)
    | extra _ hloop _ _ =>
      obtain ⟨f', hf', ht', -⟩ := hloop
      exact absurd ht' (hne f' hf')
  | @extra g _ gs hblock hloop hhead hrest =>
    refine apart (fun f hf htakes => ?_) fun g' hg' htakes => ?_
    · obtain ⟨rest, hfs⟩ := List.head?_eq_some_iff.mp hf
      exact hspared f rest hfs (hhead f hf) htakes
    · cases hg'
      simp [takesElse, hblock] at htakes

end otherwise

section loops

/-- The loops of `gs` are in a loop of `fs` or its own. -/
theorem inLoop_left (h : Without C t spared fs gs) (hloop : inLoop gs = true) :
    inLoop fs = true := by
  simp only [inLoop, List.any_eq_true, decide_eq_true_eq] at hloop ⊢
  induction h with
  | nil => exact hloop
  | both halike _ ih =>
    rw [List.exists_mem_cons_iff] at hloop ⊢
    exact hloop.imp (fun h => halike.block.trans h) ih
  | gone _ _ _ ih => exact (List.exists_mem_cons_iff _ _ _).mpr (.inr (ih hloop))
  | extra _ hwith _ _ _ =>
    obtain ⟨f, hf, -, hblock⟩ := hwith
    exact ⟨f, hf, hblock⟩

/-- Where only `fs` is in a loop, that is the block of `t`. -/
theorem exists_loop (h : Without C t spared fs gs) (hloop : inLoop fs = true)
    (hnone : inLoop gs = false) : ∃ f ∈ fs, f.opener = t ∧ f.block = .eachBlock := by
  simp only [inLoop, List.any_eq_true, List.any_eq_false, decide_eq_true_eq] at hloop hnone
  induction h with
  | nil => simp at hloop
  | both halike _ ih =>
    rw [List.exists_mem_cons_iff] at hloop ⊢
    rw [List.forall_mem_cons] at hnone
    rcases hloop with hf | hloop
    · exact absurd (halike.block.symm.trans hf) hnone.1
    · exact .inr (ih hloop hnone.2)
  | gone ht _ _ ih =>
    rw [List.exists_mem_cons_iff] at hloop ⊢
    exact hloop.imp (fun h => ⟨ht, h⟩) fun h => ih h hnone
  | extra _ hwith _ _ _ => exact hwith

theorem isOnlyLoop_of_sublist {outside : List Frame} (h : IsOnlyLoop t fs)
    (hsub : outside.Sublist fs) : IsOnlyLoop t outside :=
  fun ⟨f, hf, hloop⟩ g hg => h ⟨f, hsub.subset hf, hloop⟩ g (hsub.subset hg)

end loops

/-- A closing tag closes the same block, unless that is the block of `t`. -/
theorem innermost?_eq (h : Without C t spared fs gs) (ht : t ∉ C) (hloop : IsOnlyLoop t fs)
    {block : Block}
    (hclosed : ∀ f outside, innermost? block fs = some (f, outside) → f.opener ∈ C) :
    innermost? block fs = none ∧ innermost? block gs = none ∨
      ∃ f outside g outside', innermost? block fs = some (f, outside) ∧
        innermost? block gs = some (g, outside') ∧ f.opener = g.opener ∧
        Without C t spared outside outside' := by
  induction h with
  | nil => exact .inl ⟨rfl, rfl⟩
  | @both f g fs gs halike hrest ih =>
    by_cases hf : f.block = block
    · exact .inr ⟨f, fs, g, gs, if_pos hf, if_pos (halike.block ▸ hf), halike.opener, hrest⟩
    · have hfs : innermost? block (f :: fs) = innermost? block fs := if_neg hf
      have hgs : innermost? block (g :: gs) = innermost? block gs := if_neg (halike.block ▸ hf)
      rw [hfs] at hclosed ⊢
      rw [hgs]
      exact ih (isOnlyLoop_of_sublist hloop (List.sublist_cons_self f fs)) hclosed
  | @gone f fs gs hopener hne hrest ih =>
    have hf : f.block ≠ block := fun hf => ht (hopener ▸ hclosed f fs (if_pos hf))
    have hfs : innermost? block (f :: fs) = innermost? block fs := if_neg hf
    rw [hfs] at hclosed ⊢
    exact ih (isOnlyLoop_of_sublist hloop (List.sublist_cons_self f fs)) hclosed
  | @extra g fs gs hblock hwith hspared hrest ih =>
    have hg : g.block ≠ block := by
      rintro rfl
      -- The innermost loop of `fs` is the block of `t`, which would be closed.
      obtain ⟨f, hf, hft, hfloop⟩ := hwith
      have hsome : (innermost? g.block fs).isSome := by
        rw [isSome_innermost?, List.any_eq_true]
        exact ⟨f, hf, by simp [hfloop, hblock]⟩
      obtain ⟨⟨f', outside⟩, hf'⟩ := Option.isSome_iff_exists.mp hsome
      obtain ⟨inside, rfl, -, hkind⟩ := exists_of_innermost? hf'
      have hopener := hloop ⟨f, hf, hft, hfloop⟩ f' (by simp) (hkind.trans hblock)
      exact ht (hopener ▸ hclosed f' outside hf')
    have hgs : innermost? block (g :: gs) = innermost? block gs := if_neg hg
    rw [hgs]
    exact ih hloop hclosed

end Without

theorem IsOnlyLoop.step {t : Token} {fs : List Frame} (h : IsOnlyLoop t fs) (e : Token) :
    IsOnlyLoop t (step fs e) := by
  have hfirst {g : Frame} (hg : g.block = .eachBlock) (hopens : ¬(g.block = .eachBlock ∧ inLoop fs)) :
      ∀ f ∈ fs, f.block ≠ .eachBlock := by
    simpa [inLoop, hg] using hopens
  rintro ⟨f, hf, hopener, hblock⟩ g hg hblock'
  rcases mem_step hf with ⟨f', hf', hfo, hfb⟩ | ⟨hfe, hopens⟩
  · rcases mem_step hg with ⟨g', hg', hgo, hgb⟩ | ⟨-, hopens⟩
    · have hone := h ⟨f', hf', hfo.trans hopener, hfb.trans hblock⟩ g' hg' (hgb.trans hblock')
      exact hgo.symm.trans hone
    · exact absurd (hfb.trans hblock) (hfirst hblock' hopens f' hf')
  · rcases mem_step hg with ⟨g', hg', -, hgb⟩ | ⟨hge, -⟩
    · exact absurd (hgb.trans hblock') (hfirst hblock hopens g' hg')
    · exact hge.trans (hfe.symm.trans hopener)

theorem IsOnlyLoop.foldl_step {t : Token} {fs : List Frame} (h : IsOnlyLoop t fs)
    (ts : List Token) : IsOnlyLoop t (ts.foldl Frame.step fs) := by
  induction ts generalizing fs with
  | nil => exact h
  | cons e ts ih => exact ih (h.step e)

namespace Without

variable {C ts : List Token} {t e : Token} {fs gs : List Frame} {block : Block} {arg : String}

/-- An opening tag is read alike, but that the block of `t` may keep it from opening a loop. -/
theorem step_of_opener (h : Without C t (Spares C fs (e :: ts)) fs gs)
    (hrole : e.role = .opener block arg) (hunnoticed : Unnoticed C t fs (e :: ts)) :
    Without C t (Spares C (step fs e) ts) (step fs e) (step gs e) := by
  have hnext := h.mono fun _ => Spares.tail
  by_cases hnested : block = .eachBlock ∧ inLoop fs
  · rw [step_nested hrole hnested] at hnext ⊢
    by_cases hnested' : block = .eachBlock ∧ inLoop gs
    · rwa [step_nested hrole hnested']
    · -- Only without the block of `t` does the tag open a loop.
      rw [step_opener hrole hnested']
      obtain ⟨rfl, hfs⟩ := hnested
      have hwith := h.exists_loop hfs (by simpa using hnested')
      refine .extra rfl hwith (fun f hf => ?_) hnext
      obtain ⟨rest, rfl⟩ := List.head?_eq_some_iff.mp hf
      have hspares := hunnoticed.nested [] e ts arg f rest rfl hrole rfl hwith
      rwa [step_nested hrole ⟨rfl, hfs⟩] at hspares
  · have hgs : ¬(block = .eachBlock ∧ inLoop gs) := fun hboth =>
      hnested ⟨hboth.1, h.inLoop_left hboth.2⟩
    rw [step_opener hrole hnested] at hnext ⊢
    rw [step_opener hrole hgs]
    exact .both ⟨rfl, rfl, fun _ => rfl⟩ hnext

/-- A closing tag is read alike. -/
theorem step_of_closer (h : Without C t (Spares C fs (e :: ts)) fs gs)
    (hrole : e.role = .closer block) (ht : t ∉ C) (hloop : IsOnlyLoop t fs)
    (hnow : Foresees C fs e) :
    settles C fs e = settles C gs e ∧ closes? fs e = closes? gs e ∧
      Without C t (Spares C (step fs e) ts) (step fs e) (step gs e) := by
  have hclosed (f : Frame) (outside : List Frame)
      (hf : innermost? block fs = some (f, outside)) : f.opener ∈ C := by
    obtain ⟨inside, hfs, hinside, hblock⟩ := exists_of_innermost? hf
    exact (hnow.closer hrole hfs hinside hblock).1
  simp only [settles, closes?, hrole]
  rcases h.innermost?_eq ht hloop hclosed with
    ⟨hfs, hgs⟩ | ⟨f, outside, g, outside', hfs, hgs, hopener, hrest⟩
  · refine ⟨by rw [hfs, hgs], by rw [hfs, hgs], ?_⟩
    have hnext := h.mono fun _ => Spares.tail
    have hstep : step fs e = fs := by rw [step_closer hrole, hfs]; rfl
    have hstep' : step gs e = gs := by rw [step_closer hrole, hgs]; rfl
    rw [hstep] at hnext ⊢
    rwa [hstep']
  · refine ⟨by rw [hfs, hgs, Option.isSome_some, Option.isSome_some],
      by rw [hfs, hgs, Option.map_some, Option.map_some, hopener], ?_⟩
    have houtside : step fs e = outside := by rw [step_closer hrole, hfs]; rfl
    have houtside' : step gs e = outside' := by rw [step_closer hrole, hgs]; rfl
    rw [houtside, houtside']
    exact hrest.mono fun o ho => houtside ▸ Spares.tail ho

/-- The next token is read alike. -/
theorem next (h : Without C t (Spares C fs (e :: ts)) fs gs) (ht : t ∉ C) (hloop : IsOnlyLoop t fs)
    (hnow : Foresees C fs e) (hunnoticed : Unnoticed C t fs (e :: ts)) :
    settles C fs e = settles C gs e ∧ closes? fs e = closes? gs e ∧
      Without C t (Spares C (step fs e) ts) (step fs e) (step gs e) := by
  cases hrole : e.role with
  | text =>
    have hnext := h.mono fun _ => Spares.tail
    simp only [settles, closes?, hrole, step_text hrole, true_and] at hnext ⊢
    exact hnext
  | scalar name =>
    have hnext := h.mono fun _ => Spares.tail
    simp only [settles, closes?, hrole, step_scalar hrole, true_and] at hnext ⊢
    exact hnext
  | opener block arg =>
    simp only [settles, closes?, hrole, true_and]
    exact h.step_of_opener hrole hunnoticed
  | otherwise =>
    have hread := h.otherwise ht
      (fun f g rest hfs hf hg => hunnoticed.otherwise [] e ts f g rest rfl hrole hfs hf hg)
      (fun f rest hfs hspares hf => hspares [] e ts f rest rfl hrole hfs rfl hf)
    have hfs : step fs e = markElse fs := step_otherwise hrole
    have hgs : step gs e = markElse gs := step_otherwise hrole
    rw [← hfs, ← hgs] at hread
    simp only [settles, closes?, hrole, true_and]
    exact ⟨hread.1, hread.2.mono fun _ => Spares.tail⟩
  | closer block => exact h.step_of_closer hrole ht hloop hnow

end Without

/-- The same tags come to nothing and the same blocks are closed. -/
theorem Without.settle_eq {C ts : List Token} {t : Token} {fs gs : List Frame}
    (h : Without C t (Spares C fs ts) fs gs) (ht : t ∉ C) (hloop : IsOnlyLoop t fs)
    (hforetells : Foretells C fs ts) (hunnoticed : Unnoticed C t fs ts) :
    settle C fs ts = settle C gs ts ∧ closed fs ts = closed gs ts := by
  induction ts generalizing fs gs with
  | nil => exact ⟨rfl, rfl⟩
  | cons e ts ih =>
    cases hforetells with
    | cons hnow hlater =>
      obtain ⟨hsettles, hcloses, hnext⟩ := h.next ht hloop hnow hunnoticed
      obtain ⟨hsettle, hclosed⟩ := ih hnext (hloop.step e) hlater hunnoticed.tail
      exact ⟨by rw [settle, settle, hsettles, hsettle], by rw [closed, closed, hcloses, hclosed]⟩

/-- Marking the innermost frame keeps a frame where it is. -/
theorem exists_markElse (inside : List Frame) (f : Frame) (rest : List Frame) :
    ∃ inside' f', markElse (inside ++ f :: rest) = inside' ++ f' :: rest ∧
      f'.opener = f.opener ∧ f'.block = f.block := by
  cases inside with
  | nil =>
    rw [List.nil_append]
    by_cases htakes : f.takesElse
    · exact ⟨[], _, markElse_of_takes htakes, rfl, rfl⟩
    · exact ⟨[], f, markElse_of_not htakes, rfl, rfl⟩
  | cons f' inside =>
    rw [List.cons_append]
    by_cases htakes : f'.takesElse
    · exact ⟨_ :: inside, f, markElse_of_takes htakes, rfl, rfl⟩
    · exact ⟨f' :: inside, f, markElse_of_not htakes, rfl, rfl⟩

/-- Of two blocks of a kind, one directly inside the other, the outer one is not closed without the
inner one. -/
theorem Foretells.not_mem_outer {C ts : List Token} {inside rest : List Frame} {f g : Frame}
    (h : Foretells C (inside ++ f :: g :: rest) ts) (hblock : f.block = g.block)
    (hf : f.opener ∉ C) : g.opener ∉ C := by
  induction ts generalizing inside f with
  | nil =>
    cases h with
    | nil hnone => exact hnone g (by simp)
  | cons e ts ih =>
    cases h with
    | cons hnow hlater =>
      cases hrole : e.role with
      | text =>
        rw [step_text hrole] at hlater
        exact ih hlater hblock hf
      | scalar name =>
        rw [step_scalar hrole] at hlater
        exact ih hlater hblock hf
      | opener block arg =>
        by_cases hnested : block = .eachBlock ∧ inLoop (inside ++ f :: g :: rest)
        · rw [step_nested hrole hnested] at hlater
          exact ih hlater hblock hf
        · rw [step_opener hrole hnested, ← List.cons_append] at hlater
          exact ih hlater hblock hf
      | otherwise =>
        rw [step_otherwise hrole] at hlater
        obtain ⟨inside', f', hmark, hopener, hkind⟩ := exists_markElse inside f (g :: rest)
        rw [hmark] at hlater
        exact ih hlater (hkind.trans hblock) (hopener ▸ hf)
      | closer block =>
        rcases exists_innermost Frame.block block (inside ++ f :: g :: rest) with
          hnone | ⟨inside', c, outside, hfs, hinside, hc⟩
        · rw [step_unopened hrole hnone] at hlater
          exact ih hlater hblock hf
        obtain ⟨hmem, hnot⟩ := hnow.closer hrole hfs hinside hc
        rcases List.append_eq_append_iff.mp hfs with ⟨between, rfl, hrest⟩ | ⟨between, rfl, hrest⟩
        · -- The block that is closed is not inside `f`, so it is outside `g`.
          rcases between with _ | ⟨d, _ | ⟨d', between⟩⟩
          · obtain ⟨rfl, -⟩ := List.cons.inj hrest
            exact absurd hmem hf
          · simp only [List.cons_append, List.nil_append, List.cons.injEq] at hrest
            obtain ⟨rfl, rfl, -⟩ := hrest
            exact absurd (hblock.trans hc) (hinside f (by simp))
          · simp only [List.cons_append, List.cons.injEq] at hrest
            obtain ⟨-, rfl, -⟩ := hrest
            exact hnot g (by simp)
        · cases between with
          | nil =>
            obtain ⟨rfl, -⟩ := List.cons.inj hrest
            exact absurd hmem hf
          | cons _ between =>
            obtain ⟨rfl, rfl⟩ := List.cons.inj hrest
            rw [List.append_assoc, List.cons_append, step_innermost hrole hinside hc] at hlater
            exact ih hlater hblock hf

/-! ## The tag taken as text -/

section asText

variable {C before after : List Token} {t : Token} {block : Block} {arg : String} {fs : List Frame}

theorem closed_append_opener (hrole : t.role = .opener block arg) :
    closed fs (before ++ t :: after) =
      closed fs before ++ closed (step (before.foldl step fs) t) after := by
  rw [closed_append, closed, closes?, hrole, Option.toList_none, List.nil_append]

theorem closed_append_asText (fs : List Frame) (before after : List Token) (t : Token) :
    closed fs (before ++ t.asText :: after) =
      closed fs before ++ closed (before.foldl step fs) after := by
  rw [closed_append]
  rfl

theorem settle_append_opener (hrole : t.role = .opener block arg) (ht : t ∉ C) :
    settle C fs (before ++ t :: after) =
      settle C fs before ++ t.asText :: settle C (step (before.foldl step fs) t) after := by
  have hsettles : settles C (before.foldl step fs) t = false := by simp [settles, hrole, ht]
  rw [settle_append, settle, hsettles]
  rfl

theorem settle_append_asText (fs : List Frame) (before after : List Token) (t : Token) :
    settle C fs (before ++ t.asText :: after) =
      settle C fs before ++ t.asText :: settle C (before.foldl step fs) after := by
  rw [settle_append]
  rfl

/-- The frames before a token are not its own. -/
theorem opener_ne_of_nodup (hnodup : ((before ++ t :: after).map (·.start)).Nodup) :
    ∀ g ∈ before.foldl step [], g.opener ≠ t := by
  rintro g hg rfl
  have hmem : g.opener ∈ before := by simpa using mem_of_mem_openers (List.mem_map_of_mem hg)
  simp only [List.map_append, List.nodup_append, List.map_cons] at hnodup
  exact hnodup.2.2 _ (List.mem_map_of_mem hmem) _ List.mem_cons_self rfl

/-- The rest is read alike with the block of the tag as without it. -/
theorem Unnoticed.settle_step_eq (h : Unnoticed C t (step fs t) after)
    (hrole : t.role = .opener block arg) (ht : t ∉ C) (hfresh : ∀ g ∈ fs, g.opener ≠ t)
    (hloop : IsOnlyLoop t (step fs t)) (hforetells : Foretells C (step fs t) after) :
    settle C (step fs t) after = settle C fs after ∧
      closed (step fs t) after = closed fs after := by
  by_cases hnested : block = .eachBlock ∧ inLoop fs
  · rw [step_nested hrole hnested]
    exact ⟨rfl, rfl⟩
  · have hopens := step_opener hrole hnested
    have hwithout : Without C t (Spares C (step fs t) after) (step fs t) fs := by
      rw [hopens]
      exact .gone rfl hfresh (.refl fs)
    exact hwithout.settle_eq ht hloop hforetells h

end asText

end Frame

/-- An opening tag whose block is never closed reads as text, if nothing depends on its block being
open. -/
theorem Progress.nodes_asText {before after : List Token} {t : Token} {block : Block} {arg : String}
    (hrole : t.role = .opener block arg) (hnodup : ((before ++ t :: after).map (·.start)).Nodup)
    (ht : t ∉ Frame.closed [] (before ++ t :: after))
    (hunnoticed : Frame.Unnoticed (Frame.closed [] (before ++ t :: after)) t
      ((before ++ [t]).foldl Frame.step []) after) :
    ((before ++ t :: after).foldl read {}).finish.nodes =
      ((before ++ t.asText :: after).foldl read {}).finish.nodes := by
  have hnodup' : ((before ++ t.asText :: after).map (·.start)).Nodup := by
    simpa [Token.asText] using hnodup
  have hforetells := Frame.foretells_closed (List.Nodup.of_map _ hnodup)
  have hforetells' := Frame.foretells_closed (List.Nodup.of_map _ hnodup')
  have hclosed : Frame.closed [] (before ++ t :: after) =
      Frame.closed [] before ++ Frame.closed (Frame.step (before.foldl Frame.step []) t) after :=
    Frame.closed_append_opener hrole
  generalize Frame.closed [] (before ++ t :: after) = C at *
  have hloop : Frame.IsOnlyLoop t ((before ++ [t]).foldl Frame.step []) :=
    Frame.IsOnlyLoop.foldl_step (fun ⟨_, hf, _⟩ => by cases hf) _
  have hafter := Frame.Foretells.append (List.append_cons before t after ▸ hforetells)
  rw [List.foldl_append, List.foldl_cons, List.foldl_nil] at hunnoticed hafter hloop
  obtain ⟨hsettle, hrest⟩ :=
    hunnoticed.settle_step_eq hrole ht (Frame.opener_ne_of_nodup hnodup) hloop hafter
  rw [Frame.closed_append_asText, ← hrest, ← hclosed] at hforetells'
  rw [nodes_settle hforetells, nodes_settle hforetells', Frame.settle_append_opener hrole ht,
    Frame.settle_append_asText, hsettle]

end MachineConfig.Template
