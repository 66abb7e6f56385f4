import MachineConfig.Proofs.Template.Meaning

/-!
A limit that is not reached does not show. As long as nothing warns of a limit, what is rendered
depends neither on the limit nor on how many blocks were expanded before, as far as there is room
for as many more (`Renderer.follows_meanings`).
-/

namespace MachineConfig.Template

namespace Tally

variable {limit limit' : Int} {t t' u : Tally}

/-- Nothing has warned of the limit. -/
def IsWithin (limit : Int) (t : Tally) : Prop :=
  conditionalLimitWarning limit ∉ t.warnings ∧ loopLimitWarning limit ∉ t.warnings

theorem IsWithin.of_subset (h : u.IsWithin limit) (hsubset : t.warnings ⊆ u.warnings) :
    t.IsWithin limit :=
  ⟨fun hmem => h.1 (hsubset hmem), fun hmem => h.2 (hsubset hmem)⟩

theorem mem_warn (t : Tally) (warning : String) : warning ∈ (t.warn warning).warnings := by
  unfold warn
  split
  · assumption
  · simp

theorem warnings_subset_warn (t : Tally) (warning : String) :
    t.warnings ⊆ (t.warn warning).warnings := by
  unfold warn
  split
  · exact List.Subset.refl _
  · exact List.subset_append_left _ _

/-- There is room for as many blocks of each kind, under `limit'` after `t'`, as there is under
`limit` after `t`. -/
structure LeavesRoom (limit limit' : Int) (t t' : Tally) : Prop where
  conditionals : limit - t.conditionals ≤ limit' - t'.conditionals
  loops : limit - t.loops ≤ limit' - t'.loops

/-- Under one limit there is never more room than at the start. -/
theorem LeavesRoom.of_zero (warnings : List String) : t.LeavesRoom limit limit { warnings } :=
  ⟨by dsimp only; omega, by dsimp only; omega⟩

end Tally

namespace Meaning

variable {limit limit' : Int} {m m' n n' : Meaning}

/-- Where `m` stays within its limit and there is room for as many blocks under the other, `m'`
gives the same text and no warning. -/
structure Follows (limit limit' : Int) (m m' : Meaning) : Prop where
  warnings_subset : ∀ t, t.warnings ⊆ (m t).2.warnings
  text_eq : ∀ {t t'}, t.LeavesRoom limit limit' t' → (m t).2.IsWithin limit → (m' t').1 = (m t).1
  warnings_eq : ∀ {t t'}, t.LeavesRoom limit limit' t' → (m t).2.IsWithin limit →
    (m' t').2.warnings = t'.warnings
  leavesRoom : ∀ {t t'}, t.LeavesRoom limit limit' t' → (m t).2.IsWithin limit →
    (m t).2.LeavesRoom limit limit' (m' t').2

theorem Follows.const (text : String) : Follows limit limit' (const text) (const text) where
  warnings_subset _ := List.Subset.refl _
  text_eq _ _ := rfl
  warnings_eq _ _ := rfl
  leavesRoom h _ := h

theorem Follows.andThen (h : Follows limit limit' m m') (h' : Follows limit limit' n n') :
    Follows limit limit' (m.andThen n) (m'.andThen n') := by
  have first {t : Tally} (hwithin : (n (m t).2).2.IsWithin limit) : (m t).2.IsWithin limit :=
    hwithin.of_subset (h'.warnings_subset _)
  refine ⟨fun t => ?_, fun hroom hwithin => ?_, fun hroom hwithin => ?_, fun hroom hwithin => ?_⟩
  · exact List.Subset.trans (h.warnings_subset t) (h'.warnings_subset _)
  · have hnext := h.leavesRoom hroom (first hwithin)
    simp only [Meaning.andThen, h.text_eq hroom (first hwithin), h'.text_eq hnext hwithin]
  · have hnext := h.leavesRoom hroom (first hwithin)
    exact (h'.warnings_eq hnext hwithin).trans (h.warnings_eq hroom (first hwithin))
  · exact h'.leavesRoom (h.leavesRoom hroom (first hwithin)) hwithin

theorem Follows.inTurn {α : Type} {f f' : α → Meaning} {xs : List α}
    (h : ∀ x ∈ xs, Follows limit limit' (f x) (f' x)) :
    Follows limit limit' (inTurn (xs.map f)) (inTurn (xs.map f')) := by
  induction xs with
  | nil => exact .const ""
  | cons x xs ih =>
    rw [List.forall_mem_cons] at h
    exact h.1.andThen (ih h.2)

/-- A block: it stays within its limit by expanding its body, or warns of the limit. -/
theorem Follows.ofBlock {warning : String} (expand : Tally → Tally) (h : Follows limit limit' n n')
    (hwarning : warning ∈ [conditionalLimitWarning limit, loopLimitWarning limit])
    (hexpand : ∀ t, (expand t).warnings = t.warnings)
    (hroom : ∀ {t t'}, t.LeavesRoom limit limit' t' →
      (expand t).LeavesRoom limit limit' (expand t'))
    (hm : ∀ t, (m t).2 = t.warn warning ∨
      m t = n (expand t) ∧ ∀ t', t.LeavesRoom limit limit' t' → m' t' = n' (expand t')) :
    Follows limit limit' m m' := by
  have expanded {t : Tally} (hwithin : (m t).2.IsWithin limit) :
      m t = n (expand t) ∧ ∀ t', t.LeavesRoom limit limit' t' → m' t' = n' (expand t') := by
    refine (hm t).resolve_left fun hwarn => ?_
    have hmem := t.mem_warn warning
    rw [← hwarn] at hmem
    simp only [List.mem_cons, List.not_mem_nil, or_false] at hwarning
    rcases hwarning with rfl | rfl
    · exact hwithin.1 hmem
    · exact hwithin.2 hmem
  refine ⟨fun t => ?_, fun {t t'} hleaves hwithin => ?_, fun {t t'} hleaves hwithin => ?_,
    fun {t t'} hleaves hwithin => ?_⟩
  · rcases hm t with hwarn | ⟨hbody, -⟩
    · rw [hwarn]
      exact t.warnings_subset_warn warning
    · rw [hbody, ← hexpand t]
      exact h.warnings_subset _
  all_goals
    obtain ⟨hbody, hbody'⟩ := expanded hwithin
    rw [hbody] at hwithin
    rw [hbody' t' hleaves]
  · rw [hbody, h.text_eq (hroom hleaves) hwithin]
  · rw [h.warnings_eq (hroom hleaves) hwithin, hexpand]
  · rw [hbody]
    exact h.leavesRoom (hroom hleaves) hwithin

end Meaning

namespace Renderer

open Meaning

section blocks

variable (r r' : Renderer) {scope : Scope}

/-- A conditional follows another one as the branch that is chosen does. -/
theorem follows_conditional {condition condition' source source' : String} {negate negate' : Bool}
    {whenTrue whenTrue' whenFalse whenFalse' : List Node}
    (h : Follows r.maxBlocks r'.maxBlocks
      (r.meanings scope (r.branch condition negate whenTrue whenFalse))
      (r'.meanings scope (r'.branch condition' negate' whenTrue' whenFalse'))) :
    Follows r.maxBlocks r'.maxBlocks
      (r.meaning scope (.conditional condition negate whenTrue whenFalse source))
      (r'.meaning scope (.conditional condition' negate' whenTrue' whenFalse' source')) := by
  refine h.ofBlock (fun t => { t with conditionals := t.conditionals + 1 })
    List.mem_cons_self (fun _ => rfl) (fun hroom => ⟨?_, hroom.loops⟩) fun t => ?_
  · have := hroom.conditionals
    simp only [Int.natCast_add, Int.natCast_one]
    omega
  · by_cases hlt : t.conditionals < r.maxBlocks
    · refine .inr ⟨meaning_conditional_of_lt r scope _ _ _ _ _ hlt, fun t' hroom => ?_⟩
      have hlt' : t'.conditionals < r'.maxBlocks := by
        have := hroom.conditionals
        omega
      exact meaning_conditional_of_lt r' scope _ _ _ _ _ hlt'
    · exact .inl (congrArg Prod.snd (meaning_conditional_of_not_lt r scope _ _ _ _ _ hlt))

/-- A loop follows another one as its rounds do. -/
theorem follows_loop {array array' source source' : String} {body body' : List Node}
    (h : Follows r.maxBlocks r'.maxBlocks
      (inTurn ((List.range (r.registry.get array).length).map fun i : Nat =>
        r.meanings (r.registry.bind? array i) body))
      (inTurn ((List.range (r'.registry.get array').length).map fun i : Nat =>
        r'.meanings (r'.registry.bind? array' i) body'))) :
    Follows r.maxBlocks r'.maxBlocks (r.meaning scope (.loop array body source))
      (r'.meaning scope (.loop array' body' source')) := by
  refine h.ofBlock (fun t => { t with loops := t.loops + 1 })
    (List.mem_cons_of_mem _ List.mem_cons_self) (fun _ => rfl)
    (fun hroom => ⟨hroom.conditionals, ?_⟩) fun t => ?_
  · have := hroom.loops
    simp only [Int.natCast_add, Int.natCast_one]
    omega
  · by_cases hlt : t.loops < r.maxBlocks
    · refine .inr ⟨meaning_loop_of_lt r scope _ _ _ hlt, fun t' hroom => ?_⟩
      have hlt' : t'.loops < r'.maxBlocks := by
        have := hroom.loops
        omega
      exact meaning_loop_of_lt r' scope _ _ _ hlt'
    · exact .inl (congrArg Prod.snd (meaning_loop_of_not_lt r scope _ _ _ hlt))

end blocks

variable (r : Renderer) (limit' : Int)

mutual

/-- With another limit a node gives the same, as long as neither limit is reached. -/
theorem follows_meaning : (n : Node) → (scope : Scope) →
    Follows r.maxBlocks limit' (r.meaning scope n)
      ({ r with maxBlocks := limit' }.meaning scope n)
  | .text value, scope => by
    rw [meaning, meaning]
    exact .const value
  | .scalar name source, scope => by
    rw [meaning_scalar, meaning_scalar]
    exact .const _
  | .conditional condition negate whenTrue whenFalse source, scope => by
    refine follows_conditional r { r with maxBlocks := limit' } ?_
    unfold branch
    split
    · exact follows_meanings whenTrue scope
    · exact follows_meanings whenFalse scope
  | .loop array body source, scope =>
    follows_loop r { r with maxBlocks := limit' }
      (.inTurn fun i _ => follows_meanings body (r.registry.bind? array i))

theorem follows_meanings : (ns : List Node) → (scope : Scope) →
    Follows r.maxBlocks limit' (r.meanings scope ns)
      ({ r with maxBlocks := limit' }.meanings scope ns)
  | [], _ => .const ""
  | n :: ns, scope => (follows_meaning n scope).andThen (follows_meanings ns scope)

end

end Renderer

end MachineConfig.Template
