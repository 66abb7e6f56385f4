import MachineConfig.Proofs.Template.Meaning

/-!
The walk through a tree, step by step. `Renderer.Reaches` says what the walk comes to; wherever that
is, it goes on to the same end (`Renderer.Reaches.run_eq`). A node that it leaves as it was read
stands in the output, whatever is written before and after it (`Renderer.Reaches.verbatim_isInfix`).
-/

namespace MachineConfig.Template

namespace Renderer

/-- The work that is left and the output so far, wherever the walk through a tree comes. -/
inductive Reaches (r : Renderer) (tree : Tree) : List (List Node × Scope) → Output → Prop where
  | start : Reaches r tree [(tree.nodes, none)] { warnings := tree.warnings.toArray }
  | done {scope work o} : Reaches r tree (([], scope) :: work) o → Reaches r tree work o
  | text {value ns scope work o} : Reaches r tree ((.text value :: ns, scope) :: work) o →
      Reaches r tree ((ns, scope) :: work) (o.emit value)
  | scalar {name source ns scope work o} :
      Reaches r tree ((.scalar name source :: ns, scope) :: work) o →
      Reaches r tree ((ns, scope) :: work) (o.emit ((r.lookup scope name).getD source))
  | branch {condition negate whenTrue whenFalse source ns scope work o} :
      Reaches r tree
        ((.conditional condition negate whenTrue whenFalse source :: ns, scope) :: work) o →
      o.conditionals < r.maxBlocks →
      Reaches r tree ((r.branch condition negate whenTrue whenFalse, scope) :: (ns, scope) :: work)
        { o with conditionals := o.conditionals + 1 }
  | conditionalPast {condition negate whenTrue whenFalse source ns scope work o} :
      Reaches r tree
        ((.conditional condition negate whenTrue whenFalse source :: ns, scope) :: work) o →
      ¬o.conditionals < r.maxBlocks →
      Reaches r tree ((ns, scope) :: work)
        ((o.warn (conditionalLimitWarning r.maxBlocks)).emit source)
  | rounds {array body source ns scope work o} :
      Reaches r tree ((.loop array body source :: ns, scope) :: work) o → o.loops < r.maxBlocks →
      Reaches r tree
        ((r.registry.scopes array).map (fun s => (body, some s)) ++ (ns, scope) :: work)
        { o with loops := o.loops + 1 }
  | loopPast {array body source ns scope work o} :
      Reaches r tree ((.loop array body source :: ns, scope) :: work) o → ¬o.loops < r.maxBlocks →
      Reaches r tree ((ns, scope) :: work) ((o.warn (loopLimitWarning r.maxBlocks)).emit source)

variable {r : Renderer} {tree : Tree} {work : List (List Node × Scope)} {o : Output}
  {scope : Scope} {n : Node} {ns : List Node}

/-- From wherever it comes, the walk goes on to the same end. -/
theorem Reaches.run_eq (h : r.Reaches tree work o) : r.run work o = r.evaluate tree := by
  induction h with
  | start => rfl
  | done _ ih | text _ ih | scalar _ ih => rw [← ih, run]
  | branch _ hlt ih | rounds _ hlt ih => rw [← ih, run, if_pos hlt]
  | conditionalPast _ hpast ih | loopPast _ hpast ih => rw [← ih, run, if_neg hpast]

/-- The walk writes a node as it was read: a text, a name without a value, or a block past its
limit. -/
def Leaves (r : Renderer) (scope : Scope) (o : Output) : Node → Prop
  | .text _ => True
  | .scalar name _ => r.lookup scope name = none
  | .conditional .. => ¬o.conditionals < r.maxBlocks
  | .loop .. => ¬o.loops < r.maxBlocks

instance (n : Node) : Decidable (r.Leaves scope o n) :=
  match n with
  | .text _ => inferInstanceAs (Decidable True)
  | .scalar name _ => inferInstanceAs (Decidable (r.lookup scope name = none))
  | .conditional .. => inferInstanceAs (Decidable (¬o.conditionals < r.maxBlocks))
  | .loop .. => inferInstanceAs (Decidable (¬o.loops < r.maxBlocks))

theorem meaning_of_leaves (h : r.Leaves scope o n) :
    (r.meaning scope n o.tally).1 = n.verbatim := by
  cases n with
  | text value => rfl
  | scalar name source =>
    have hnone : r.lookup scope name = none := h
    rw [meaning_scalar, hnone]
    rfl
  | conditional condition negate whenTrue whenFalse source =>
    have hpast : ¬o.tally.conditionals < r.maxBlocks := h
    rw [meaning_conditional_of_not_lt r scope _ _ _ _ _ hpast]
    rfl
  | loop array body source =>
    have hpast : ¬o.tally.loops < r.maxBlocks := h
    rw [meaning_loop_of_not_lt r scope _ _ _ hpast]
    rfl

/-- What is left as it was read stands in the output. -/
theorem Reaches.verbatim_isInfix (h : r.Reaches tree ((n :: ns, scope) :: work) o)
    (hleaves : r.Leaves scope o n) :
    ∃ before after, (r.evaluate tree).text = before ++ n.verbatim ++ after := by
  have hwalk := congrArg Prod.fst (r.run_eq_followedBy ((n :: ns, scope) :: work) o)
  simp only [Output.followedBy, pending_cons_cons, Meaning.andThen,
    meaning_of_leaves hleaves] at hwalk
  rw [← h.run_eq, hwalk]
  exact ⟨o.text, _, (String.append_assoc ..).symm⟩

end Renderer

end MachineConfig.Template
