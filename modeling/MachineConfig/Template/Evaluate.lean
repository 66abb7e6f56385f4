import MachineConfig.Arrays.Registry
import MachineConfig.Template.Condition
import MachineConfig.Template.Node

/-!
Evaluating trees. The work that is left is held in a list of node lists, each with the scope of
the loop round that it belongs to, so that no nesting is too deep. The number of blocks of each
kind that are expanded is limited; a block past its limit is written as it stands in the
document.
-/

namespace MachineConfig.Template

/-- What a document is rendered with. -/
structure Renderer where
  vars : Vars
  registry : Arrays.Registry := {}
  maxBlocks : Int := 1000

def conditionalLimitWarning (limit : Int) : String :=
  s!"conditional limit ({limit}) reached"

def loopLimitWarning (limit : Int) : String :=
  s!"loop expansion limit ({limit}) reached"

/-- The variables that the body of a loop sees first; none outside loops. -/
abbrev Scope := Option Vars

/-- The output so far, piece by piece, and the blocks that were expanded. -/
structure Output where
  pieces : Array String := #[]
  warnings : Array String := #[]
  conditionals : Nat := 0
  loops : Nat := 0

namespace Output

def emit (o : Output) (piece : String) : Output := { o with pieces := o.pieces.push piece }

/-- Gives a warning once. -/
def warn (o : Output) (warning : String) : Output :=
  if warning ∈ o.warnings then o else { o with warnings := o.warnings.push warning }

def text (o : Output) : String := String.join o.pieces.toList

end Output

namespace Renderer

/-- What a name stands for. -/
def lookup (r : Renderer) (scope : Scope) (name : String) : Option String :=
  let key := Text.lower name
  (scope.bind (·.get? key)) <|> r.vars.get? key

/-- The nodes that a conditional renders. Its condition never sees loop variables. -/
def branch (r : Renderer) (condition : String) (negate : Bool) (whenTrue whenFalse : List Node) :
    List Node :=
  if conditionHolds r.vars condition ≠ negate then whenTrue else whenFalse

mutual

/-- A bound on the steps that a node takes. -/
def weight (r : Renderer) : Node → Nat
  | .text _ => 1
  | .scalar _ _ => 1
  | .conditional _ _ whenTrue whenFalse _ => 2 + r.weights whenTrue + r.weights whenFalse
  | .loop array body _ => 1 + (r.registry.scopes array).length * (1 + r.weights body)

def weights (r : Renderer) : List Node → Nat
  | [] => 0
  | n :: ns => r.weight n + r.weights ns

end

/-- A bound on the steps that a list of work takes. -/
def workWeight (r : Renderer) (work : List (List Node × Scope)) : Nat :=
  work.foldr (fun w n => 1 + r.weights w.1 + n) 0

theorem workWeight_cons (r : Renderer) (nodes : List Node) (scope : Scope)
    (work : List (List Node × Scope)) :
    r.workWeight ((nodes, scope) :: work) = 1 + r.weights nodes + r.workWeight work := rfl

theorem workWeight_rounds (r : Renderer) (body : List Node) (scopes : List Vars)
    (work : List (List Node × Scope)) :
    r.workWeight (scopes.map (fun s => (body, some s)) ++ work) =
      scopes.length * (1 + r.weights body) + r.workWeight work := by
  induction scopes with
  | nil => simp
  | cons s ss ih =>
    rw [List.map_cons, List.cons_append, workWeight_cons, ih, List.length_cons, Nat.succ_mul]
    omega

theorem weights_branch_le (r : Renderer) (condition : String) (negate : Bool)
    (whenTrue whenFalse : List Node) :
    r.weights (r.branch condition negate whenTrue whenFalse) ≤
      r.weights whenTrue + r.weights whenFalse := by
  unfold branch
  split <;> omega

/-- Does the work, node by node. -/
def run (r : Renderer) (work : List (List Node × Scope)) (o : Output) : Output :=
  match work with
  | [] => o
  | ([], _) :: work => r.run work o
  | (.text value :: ns, scope) :: work => r.run ((ns, scope) :: work) (o.emit value)
  | (.scalar name source :: ns, scope) :: work =>
    r.run ((ns, scope) :: work) (o.emit ((r.lookup scope name).getD source))
  | (.conditional condition negate whenTrue whenFalse source :: ns, scope) :: work =>
    if o.conditionals < r.maxBlocks then
      r.run ((r.branch condition negate whenTrue whenFalse, scope) :: (ns, scope) :: work)
        { o with conditionals := o.conditionals + 1 }
    else
      r.run ((ns, scope) :: work) ((o.warn (conditionalLimitWarning r.maxBlocks)).emit source)
  | (.loop array body source :: ns, scope) :: work =>
    if o.loops < r.maxBlocks then
      r.run ((r.registry.scopes array).map (fun s => (body, some s)) ++ (ns, scope) :: work)
        { o with loops := o.loops + 1 }
    else
      r.run ((ns, scope) :: work) ((o.warn (loopLimitWarning r.maxBlocks)).emit source)
termination_by r.workWeight work
decreasing_by
  all_goals simp only [workWeight_cons, workWeight_rounds, weights, weight]
  all_goals have := weights_branch_le r
  all_goals grind

end Renderer

end MachineConfig.Template
