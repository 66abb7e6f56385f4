import MachineConfig.Template.Render

/-!
The meaning of a template, said by recursion over its tree: left to right, with the warnings and
the two counts of expanded blocks handed on from node to node. `Renderer.render_eq_meaning`: the
walk through a list of work gives every document this meaning. The walk itself always ends, since
every step makes `workWeight` smaller.
-/

namespace MachineConfig.Arrays.Registry

theorem bind?_natCast (r : Registry) (name : String) {i : Nat} (h : i < (r.get name).length) :
    r.bind? name i =
      some (r.scope name (r.get name)[i] i (i + 1 = (r.get name).length)) := by
  have nonneg : ¬(i : Int) < 0 := by omega
  have last : (i : Int) = (r.get name).length - 1 ↔ i + 1 = (r.get name).length := by omega
  simp [bind?, nonneg, last, h]

/-- Every round of a loop has a scope, and it is the one bound to its index. -/
theorem map_some_scopes (r : Registry) (name : String) :
    (r.scopes name).map some =
      (List.range (r.get name).length).map fun i : Nat => r.bind? name i := by
  apply List.ext_getElem
  · simp [scopes]
  · intro i h _
    have hi : i < (r.get name).length := by simpa [scopes] using h
    simp [scopes, r.bind?_natCast name hi]

end MachineConfig.Arrays.Registry

namespace MachineConfig.Template

/-- What one node leaves to the next besides its text. -/
structure Tally where
  warnings : List String
  conditionals : Nat := 0
  loops : Nat := 0

/-- Adds a warning that is not there yet. -/
def Tally.warn (t : Tally) (warning : String) : Tally :=
  if warning ∈ t.warnings then t else { t with warnings := t.warnings ++ [warning] }

/-- A text and the tally after it, for every tally before it. -/
abbrev Meaning := Tally → String × Tally

namespace Meaning

def const (text : String) : Meaning := fun t => (text, t)

def andThen (m n : Meaning) : Meaning := fun t =>
  let first := m t
  let second := n first.2
  (first.1 ++ second.1, second.2)

/-- One meaning after the other, the first of the list first. -/
def inTurn (meanings : List Meaning) : Meaning := meanings.foldr andThen (const "")

theorem const_empty_andThen (m : Meaning) : (const "").andThen m = m := by
  funext t
  simp [andThen, const]

theorem andThen_assoc (l m n : Meaning) : (l.andThen m).andThen n = l.andThen (m.andThen n) := by
  funext t
  simp [andThen, String.append_assoc]

@[simp] theorem inTurn_nil : inTurn [] = const "" := rfl

@[simp] theorem inTurn_cons (m : Meaning) (ms : List Meaning) :
    inTurn (m :: ms) = m.andThen (inTurn ms) := rfl

theorem inTurn_append (ms ns : List Meaning) :
    inTurn (ms ++ ns) = (inTurn ms).andThen (inTurn ns) := by
  induction ms with
  | nil => rw [List.nil_append, inTurn_nil, const_empty_andThen]
  | cons m ms ih => rw [List.cons_append, inTurn_cons, ih, inTurn_cons, andThen_assoc]

end Meaning

namespace Renderer

mutual

/-- What a node means where `scope` is in force: text stands for itself, a name for its value in
the scope or else among the variables, a conditional for the branch that its condition chooses and
a loop for its body once per record. A scalar without a value and a block past its limit stand for
their source. -/
def meaning (r : Renderer) (scope : Scope) : Node → Meaning
  | .text value => .const value
  | .scalar name source =>
    .const <| match scope.bind (·.get? (Text.lower name)), r.vars.get? (Text.lower name) with
      | some value, _ => value
      | none, some value => value
      | none, none => source
  | .conditional condition negate whenTrue whenFalse source => fun t =>
    if t.conditionals < r.maxBlocks then
      let t := { t with conditionals := t.conditionals + 1 }
      if conditionHolds r.vars condition ^^ negate then r.meanings scope whenTrue t
      else r.meanings scope whenFalse t
    else (source, t.warn (conditionalLimitWarning r.maxBlocks))
  | .loop array body source => fun t =>
    if t.loops < r.maxBlocks then
      let rounds := (List.range (r.registry.get array).length).map fun i : Nat =>
        r.meanings (r.registry.bind? array i) body
      Meaning.inTurn rounds { t with loops := t.loops + 1 }
    else (source, t.warn (loopLimitWarning r.maxBlocks))

/-- What nodes mean one after the other. -/
def meanings (r : Renderer) (scope : Scope) : List Node → Meaning
  | [] => .const ""
  | n :: ns => (r.meaning scope n).andThen (r.meanings scope ns)

end

/-- What a list of work still has to give. -/
def pending (r : Renderer) (work : List (List Node × Scope)) : Meaning :=
  .inTurn (work.map fun w => r.meanings w.2 w.1)

theorem pending_cons_nil (r : Renderer) (scope : Scope) (work : List (List Node × Scope)) :
    r.pending (([], scope) :: work) = r.pending work := by
  simp only [pending, List.map_cons, Meaning.inTurn_cons, meanings]
  exact Meaning.const_empty_andThen _

/-- The first node of the work comes first. -/
theorem pending_cons_cons (r : Renderer) (n : Node) (ns : List Node) (scope : Scope)
    (work : List (List Node × Scope)) :
    r.pending ((n :: ns, scope) :: work) =
      (r.meaning scope n).andThen (r.pending ((ns, scope) :: work)) := by
  simp only [pending, List.map_cons, Meaning.inTurn_cons, meanings, Meaning.andThen_assoc]

theorem pending_cons (r : Renderer) (nodes : List Node) (scope : Scope)
    (work : List (List Node × Scope)) :
    r.pending ((nodes, scope) :: work) = (r.meanings scope nodes).andThen (r.pending work) := rfl

/-- The rounds of a loop, laid on the work, are the bodies under the scopes bound to 0, 1, and so
on. -/
theorem pending_rounds (r : Renderer) (array : String) (body : List Node)
    (work : List (List Node × Scope)) :
    r.pending ((r.registry.scopes array).map (fun s => (body, some s)) ++ work) =
      (Meaning.inTurn ((List.range (r.registry.get array).length).map fun i : Nat =>
        r.meanings (r.registry.bind? array i) body)).andThen (r.pending work) := by
  have rounds := congrArg (List.map fun s => r.meanings s body)
    (r.registry.map_some_scopes array)
  simp only [List.map_map, Function.comp_def] at rounds
  rw [pending, List.map_append, Meaning.inTurn_append, List.map_map]
  simp only [Function.comp_def, rounds, pending]

end Renderer

namespace Output

def tally (o : Output) : Tally := ⟨o.warnings.toList, o.conditionals, o.loops⟩

/-- The output when `m` is written after it. -/
def followedBy (o : Output) (m : Meaning) : String × Tally :=
  (o.text ++ (m o.tally).1, (m o.tally).2)

@[simp] theorem text_emit (o : Output) (piece : String) :
    (o.emit piece).text = o.text ++ piece := by
  simp [emit, text]

@[simp] theorem tally_emit (o : Output) (piece : String) : (o.emit piece).tally = o.tally := rfl

@[simp] theorem text_warn (o : Output) (warning : String) : (o.warn warning).text = o.text := by
  unfold warn
  split <;> rfl

@[simp] theorem tally_warn (o : Output) (warning : String) :
    (o.warn warning).tally = o.tally.warn warning := by
  simp only [warn, Tally.warn, tally, Array.mem_toList_iff]
  split <;> simp

/-- What is written at once can also be counted as the first of what follows. -/
theorem followedBy_emit (o : Output) (piece : String) (m : Meaning) :
    (o.emit piece).followedBy m = o.followedBy ((Meaning.const piece).andThen m) := by
  simp [followedBy, Meaning.andThen, Meaning.const, String.append_assoc]

/-- What follows depends on the text and on what comes first of it. -/
theorem followedBy_andThen_congr {o o' : Output} {m m' : Meaning} (htext : o.text = o'.text)
    (h : m o.tally = m' o'.tally) (n : Meaning) :
    o.followedBy (m.andThen n) = o'.followedBy (m'.andThen n) := by
  simp [followedBy, Meaning.andThen, htext, h]

end Output

namespace Renderer

theorem meaning_scalar (r : Renderer) (scope : Scope) (name source : String) :
    r.meaning scope (.scalar name source) = .const ((r.lookup scope name).getD source) := by
  simp only [meaning, lookup]
  cases scope.bind (·.get? (Text.lower name)) <;> cases r.vars.get? (Text.lower name) <;> rfl

section limits

variable (r : Renderer) (scope : Scope) {t : Tally}

theorem meaning_conditional_of_lt (condition : String) (negate : Bool)
    (whenTrue whenFalse : List Node) (source : String) (h : t.conditionals < r.maxBlocks) :
    r.meaning scope (.conditional condition negate whenTrue whenFalse source) t =
      r.meanings scope (r.branch condition negate whenTrue whenFalse)
        { t with conditionals := t.conditionals + 1 } := by
  simp only [meaning, if_pos h, branch]
  cases conditionHolds r.vars condition <;> cases negate <;> rfl

theorem meaning_conditional_of_not_lt (condition : String) (negate : Bool)
    (whenTrue whenFalse : List Node) (source : String) (h : ¬t.conditionals < r.maxBlocks) :
    r.meaning scope (.conditional condition negate whenTrue whenFalse source) t =
      Meaning.const source (t.warn (conditionalLimitWarning r.maxBlocks)) := by
  simp only [meaning, if_neg h, Meaning.const]

theorem meaning_loop_of_lt (array : String) (body : List Node) (source : String)
    (h : t.loops < r.maxBlocks) :
    r.meaning scope (.loop array body source) t =
      Meaning.inTurn ((List.range (r.registry.get array).length).map fun i : Nat =>
        r.meanings (r.registry.bind? array i) body) { t with loops := t.loops + 1 } := by
  simp only [meaning, if_pos h]

theorem meaning_loop_of_not_lt (array : String) (body : List Node) (source : String)
    (h : ¬t.loops < r.maxBlocks) :
    r.meaning scope (.loop array body source) t =
      Meaning.const source (t.warn (loopLimitWarning r.maxBlocks)) := by
  simp only [meaning, if_neg h, Meaning.const]

end limits

/-- The invariant of the walk: its output, followed by what the work has still to give, stays the
same. -/
theorem run_eq_followedBy (r : Renderer) (work : List (List Node × Scope)) (o : Output) :
    ((r.run work o).text, (r.run work o).tally) = o.followedBy (r.pending work) := by
  induction work, o using Renderer.run.induct r with
  | case1 o => simp [run, Output.followedBy, pending, Meaning.const]
  | case2 o scope work ih => rw [run, ih, pending_cons_nil]
  | case3 o value ns scope work ih =>
    rw [run, ih, Output.followedBy_emit, pending_cons_cons, meaning]
  | case4 o name source ns scope work ih =>
    rw [run, ih, Output.followedBy_emit, pending_cons_cons, meaning_scalar]
  | case5 o condition negate whenTrue whenFalse source ns scope work h ih =>
    have below : o.tally.conditionals < r.maxBlocks := h
    rw [run, if_pos h, ih, pending_cons, pending_cons_cons]
    refine Output.followedBy_andThen_congr ?_ ?_ _
    · rfl
    · rw [meaning_conditional_of_lt r scope _ _ _ _ _ below]
      rfl
  | case6 o condition negate whenTrue whenFalse source ns scope work h ih =>
    have reached : ¬o.tally.conditionals < r.maxBlocks := h
    rw [run, if_neg h, ih, Output.followedBy_emit, pending_cons_cons]
    refine Output.followedBy_andThen_congr (Output.text_warn ..) ?_ _
    rw [meaning_conditional_of_not_lt r scope _ _ _ _ _ reached, Output.tally_warn]
  | case7 o array body source ns scope work h ih =>
    have below : o.tally.loops < r.maxBlocks := h
    rw [run, if_pos h, ih, pending_rounds, pending_cons_cons]
    refine Output.followedBy_andThen_congr ?_ ?_ _
    · rfl
    · rw [meaning_loop_of_lt r scope _ _ _ below]
      rfl
  | case8 o array body source ns scope work h ih =>
    have reached : ¬o.tally.loops < r.maxBlocks := h
    rw [run, if_neg h, ih, Output.followedBy_emit, pending_cons_cons]
    refine Output.followedBy_andThen_congr (Output.text_warn ..) ?_ _
    rw [meaning_loop_of_not_lt r scope _ _ _ reached, Output.tally_warn]

/-- Walking through a whole tree gives it its meaning, the warnings of reading it being there
first. -/
theorem evaluate_eq_meanings (r : Renderer) (tree : Tree) :
    ((r.evaluate tree).text, (r.evaluate tree).tally) =
      r.meanings none tree.nodes { warnings := tree.warnings } := by
  rw [evaluate, run_eq_followedBy]
  simp [Output.followedBy, Output.text, Output.tally, pending, Meaning.andThen, Meaning.const]

/-- A rendering, told from the tree of the document. -/
theorem render_of_ofDocument (r : Renderer) {document : String} {tree : Tree}
    (h : Tree.ofDocument document = tree) :
    let result := r.meanings none tree.nodes { warnings := tree.warnings }
    r.render document = ⟨result.1, unresolvedTags result.1, result.2.warnings⟩ := by
  subst h
  rw [← r.evaluate_eq_meanings]
  rfl

/-- A rendered document is what its tree means. -/
theorem render_eq_meaning (r : Renderer) (document : String) :
    let tree := Tree.ofDocument document
    let result := r.meanings none tree.nodes { warnings := tree.warnings }
    (r.render document).text = result.1 ∧ (r.render document).warnings = result.2.warnings := by
  intro tree result
  have walk : ((r.evaluate tree).text, (r.evaluate tree).tally) = result :=
    r.evaluate_eq_meanings tree
  rw [← walk]
  exact ⟨rfl, rfl⟩

end Renderer

end MachineConfig.Template
