import MachineConfig.Proofs.Template.Limits
import MachineConfig.Proofs.Template.TreeLemmas

/-!
The ceiling on expanded blocks. `Renderer.Meets` records the blocks that the walk through a tree
comes upon, and whether it expands each of them or writes its source. `Renderer.render_ceiling`: of
each kind no more are expanded than the limit allows; a limit is warned of, and then once, exactly
where a block was written as its source; and where none was, a higher limit gives the same.
-/

namespace MachineConfig.Template

/-- The kinds of blocks that are counted apart. -/
inductive Counted where
  | conditional
  | loop
  deriving DecidableEq

namespace Counted

def limitWarning : Counted → Int → String
  | conditional, limit => conditionalLimitWarning limit
  | loop, limit => loopLimitWarning limit

/-- The first letters of the warnings tell the kinds apart. -/
def initial : Counted → Char
  | conditional => 'c'
  | loop => 'l'

theorem head?_limitWarning (kind : Counted) (limit : Int) :
    (kind.limitWarning limit).toList.head? = some kind.initial := by
  have hfirst {text : String} {c : Char} (h : text.toList.head? = some c) (rest : String) :
      (text ++ rest).toList.head? = some c := by
    rw [String.toList_append, List.head?_append, h, Option.some_or]
  have hconditional : "conditional limit (".toList.head? = some 'c' := by simp
  have hloop : "loop expansion limit (".toList.head? = some 'l' := by simp
  cases kind with
  | conditional => exact hfirst (hfirst hconditional _) _
  | loop => exact hfirst (hfirst hloop _) _

theorem limitWarning_inj {kind kind' : Counted} {limit : Int} :
    kind.limitWarning limit = kind'.limitWarning limit ↔ kind = kind' := by
  refine ⟨fun h => ?_, fun h => h ▸ rfl⟩
  have hfirst := congrArg (·.toList.head?) h
  simp only [head?_limitWarning, Option.some.injEq] at hfirst
  cases kind <;> cases kind' <;> simp [initial] at hfirst ⊢

/-- No warning of a limit is one of a loop inside a loop. -/
theorem limitWarning_ne_nestedLoopWarning (kind : Counted) (limit : Int) (tag : String) :
    kind.limitWarning limit ≠ nestedLoopWarning tag := by
  intro h
  have hn : "nested \x7b\x7b#each\x7d\x7d is not supported: ".toList.head? = some 'n' := by simp
  have hfirst := congrArg (·.toList.head?) h
  unfold nestedLoopWarning at hfirst
  simp only [head?_limitWarning] at hfirst
  rw [String.toList_append, List.head?_append, hn, Option.some_or] at hfirst
  cases kind <;> cases hfirst

end Counted

/-- A block that the walk comes upon, and whether it is expanded there. -/
structure Meeting where
  kind : Counted
  expanded : Bool
  deriving DecidableEq

namespace Output

/-- How many blocks of a kind have been expanded. -/
def expansions (o : Output) : Counted → Nat
  | .conditional => o.conditionals
  | .loop => o.loops

@[simp] theorem expansions_emit (o : Output) (piece : String) :
    (o.emit piece).expansions = o.expansions := by
  funext kind
  cases kind <;> rfl

@[simp] theorem expansions_warn (o : Output) (warning : String) :
    (o.warn warning).expansions = o.expansions := by
  funext kind
  unfold warn
  split <;> cases kind <;> rfl

/-- A warning is given once, however often it is called for. -/
theorem count_warn (o : Output) (given warning : String) :
    (o.warn given).warnings.count warning =
      max (o.warnings.count warning) (if given = warning then 1 else 0) := by
  unfold warn
  split
  next hmem =>
    split
    next heq =>
      have hpos := Array.count_pos_iff.mpr hmem
      rw [heq] at hpos
      omega
    next => omega
  next hmem =>
    rw [Array.count_push]
    simp only [beq_iff_eq]
    split
    next heq =>
      rw [heq] at hmem
      rw [Array.count_eq_zero.mpr hmem]
      rfl
    next => omega

end Output

namespace Renderer

/-- What the walk does from some point on: the blocks that it comes upon, in order, and the output
at its end. -/
inductive Meets (r : Renderer) :
    List (List Node × Scope) → Output → List Meeting → Output → Prop where
  | nil {o} : Meets r [] o [] o
  | done {scope work o met o'} : Meets r work o met o' → Meets r (([], scope) :: work) o met o'
  | text {value ns scope work o met o'} : Meets r ((ns, scope) :: work) (o.emit value) met o' →
      Meets r ((.text value :: ns, scope) :: work) o met o'
  | scalar {name source ns scope work o met o'} :
      Meets r ((ns, scope) :: work) (o.emit ((r.lookup scope name).getD source)) met o' →
      Meets r ((.scalar name source :: ns, scope) :: work) o met o'
  | branch {condition negate whenTrue whenFalse source ns scope work o met o'} :
      o.conditionals < r.maxBlocks →
      Meets r ((r.branch condition negate whenTrue whenFalse, scope) :: (ns, scope) :: work)
        { o with conditionals := o.conditionals + 1 } met o' →
      Meets r ((.conditional condition negate whenTrue whenFalse source :: ns, scope) :: work) o
        (⟨.conditional, true⟩ :: met) o'
  | conditionalPast {condition negate whenTrue whenFalse source ns scope work o met o'} :
      ¬o.conditionals < r.maxBlocks →
      Meets r ((ns, scope) :: work) ((o.warn (conditionalLimitWarning r.maxBlocks)).emit source)
        met o' →
      Meets r ((.conditional condition negate whenTrue whenFalse source :: ns, scope) :: work) o
        (⟨.conditional, false⟩ :: met) o'
  | rounds {array body source ns scope work o met o'} :
      o.loops < r.maxBlocks →
      Meets r ((r.registry.scopes array).map (fun s => (body, some s)) ++ (ns, scope) :: work)
        { o with loops := o.loops + 1 } met o' →
      Meets r ((.loop array body source :: ns, scope) :: work) o (⟨.loop, true⟩ :: met) o'
  | loopPast {array body source ns scope work o met o'} :
      ¬o.loops < r.maxBlocks →
      Meets r ((ns, scope) :: work) ((o.warn (loopLimitWarning r.maxBlocks)).emit source) met o' →
      Meets r ((.loop array body source :: ns, scope) :: work) o (⟨.loop, false⟩ :: met) o'

variable {r : Renderer} {work : List (List Node × Scope)} {o o' : Output} {met : List Meeting}

/-- The walk that is recorded is the one that writes the output. -/
theorem exists_meets (r : Renderer) (work : List (List Node × Scope)) (o : Output) :
    ∃ met, r.Meets work o met (r.run work o) := by
  induction work, o using Renderer.run.induct r with
  | case1 o => exact ⟨[], by rw [run]; exact .nil⟩
  | case2 o scope work ih =>
    obtain ⟨met, h⟩ := ih
    exact ⟨met, by rw [run]; exact .done h⟩
  | case3 o value ns scope work ih =>
    obtain ⟨met, h⟩ := ih
    exact ⟨met, by rw [run]; exact .text h⟩
  | case4 o name source ns scope work ih =>
    obtain ⟨met, h⟩ := ih
    exact ⟨met, by rw [run]; exact .scalar h⟩
  | case5 o condition negate whenTrue whenFalse source ns scope work hlt ih =>
    obtain ⟨met, h⟩ := ih
    exact ⟨_, by rw [run, if_pos hlt]; exact .branch hlt h⟩
  | case6 o condition negate whenTrue whenFalse source ns scope work hlt ih =>
    obtain ⟨met, h⟩ := ih
    exact ⟨_, by rw [run, if_neg hlt]; exact .conditionalPast hlt h⟩
  | case7 o array body source ns scope work hlt ih =>
    obtain ⟨met, h⟩ := ih
    exact ⟨_, by rw [run, if_pos hlt]; exact .rounds hlt h⟩
  | case8 o array body source ns scope work hlt ih =>
    obtain ⟨met, h⟩ := ih
    exact ⟨_, by rw [run, if_neg hlt]; exact .loopPast hlt h⟩

namespace Meets

/-- There is one record of a walk. -/
theorem unique {met' : List Meeting} {o'' : Output} (h : r.Meets work o met o')
    (h' : r.Meets work o met' o'') : met = met' := by
  induction h generalizing met' with
  | nil => cases h'; rfl
  | done _ ih => cases h' with | done h' => exact ih h'
  | text _ ih => cases h' with | text h' => exact ih h'
  | scalar _ ih => cases h' with | scalar h' => exact ih h'
  | branch hlt _ ih =>
    cases h' with
    | branch _ h' => rw [ih h']
    | conditionalPast hpast _ => exact absurd hlt hpast
  | conditionalPast hpast _ ih =>
    cases h' with
    | branch hlt _ => exact absurd hlt hpast
    | conditionalPast _ h' => rw [ih h']
  | rounds hlt _ ih =>
    cases h' with
    | rounds _ h' => rw [ih h']
    | loopPast hpast _ => exact absurd hlt hpast
  | loopPast hpast _ ih =>
    cases h' with
    | rounds hlt _ => exact absurd hlt hpast
    | loopPast _ h' => rw [ih h']

/-- The counters count the blocks that are expanded. -/
theorem expansions_eq (h : r.Meets work o met o') (kind : Counted) :
    o'.expansions kind = o.expansions kind + met.count ⟨kind, true⟩ := by
  induction h with
  | nil => rfl
  | done _ ih => exact ih
  | text _ ih | scalar _ ih => rw [ih, Output.expansions_emit]
  | branch _ _ ih | rounds _ _ ih =>
    rw [ih]
    cases kind <;> grind [Output.expansions]
  | conditionalPast _ _ ih | loopPast _ _ ih =>
    rw [ih, Output.expansions_emit, Output.expansions_warn]
    simp

/-- A count that is not above the ceiling never comes above it. -/
theorem expansions_le (h : r.Meets work o met o')
    (hle : ∀ kind, (o.expansions kind : Int) ≤ max 0 r.maxBlocks) (kind : Counted) :
    (o'.expansions kind : Int) ≤ max 0 r.maxBlocks := by
  induction h with
  | nil => exact hle kind
  | done _ ih => exact ih hle
  | text _ ih | scalar _ ih => exact ih (by simpa using hle)
  | conditionalPast _ _ ih | loopPast _ _ ih => exact ih (by simpa using hle)
  | branch hlt _ ih | rounds hlt _ ih =>
    refine ih fun kind => ?_
    have := hle kind
    cases kind <;> simp only [Output.expansions] at this ⊢ <;> omega

/-- A warning of a limit is there once if it was there before or a block has been written as its
source since. -/
theorem count_warnings (h : r.Meets work o met o') (kind : Counted) :
    o'.warnings.count (kind.limitWarning r.maxBlocks) =
      max (o.warnings.count (kind.limitWarning r.maxBlocks))
        (if ⟨kind, false⟩ ∈ met then 1 else 0) := by
  have step (kind' : Counted) (o : Output) (source : String) :
      ((o.warn (kind'.limitWarning r.maxBlocks)).emit source).warnings.count
          (kind.limitWarning r.maxBlocks) =
        max (o.warnings.count (kind.limitWarning r.maxBlocks)) (if kind' = kind then 1 else 0) := by
    have hcount := o.count_warn (kind'.limitWarning r.maxBlocks) (kind.limitWarning r.maxBlocks)
    simpa only [Counted.limitWarning_inj] using! hcount
  induction h with
  | nil => simp
  | done _ ih | text _ ih | scalar _ ih => exact ih
  | branch _ _ ih | rounds _ _ ih => rw [ih]; simp
  | conditionalPast _ _ ih =>
    rw [ih]
    refine (congrArg (max · _) (step .conditional _ _)).trans ?_
    cases kind <;> simp
    split <;> rfl
  | loopPast _ _ ih =>
    rw [ih]
    refine (congrArg (max · _) (step .loop _ _)).trans ?_
    cases kind <;> simp
    split <;> rfl

end Meets

end Renderer

namespace Progress

/-- The warnings of reading are all of loops inside loops. -/
def WarnsOfLoops (p : Progress) : Prop := ∀ w ∈ p.warnings, ∃ tag, w = nestedLoopWarning tag

theorem WarnsOfLoops.step {p : Progress} (h : p.WarnsOfLoops) (document : List Char)
    (token : Token) : (p.step document token).WarnsOfLoops := by
  have htext : (p.add (.text token.text)).WarnsOfLoops := by rwa [WarnsOfLoops, warnings_add]
  unfold Progress.step
  cases token.role with
  | text => exact htext
  | scalar name => rwa [WarnsOfLoops, warnings_add]
  | closer block => rwa [WarnsOfLoops, warnings_close]
  | otherwise =>
    dsimp only
    split
    · split
      · exact h
      · exact htext
    · exact htext
  | opener block arg =>
    dsimp only
    split
    · rw [WarnsOfLoops]
      simp only [Array.mem_push]
      rintro w (hw | rfl)
      · exact htext w hw
      · exact ⟨_, rfl⟩
    · exact h

theorem WarnsOfLoops.foldl_step {p : Progress} (h : p.WarnsOfLoops) (document : List Char)
    (ts : List Token) : (ts.foldl (Progress.step document) p).WarnsOfLoops := by
  induction ts generalizing p with
  | nil => exact h
  | cons t ts ih => exact ih (h.step document t)

end Progress

theorem Tree.eq_nestedLoopWarning_of_mem {document w : String}
    (h : w ∈ (Tree.ofDocument document).warnings) : ∃ tag, w = nestedLoopWarning tag := by
  have start : Progress.WarnsOfLoops {} := by simp [Progress.WarnsOfLoops]
  have hwarns := start.foldl_step document.toList (Token.scan document)
  simp only [Tree.ofDocument, Progress.finish, Progress.warnings_addAll, Array.mem_toList_iff] at h
  exact hwarns w h

namespace Renderer

variable (r : Renderer) (document : String)

/-- As long as nothing warns of the limit, another one that is not lower gives the same. -/
theorem render_of_le {limit : Int} (hle : r.maxBlocks ≤ limit)
    (hwithin : ∀ kind : Counted, kind.limitWarning r.maxBlocks ∉ (r.render document).warnings) :
    { r with maxBlocks := limit }.render document = r.render document := by
  have htree : Tree.ofDocument document = Tree.ofDocument document := rfl
  have hrender := r.render_of_ofDocument htree
  have hrender' := { r with maxBlocks := limit }.render_of_ofDocument htree
  have hstart : (r.meanings none (Tree.ofDocument document).nodes
      { warnings := (Tree.ofDocument document).warnings }).2.IsWithin r.maxBlocks := by
    rw [hrender] at hwithin
    exact ⟨hwithin .conditional, hwithin .loop⟩
  generalize Tree.ofDocument document = tree at *
  have follows := r.follows_meanings limit tree.nodes none
  have same := r.follows_meanings r.maxBlocks tree.nodes none
  have hroom : Tally.LeavesRoom r.maxBlocks limit { warnings := tree.warnings }
      { warnings := tree.warnings } := ⟨by simpa using hle, by simpa using hle⟩
  have hsame : Tally.LeavesRoom r.maxBlocks r.maxBlocks { warnings := tree.warnings }
      { warnings := tree.warnings } := .of_zero _
  rw [hrender, hrender', follows.text_eq hroom hstart, follows.warnings_eq hroom hstart,
    ← same.warnings_eq hsame hstart]

/-- The safety ceiling. No more blocks of a kind are expanded than the limit allows; there is a
warning of the limit, and then one, exactly where a block of the kind was written as its source; and
without such a warning every higher limit gives the same. -/
theorem render_ceiling :
    (∃! met, r.Meets [((Tree.ofDocument document).nodes, none)]
        { warnings := (Tree.ofDocument document).warnings.toArray } met
        (r.evaluate (Tree.ofDocument document)) ∧
      ∀ kind : Counted, (met.count ⟨kind, true⟩ : Int) ≤ max 0 r.maxBlocks ∧
        (r.render document).warnings.count (kind.limitWarning r.maxBlocks) =
          if ⟨kind, false⟩ ∈ met then 1 else 0) ∧
    ((∀ kind : Counted, kind.limitWarning r.maxBlocks ∉ (r.render document).warnings) →
      ∀ limit, r.maxBlocks ≤ limit →
        { r with maxBlocks := limit }.render document = r.render document) := by
  refine ⟨?_, fun hwithin limit hle => r.render_of_le document hle hwithin⟩
  obtain ⟨met, hmet⟩ := r.exists_meets [((Tree.ofDocument document).nodes, none)]
    { warnings := (Tree.ofDocument document).warnings.toArray }
  refine ⟨met, ⟨hmet, fun kind => ⟨?_, ?_⟩⟩, fun met' hmet' => hmet'.1.unique hmet⟩
  · have hcount := hmet.expansions_eq kind
    have hle := hmet.expansions_le (fun kind => by cases kind <;> exact Int.le_max_left 0 _) kind
    have hstart : ({ warnings := (Tree.ofDocument document).warnings.toArray } : Output).expansions
        kind = 0 := by cases kind <;> rfl
    omega
  · -- Reading the document has warned of nothing but loops inside loops.
    have hnone : (Tree.ofDocument document).warnings.count (kind.limitWarning r.maxBlocks) = 0 := by
      refine List.count_eq_zero.mpr fun hmem => ?_
      obtain ⟨tag, htag⟩ := Tree.eq_nestedLoopWarning_of_mem hmem
      exact kind.limitWarning_ne_nestedLoopWarning _ tag htag
    have hcount := hmet.count_warnings kind
    simp only [List.count_toArray, hnone, Nat.zero_max] at hcount
    rw [← hcount]
    exact Array.count_toList

/-- A conditional in a loop is expanded in each round, and counted each time. -/
theorem render_ceiling_rounds :
    let r : Renderer :=
      { vars := .ofList [("a", "1")]
        registry := .build [("hosts", [.joined "x", .joined "y"])] [] Arrays.hostSchema
        maxBlocks := 2 }
    let inner := "\x7b\x7b#if a\x7d\x7db\x7b\x7b/if\x7d\x7d"
    let document := "\x7b\x7b#each hosts\x7d\x7d" ++ inner ++ "\x7b\x7b/each\x7d\x7d"
    (∀ kind : Counted, kind.limitWarning r.maxBlocks ∉ (r.render document).warnings) ∧
      r.maxBlocks ≤ 1000 ∧
      { r with maxBlocks := 1000 }.render document = r.render document ∧
      { r with maxBlocks := 1 }.render document =
        ⟨"b" ++ inner, ["#if a", "/if"], [conditionalLimitWarning 1]⟩ := by
  intro r inner document
  have hwithin (kind : Counted) : kind.limitWarning r.maxBlocks ∉ (r.render document).warnings := by
    cases kind <;> decide +kernel
  have hle : r.maxBlocks ≤ 1000 := by decide
  exact ⟨hwithin, hle, (r.render_ceiling document).2 hwithin 1000 hle, by decide +kernel⟩

end Renderer

end MachineConfig.Template
