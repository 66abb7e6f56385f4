import MachineConfig.Proofs.Template.Meaning
import MachineConfig.Proofs.Template.RoundTrip

/-!
Rendering printed forms. They render to what their nodes mean (`Renderer.render_prints`), and so an
unless block renders as an if block does that has the same body in its else branch
(`Renderer.render_unless`).
-/

namespace MachineConfig.Template.Renderer

variable (r : Renderer)

/-- What a printed template renders to is what its nodes mean. -/
theorem render_prints {fs : List Form} (h : Form.allWellFormed fs) :
    let result := r.meanings none (Form.nodes fs) { warnings := [] }
    r.render (Form.prints fs) = ⟨result.1, unresolvedTags result.1, result.2.warnings⟩ :=
  r.render_of_ofDocument (Tree.ofDocument_of_adds (Form.split_prints h) (Form.adds_nodes _ fs h))

section negation

variable {condition : String} {body : List Form}

/-- A negated conditional is the one with its branches exchanged, as long as there is room for one
more. -/
theorem meaning_negated (scope : Scope) {t : Tally} (h : t.conditionals < r.maxBlocks)
    (whenTrue whenFalse : List Node) (source source' : String) :
    r.meaning scope (.conditional condition true whenTrue whenFalse source) t =
      r.meaning scope (.conditional condition false whenFalse whenTrue source') t := by
  rw [meaning_conditional_of_lt r scope _ _ _ _ _ h, meaning_conditional_of_lt r scope _ _ _ _ _ h,
    branch, branch]
  cases conditionHolds r.vars condition <;> rfl

/-- An unless block renders its body as an if block does in the place of its else branch: to the
same text, with the same tags left and the same warnings. -/
theorem render_unless (hcondition : Form.isArgument condition) (hbody : Form.allWellFormed body)
    (hlimit : 1 ≤ r.maxBlocks) :
    r.render (Form.openTag .unlessBlock condition ++ Form.prints body ++
        Form.closeTag .unlessBlock) =
      r.render (Form.openTag .ifBlock condition ++ Form.tag "#else" ++ Form.prints body ++
        Form.closeTag .ifBlock) := by
  have hunless : Form.allWellFormed [.block .unlessBlock condition body] := by
    simp [Form.allWellFormed, Form.isWellFormed, hcondition, hbody]
  have hif : Form.allWellFormed [.ifElse condition [] body] := by
    simp [Form.allWellFormed, Form.isWellFormed, hcondition, hbody]
  have hroom : (({ warnings := [] } : Tally).conditionals : Int) < r.maxBlocks := hlimit
  -- The block comes first, so that the inner blocks meet the same counts in both.
  have hmeaning (source source' : String) :
      r.meanings none [.conditional condition true (Form.nodes body) [] source] { warnings := [] } =
        r.meanings none [.conditional condition false [] (Form.nodes body) source']
          { warnings := [] } := by
    simp only [meanings, Meaning.andThen, r.meaning_negated none hroom _ _ source source']
  have hprinted := r.render_prints hunless
  have hprinted' := r.render_prints hif
  simp only [Form.prints, Form.print, String.append_empty] at hprinted hprinted'
  rw [hprinted, hprinted']
  simp only [Form.nodes, Form.node, Form.blockNode,
    hmeaning _ (Form.ifElse condition [] body).print]

/-- A body with blocks of its own, of which only the first may be expanded after the outer one. -/
theorem render_unless_nested :
    let r : Renderer := { vars := .ofList [("os", "linux")], maxBlocks := 2 }
    let body : List Form :=
      [.block .ifBlock "os" [.scalar "os" true], .text "\x7d ", .block .unlessBlock "x" []]
    Form.isArgument "os != 'linux'" ∧ Form.allWellFormed body ∧ 1 ≤ r.maxBlocks ∧
      r.render (Form.openTag .unlessBlock "os != 'linux'" ++ Form.prints body ++
          Form.closeTag .unlessBlock) =
        r.render (Form.openTag .ifBlock "os != 'linux'" ++ Form.tag "#else" ++ Form.prints body ++
          Form.closeTag .ifBlock) := by
  intro r body
  have hcondition : Form.isArgument "os != 'linux'" := by decide
  have hbody : Form.allWellFormed body := by decide
  exact ⟨hcondition, hbody, by decide, r.render_unless hcondition hbody (by decide)⟩

end negation

end MachineConfig.Template.Renderer
