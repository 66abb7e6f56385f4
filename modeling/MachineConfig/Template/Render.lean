import MachineConfig.Template.Evaluate
import MachineConfig.Template.Tree

/-!
Rendering documents. Names without a value stay in the output as they are, and every tag that
is left there is reported.
-/

namespace MachineConfig.Template

/-- The inner texts of the tags in a text, without outer blanks, in order and each once. -/
def unresolvedTags (text : String) : List String :=
  Text.sortedSet <| (Piece.split text.toList).filterMap fun
    | .run _ => none
    | .tag inner => some (String.ofList (Text.trim inner))

/-- A rendered document. -/
structure Rendering where
  text : String
  unresolved : List String
  warnings : List String
  deriving DecidableEq, Inhabited

namespace Renderer

/-- Evaluates a whole tree. -/
def evaluate (r : Renderer) (tree : Tree) : Output :=
  r.run [(tree.nodes, none)] { warnings := tree.warnings.toArray }

def render (r : Renderer) (document : String) : Rendering :=
  let o := r.evaluate (Tree.ofDocument document)
  ⟨o.text, unresolvedTags o.text, o.warnings.toList⟩

end Renderer

end MachineConfig.Template
