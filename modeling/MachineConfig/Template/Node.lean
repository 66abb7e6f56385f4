import MachineConfig.Template.Token

/-!
Templates as trees. Every node but plain text keeps the stretch of the document that it was read
from, which stands in for it where it cannot be rendered.
-/

namespace MachineConfig.Template

inductive Node where
  | text (value : String)
  | scalar (name source : String)
  /-- `negate` holds for a block that renders its content where the condition fails. -/
  | conditional (condition : String) (negate : Bool) (whenTrue whenFalse : List Node)
    (source : String)
  | loop (array : String) (body : List Node) (source : String)
  deriving Inhabited

namespace Node

/-- The stretch of the document that a node was read from. -/
def verbatim : Node → String
  | text value => value
  | scalar _ source => source
  | conditional _ _ _ _ source => source
  | loop _ _ source => source

/-- The document that a list of nodes was read from. -/
def verbatims (nodes : List Node) : String := String.join (nodes.map verbatim)

end Node

end MachineConfig.Template
