/-!
Faults of markup: a style tag in a line may end a style that has not begun.
-/

namespace MachineConfig.Terminal

/-- Why a line cannot be shown. -/
inductive MarkupFault where
  /-- A tag ends a style that has not begun. -/
  | unmatched (tag : String) (position : Nat)
  /-- A tag ends the style that began last, and there is none. -/
  | nothingOpen (position : Nat)
  deriving DecidableEq, Repr

def MarkupFault.message : MarkupFault → String
  | unmatched tag position =>
    s!"closing tag '{tag}' at position {position} doesn't match any open tag"
  | nothingOpen position => s!"closing tag '[/]' at position {position} has nothing to close"

end MachineConfig.Terminal
