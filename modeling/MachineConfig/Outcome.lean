import MachineConfig.Event
import MachineConfig.Store.Basic

/-!
Outcomes: what came of something that was tried on a file tree. The tree may have changed, and
something may have been told, even if there is no result.
-/

namespace MachineConfig

structure Outcome (α : Type) where
  result : Except Failure α
  events : List Event := []
  store : Store

namespace Outcome

variable {α β : Type}

def map (f : α → β) (o : Outcome α) : Outcome β := { o with result := o.result.map f }

/-- Goes on with the result, if there is one, on the tree as it is then. -/
def andThen (o : Outcome α) (next : α → Store → Outcome β) : Outcome β :=
  match o.result with
  | .error cause => { o with result := .error cause }
  | .ok a =>
    let more := next a o.store
    { more with events := o.events ++ more.events }

end Outcome

end MachineConfig
