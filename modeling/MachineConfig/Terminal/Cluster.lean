import MachineConfig.Terminal.Width

/-!
Clusters: what a terminal shows as one character. Marks, joined characters and selectors go with
the character that they change, so a text is cut between clusters only.
-/

namespace MachineConfig.Terminal

/-- A character that takes cells with all that goes with it. At the start of a text it may lack that
character. -/
structure Cluster where
  text : List Char
  width : Nat

/-- Adds characters at the end. -/
def Cluster.push (g : Cluster) (cs : List Char) (width : Nat) : Cluster :=
  ⟨g.text ++ cs, g.width + width⟩

/-- The clusters of a text after the cluster `current`, to which its first characters may still
belong; `last` is the last character that took cells, unless it has become a picture. -/
def clustersAfter (current : Cluster) (last : Option Char) : List Char → List Cluster
  | [] => [current]
  | c :: cs =>
    if c = joiner then
      match cs with
      | d :: ds =>
        if current.text.isEmpty then clustersAfter (current.push [c] 0) last (d :: ds)
        else clustersAfter (current.push [c, d] 0) last ds
      | [] => [current.push [c] 0]
    else if c = pictureSelector then
      let added := pictureWidth last
      clustersAfter (current.push [c] added) (if added = 0 then last else none) cs
    else if cellWidth c = 0 then clustersAfter (current.push [c] 0) last cs
    else current :: clustersAfter ⟨[c], cellWidth c⟩ (some c) cs

/-- The clusters of a text; the first is empty if the text starts with a character that takes
cells. -/
def clusters (cs : List Char) : List Cluster := clustersAfter ⟨[], 0⟩ none cs

/-- As many clusters as fit into so many cells; half of a wide one is a blank. -/
def fitClusters (width : Nat) : List Cluster → List Char
  | [] => []
  | g :: gs =>
    if width = 0 then []
    else if g.width ≤ width then g.text ++ fitClusters (width - g.width) gs
    else blanks width

/-- The start of a text, cut to so many cells. -/
def cutTo (width : Nat) (cs : List Char) : List Char := fitClusters width (clusters cs)

end MachineConfig.Terminal
