/-!
Edit scripts: two lists as a sequence of stretches that they share and of changes between them.
The longest stretch is looked for first, then what lies before it and what lies after it are
compared in the same way. Of several longest stretches the first one in the old list counts, and
for it the first one in the new list. A stretch has to contain an item that is not common; common
are, in a new list of 200 items or more, those that occur in more than one place of a hundred.
-/

namespace MachineConfig.Text

inductive Segment (α : Type) where
  | same (items : List α)
  | change (removed added : List α)
  deriving DecidableEq, Inhabited

namespace Segment

variable {α : Type}

/-- The items of the old list in a segment. -/
def old : Segment α → List α
  | same items => items
  | change removed _ => removed

/-- The items of the new list in a segment. -/
def new : Segment α → List α
  | same items => items
  | change _ added => added

def isChange : Segment α → Bool
  | same _ => false
  | change _ _ => true

end Segment

section

variable {α : Type} [DecidableEq α]

/-- A stretch that two lists share: where it starts in each, and its length. -/
structure Stretch where
  oldStart : Nat := 0
  newStart : Nat := 0
  length : Nat := 0

/-- For each place of the new list how many items up to it and with it match the items up to
`x` and with it, given these numbers for the item before `x`. Common items never match. -/
def nextRow (x : α) (new : List (α × Bool)) (row : List Nat) : List Nat :=
  List.zipWith (fun y before => if y.1 = x ∧ ¬y.2 then before + 1 else 0) new (0 :: row)

/-- The better of a stretch and those that end at the item `i` of the old list and, one after
another, at the items `j` and further of the new one. -/
def bestInRow (i : Nat) (best : Stretch) (j : Nat) : List Nat → Stretch
  | [] => best
  | n :: ns =>
    bestInRow i (if best.length < n then ⟨i + 1 - n, j + 1 - n, n⟩ else best) (j + 1) ns

def bestFrom (new : List (α × Bool)) (i : Nat) (row : List Nat) (best : Stretch) :
    List α → Stretch
  | [] => best
  | x :: xs =>
    let row := nextRow x new row
    bestFrom new (i + 1) row (bestInRow i best 0 row) xs

/-- How many items two lists share at the start. -/
def sharedLength : List α → List α → Nat
  | x :: xs, y :: ys => if x = y then 1 + sharedLength xs ys else 0
  | _, _ => 0

/-- The longest shared stretch, lengthened by common items at both ends. -/
def longestStretch (old : List α) (new : List (α × Bool)) : Stretch :=
  let best := bestFrom new 0 (List.replicate new.length 0) {} old
  let items := new.map (·.1)
  let before := sharedLength (old.take best.oldStart).reverse (items.take best.newStart).reverse
  let after := sharedLength (old.drop (best.oldStart + best.length))
    (items.drop (best.newStart + best.length))
  ⟨best.oldStart - before, best.newStart - before, before + best.length + after⟩

/-- The segments of two lists, in the second of which common items are marked. -/
def segments (old : List α) (new : List (α × Bool)) : List (Segment α) :=
  match longestStretch old new with
  | ⟨i, j, n⟩ =>
    if _ : 0 < n ∧ i + n ≤ old.length then
      segments (old.take i) (new.take j) ++
        .same ((old.drop i).take n) :: segments (old.drop (i + n)) (new.drop (j + n))
    else [.change old (new.map (·.1))]
termination_by old.length
decreasing_by
  · simp only [List.length_take]; omega
  · simp only [List.length_drop]; omega

/-- Leaves out changes of nothing, and makes one stretch of two that meet. -/
def tidy : List (Segment α) → List (Segment α)
  | [] => []
  | .change removed added :: rest =>
    if removed.isEmpty && added.isEmpty then tidy rest
    else .change removed added :: tidy rest
  | .same items :: rest =>
    match tidy rest with
    | .same more :: rest => .same (items ++ more) :: rest
    | rest => .same items :: rest

/-- An item is common if it occurs often in a long list. -/
def isCommon (items : List α) (x : α) : Bool :=
  200 ≤ items.length && items.length / 100 + 1 < items.count x

/-- The edit script that leads from one list to another. -/
def script (old new : List α) : List (Segment α) :=
  tidy (segments old (new.map fun x => (x, isCommon new x)))

end

end MachineConfig.Text
