/-!
Searching and splitting texts. Occurrences are counted from the left, without overlaps.
-/

namespace MachineConfig.Text

/-- Counts occurrences of `word`, the next `skip` characters being part of one counted before. -/
def countFrom (word : List Char) : Nat → List Char → Nat
  | _, [] => 0
  | skip + 1, _ :: cs => countFrom word skip cs
  | 0, c :: cs =>
    if word.isPrefixOf (c :: cs) then 1 + countFrom word (word.length - 1) cs
    else countFrom word 0 cs

/-- How often the non-empty `word` occurs in a text. -/
def count (word : String) (cs : List Char) : Nat :=
  countFrom word.toList 0 cs

/-- `word` occurs in `s`. -/
def occursIn (word s : String) : Bool :=
  go s.toList
where
  go : List Char → Bool
    | [] => word.isEmpty
    | c :: cs => word.toList.isPrefixOf (c :: cs) || go cs

/-- The parts between the separators: one more than there are separators. -/
def splitChars (sep : Char) : List Char → List (List Char)
  | [] => [[]]
  | c :: cs =>
    match splitChars sep cs with
    | [] => [[c]]
    | part :: parts => if c = sep then [] :: part :: parts else (c :: part) :: parts

/-- `splitChars` on strings. -/
def splitAt (sep : Char) (s : String) : List String :=
  (splitChars sep s.toList).map String.ofList

end MachineConfig.Text
