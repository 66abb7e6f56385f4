import MachineConfig.Yaml.Token

/-!
Nodes of YAML: scalars, sequences and mappings, read from tokens. Each reader returns the tokens
that it leaves, with a proof that they are fewer. Where a node may be left out, an empty plain
scalar stands for it.
-/

namespace MachineConfig.Yaml

inductive Node where
  | scalar (text : String) (plain : Bool)
  | sequence (items : List Node)
  | mapping (entries : List (Node × Node))
  deriving Inhabited

namespace Node

/-- The node that stands where none is written. -/
def absent : Node := scalar "" true

/-- Tokens that are left of `n`. -/
abbrev Rest (n : Nat) := { ts : List Token // ts.length < n }

abbrev Parsed (α : Type) (n : Nat) := Except Flaw (α × Rest n)

/-- Tokens left of fewer are left of more. -/
def Rest.weaken {m n : Nat} (h : m ≤ n) (r : Rest m) : Rest n := ⟨r.1, Nat.lt_of_lt_of_le r.2 h⟩

/-- Where a node is read: at the start of a line's content, after a key, or in brackets. Only
after a key may a sequence stand that is indented no deeper. -/
inductive Place where
  | block
  | afterKey
  | flow
  deriving DecidableEq

/-- Why no node can be read from these tokens. -/
def refusal : List Token → Flaw
  | .flawed flaw :: _ => flaw
  | _ => .malformed

mutual

/-- Reads a node. -/
def read (place : Place) (ts : List Token) : Parsed Node ts.length :=
  match ts with
  | .scalar text plain :: ts => .ok (.scalar text plain, ⟨ts, by simp⟩)
  | .flowSequenceStart :: ts => do
    let (items, rest) ← readFlowItems true ts
    .ok (.sequence items, rest.weaken (by simp))
  | .flowMappingStart :: ts => do
    let (entries, rest) ← readFlowEntries true ts
    .ok (.mapping entries, rest.weaken (by simp))
  | .sequenceStart :: ts => do
    if place = .flow then throw .malformed
    let (items, rest) ← readItems ts
    .ok (.sequence items, rest.weaken (by simp))
  | .mappingStart :: ts => do
    if place = .flow then throw .malformed
    let (entries, rest) ← readEntries ts
    .ok (.mapping entries, rest.weaken (by simp))
  | .item :: ts => do
    if place ≠ .afterKey then throw .malformed
    let (first, rest) ← readUnless .block [.item, .key, .value, .blockEnd] ts
    have := rest.2
    let (items, rest') ← readLevelItems rest.1
    .ok (.sequence (first :: items), ⟨rest'.1, by have := rest'.2; simp; omega⟩)
  | ts => .error (refusal ts)
termination_by (ts.length, 0)

/-- Reads a node, unless one of the given tokens is next, or none is. -/
def readUnless (place : Place) (stops : List Token) (ts : List Token) :
    Parsed Node (ts.length + 1) :=
  match ts with
  | [] => .ok (absent, ⟨[], by simp⟩)
  | t :: ts =>
    if t ∈ stops then .ok (absent, ⟨t :: ts, by simp⟩)
    else do
      let (node, rest) ← read place (t :: ts)
      .ok (node, rest.weaken (by simp))
termination_by (ts.length, 1)

/-- Reads the items of a sequence up to its end. -/
def readItems (ts : List Token) : Parsed (List Node) ts.length :=
  match ts with
  | .blockEnd :: ts => .ok ([], ⟨ts, by simp⟩)
  | .item :: ts => do
    let (node, rest) ← readUnless .block [.item, .blockEnd] ts
    have := rest.2
    let (nodes, rest') ← readItems rest.1
    .ok (node :: nodes, ⟨rest'.1, by have := rest'.2; simp; omega⟩)
  | ts => .error (refusal ts)
termination_by (ts.length, 0)

/-- Reads the further items of a sequence that is indented like the key before it; what comes
after it ends it. -/
def readLevelItems (ts : List Token) : Parsed (List Node) (ts.length + 1) :=
  match ts with
  | .item :: ts => do
    let (node, rest) ← readUnless .block [.item, .key, .value, .blockEnd] ts
    have := rest.2
    let (nodes, rest') ← readLevelItems rest.1
    .ok (node :: nodes, ⟨rest'.1, by have := rest'.2; simp; omega⟩)
  | ts => .ok ([], ⟨ts, by simp⟩)
termination_by (ts.length, 0)

/-- Reads the entries of a mapping up to its end. -/
def readEntries (ts : List Token) : Parsed (List (Node × Node)) ts.length :=
  match ts with
  | .blockEnd :: ts => .ok ([], ⟨ts, by simp⟩)
  | .key :: ts => do
    let (key, rest) ← readUnless .afterKey [.key, .value, .blockEnd] ts
    have := rest.2
    let (value, rest') ← readValue .afterKey [.key, .value, .blockEnd] rest.1
    have := rest'.2
    let (entries, rest'') ← readEntries rest'.1
    .ok ((key, value) :: entries,
      ⟨rest''.1, by have := rest''.2; simp; omega⟩)
  | ts => .error (refusal ts)
termination_by (ts.length, 0)

/-- Reads a colon and the value after it; either may be missing. -/
def readValue (place : Place) (stops : List Token) (ts : List Token) :
    Parsed Node (ts.length + 1) :=
  match ts with
  | .value :: ts => do
    let (node, rest) ← readUnless place stops ts
    .ok (node, rest.weaken (by simp))
  | ts => .ok (absent, ⟨ts, by simp⟩)
termination_by (ts.length, 2)

/-- Reads the items in square brackets up to the closing one, with a comma between them. An item
with a colon is a mapping of one entry. -/
def readFlowItems (first : Bool) (ts : List Token) : Parsed (List Node) ts.length :=
  match ts with
  | .flowSequenceEnd :: ts => .ok ([], ⟨ts, by simp⟩)
  | .comma :: ts => do
    if first then throw .malformed
    let (items, rest) ← readFlowItem ts
    .ok (items, rest.weaken (by simp))
  | ts => if first then readFlowItem ts else .error (refusal ts)
termination_by (ts.length, 4)

/-- Reads an item in square brackets and what comes after it. -/
def readFlowItem (ts : List Token) : Parsed (List Node) ts.length :=
  match ts with
  | .flowSequenceEnd :: ts => .ok ([], ⟨ts, by simp⟩)
  | .key :: ts => do
    let (key, rest) ← readUnless .flow [.value, .comma, .flowSequenceEnd] ts
    have := rest.2
    let (value, rest') ← readValue .flow [.comma, .flowSequenceEnd] rest.1
    have := rest'.2
    let (items, rest'') ← readFlowItems false rest'.1
    .ok (.mapping [(key, value)] :: items,
      ⟨rest''.1, by have := rest''.2; simp; omega⟩)
  | ts => do
    let (item, rest) ← read .flow ts
    have := rest.2
    let (items, rest') ← readFlowItems false rest.1
    .ok (item :: items, ⟨rest'.1, by have := rest'.2; omega⟩)
termination_by (ts.length, 3)

/-- Reads the entries in braces up to the closing one, with a comma between them. -/
def readFlowEntries (first : Bool) (ts : List Token) : Parsed (List (Node × Node)) ts.length :=
  match ts with
  | .flowMappingEnd :: ts => .ok ([], ⟨ts, by simp⟩)
  | .comma :: ts => do
    if first then throw .malformed
    let (entries, rest) ← readFlowEntry ts
    .ok (entries, rest.weaken (by simp))
  | ts => if first then readFlowEntry ts else .error (refusal ts)
termination_by (ts.length, 4)

/-- Reads an entry in braces and what comes after it. A node without a colon is a key. -/
def readFlowEntry (ts : List Token) : Parsed (List (Node × Node)) ts.length :=
  match ts with
  | .flowMappingEnd :: ts => .ok ([], ⟨ts, by simp⟩)
  | .key :: ts => do
    let (key, rest) ← readUnless .flow [.value, .comma, .flowMappingEnd] ts
    have := rest.2
    let (value, rest') ← readValue .flow [.comma, .flowMappingEnd] rest.1
    have := rest'.2
    let (entries, rest'') ← readFlowEntries false rest'.1
    .ok ((key, value) :: entries,
      ⟨rest''.1, by have := rest''.2; simp; omega⟩)
  | ts => do
    let (key, rest) ← read .flow ts
    have := rest.2
    let (entries, rest') ← readFlowEntries false rest.1
    .ok ((key, absent) :: entries, ⟨rest'.1, by have := rest'.2; omega⟩)
termination_by (ts.length, 3)

end

/-- The node of the only document in a text; none if the text has no document. -/
def ofTokens (ts : List Token) : Except Flaw (Option Node) := do
  match ts with
  | [] => return none
  | _ =>
    let (node, rest) ← match ts with
      | .documentStart :: ts => do
        let (node, rest) ← readUnless .block [.documentStart, .documentEnd] ts
        pure (node, rest.1)
      | ts => do
        let (node, rest) ← read .block ts
        pure (node, rest.1)
    match rest.dropWhile (· = .documentEnd) with
    | [] => return some node
    | rest => throw (refusal rest)

end Node

end MachineConfig.Yaml
