import MachineConfig.Yaml.Resolve

/-!
Values of YAML documents. The key `<<` stands for the entries of the mapping, or of the mappings,
that it is given; a mapping's own entries are laid over them. Of several flaws the one that lies
in the fewest collections counts, of equals the first; in a mapping, `<<` is looked at first.
-/

namespace MachineConfig.Yaml

/-- A flaw, and the number of collections that it lies in. -/
structure Fault where
  depth : Nat
  flaw : Flaw

/-- Two readings put together; the shallower fault counts, of equals the first. -/
def Fault.join {α : Type} : Except Fault (List α) → Except Fault (List α) →
    Except Fault (List α)
  | .ok as, .ok bs => .ok (as ++ bs)
  | .ok _, .error e => .error e
  | .error e, .ok _ => .error e
  | .error e, .error e' => .error (if e'.depth < e.depth then e' else e)

namespace Node

/-- The plain scalar with this text. -/
def isPlain (text : String) : Node → Bool
  | .scalar s true => s == text
  | _ => false

/-- The value of a key; a collection is none. -/
def keyValue : Node → Except Flaw Value
  | .scalar text plain => if plain ∧ text ≠ "=" then plainValue text else .ok (.string text)
  | _ => .error .malformed

mutual

/-- Every `<<` in these entries has a mapping or a sequence of mappings. -/
def mergesMappings : List (Node × Node) → Bool
  | [] => true
  | (key, content) :: es => (!key.isPlain "<<" || isMergeable content) && mergesMappings es

def isMergeable : Node → Bool
  | .scalar .. => false
  | .sequence items => areMergeable items
  | .mapping entries => mergesMappings entries

def areMergeable : List Node → Bool
  | [] => true
  | .mapping entries :: ns => mergesMappings entries && areMergeable ns
  | _ :: _ => false

end

mutual

/-- The value of a node that lies in `depth` collections. -/
def value (depth : Nat) : Node → Except Fault Value
  | .scalar text plain =>
    if plain then (plainValue text).mapError (⟨depth, ·⟩) else .ok (.string text)
  | .sequence items => (values (depth + 1) items).map .list
  | .mapping entries =>
    if mergesMappings entries then
      (Fault.join (merged (depth + 1) entries) (own (depth + 1) entries)).map .mapOf
    else .error ⟨depth + 1, .malformed⟩

def values (depth : Nat) : List Node → Except Fault (List Value)
  | [] => .ok []
  | n :: ns => Fault.join ((n.value depth).map ([·])) (values depth ns)

/-- The entries that a mapping has besides those of `<<`. -/
def own (depth : Nat) : List (Node × Node) → Except Fault (List (Value × Value))
  | [] => .ok []
  | (key, content) :: es =>
    if key.isPlain "<<" then own depth es
    else match key.keyValue with
      | .ok k => Fault.join ((content.value depth).map fun v => [(k, v)]) (own depth es)
      | .error flaw => .error ⟨depth, flaw⟩

/-- The entries that `<<` stands for in a mapping. -/
def merged (depth : Nat) : List (Node × Node) → Except Fault (List (Value × Value))
  | [] => .ok []
  | (key, content) :: es =>
    if key.isPlain "<<" then Fault.join (content.spread depth) (merged depth es)
    else merged depth es

/-- The entries that a content of `<<` stands for. -/
def spread (depth : Nat) : Node → Except Fault (List (Value × Value))
  | .scalar .. => .ok []
  | .sequence items => spreadAll depth items
  | .mapping entries => Fault.join (merged depth entries) (own depth entries)

/-- The first of several mappings counts most, so it comes last. -/
def spreadAll (depth : Nat) : List Node → Except Fault (List (Value × Value))
  | [] => .ok []
  | n :: ns => Fault.join (spreadAll depth ns) (n.spread depth)

end

end Node

/-- The value of the document in a file, null if there is none. -/
def load (content : ByteArray) : Except Flaw Value := do
  match ← Node.ofTokens (Token.scan (.ofBytes content)) with
  | some node => (node.value 0).mapError (·.flaw)
  | none => return .null

end MachineConfig.Yaml
