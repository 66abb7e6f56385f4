import MachineConfig.Template.Node

/-!
Reading a document as a tree. A closing tag closes the innermost open block of its kind; the
blocks above that one were never closed and become text again, as do closing tags with nothing to
close, stray else tags and loops inside a loop. So every document has a tree, and nothing of it
is lost.
-/

namespace MachineConfig.Template

/-- A block whose closing tag has not come yet. -/
structure OpenBlock where
  block : Block
  arg : String
  opener : Token
  children : Array Node := #[]
  /-- The else tag that was taken, with what came after it. -/
  otherwise : Option (Token × Array Node) := none

namespace OpenBlock

/-- Adds a node at the end of the part that is being read. -/
def add (b : OpenBlock) (node : Node) : OpenBlock :=
  match b.otherwise with
  | none => { b with children := b.children.push node }
  | some (tag, nodes) => { b with otherwise := some (tag, nodes.push node) }

/-- The block with its own tags taken as text. -/
def literal (b : OpenBlock) : List Node :=
  let rest := match b.otherwise with
    | none => []
    | some (tag, nodes) => .text tag.text :: nodes.toList
  .text b.opener.text :: b.children.toList ++ rest

/-- An else tag belongs to an if block that has none yet. -/
def takesElse (b : OpenBlock) : Bool := b.block = .ifBlock && b.otherwise.isNone

/-- The node of a block that ends with `closer`. -/
def close (b : OpenBlock) (closer : Token) (document : List Char) : Node :=
  let source := String.ofList
    ((document.drop b.opener.start).take (closer.stop - b.opener.start))
  let whenFalse := (b.otherwise.map (·.2.toList)).getD []
  match b.block with
  | .eachBlock => .loop b.arg b.children.toList source
  | .ifBlock => .conditional b.arg false b.children.toList whenFalse source
  | .unlessBlock => .conditional b.arg true b.children.toList whenFalse source

end OpenBlock

/-- The content of blocks that were never closed, the innermost first, as it stands in the
document. -/
def unwind (blocks : List OpenBlock) : List Node :=
  blocks.reverse.flatMap OpenBlock.literal

/-- A document read up to some token: the finished nodes, and the blocks open since, innermost
first. -/
structure Progress where
  nodes : Array Node := #[]
  blocks : List OpenBlock := []
  warnings : Array String := #[]

def nestedLoopWarning (tag : String) : String :=
  "nested \x7b\x7b#each\x7d\x7d is not supported: " ++ tag

namespace Progress

def add (p : Progress) (node : Node) : Progress :=
  match p.blocks with
  | [] => { p with nodes := p.nodes.push node }
  | b :: bs => { p with blocks := b.add node :: bs }

def addAll (p : Progress) (nodes : List Node) : Progress := nodes.foldl add p

def inLoop (p : Progress) : Bool := p.blocks.any (·.block = .eachBlock)

/-- Closes the innermost open block of a kind; without one the tag is text. -/
def close (p : Progress) (block : Block) (closer : Token) (document : List Char) : Progress :=
  match p.blocks.span (·.block ≠ block) with
  | (_, []) => p.add (.text closer.text)
  | (unclosed, b :: bs) =>
    let b := (unwind unclosed).foldl OpenBlock.add b
    Progress.add { p with blocks := bs } (b.close closer document)

/-- Reads the next token of the document. -/
def step (document : List Char) (p : Progress) (token : Token) : Progress :=
  match token.role with
  | .text => p.add (.text token.text)
  | .scalar name => p.add (.scalar name token.text)
  | .opener block arg =>
    if block = .eachBlock ∧ p.inLoop then
      let p := p.add (.text token.text)
      { p with warnings := p.warnings.push (nestedLoopWarning token.text) }
    else { p with blocks := { block, arg, opener := token } :: p.blocks }
  | .otherwise =>
    match p.blocks with
    | b :: bs =>
      if b.takesElse then { p with blocks := { b with otherwise := some (token, #[]) } :: bs }
      else p.add (.text token.text)
    | [] => p.add (.text token.text)
  | .closer block => p.close block token document

/-- Turns the blocks that are still open into text. -/
def finish (p : Progress) : Progress :=
  Progress.addAll { p with blocks := [] } (unwind p.blocks)

end Progress

/-- A document as a tree, and the tags that it cannot take as what they look like. -/
structure Tree where
  nodes : List Node
  warnings : List String
  deriving Inhabited

def Tree.ofDocument (document : String) : Tree :=
  let p := ((Token.scan document).foldl (Progress.step document.toList) {}).finish
  ⟨p.nodes.toList, p.warnings.toList⟩

end MachineConfig.Template
