import MachineConfig.Text.Blank
import MachineConfig.Text.Search

/-!
Tags and tokens. A tag is `{{`, a text without braces, and `}}`. A document is cut at
its tags; each tag is then read as a directive, and one that is none counts as text.
-/

namespace MachineConfig.Template

/-- The kinds of blocks. -/
inductive Block where
  | ifBlock
  | unlessBlock
  | eachBlock
  deriving DecidableEq, Repr

def Block.keyword : Block → String
  | ifBlock => "if"
  | unlessBlock => "unless"
  | eachBlock => "each"

/-- What a piece of a document asks for. -/
inductive Role where
  | text
  | scalar (name : String)
  | opener (block : Block) (arg : String)
  | otherwise
  | closer (block : Block)
  deriving DecidableEq, Repr

def isBrace (c : Char) : Bool := c == '{' || c == '}'

/-- The inner text of the tag that a text starts with. -/
def leadingTag? : List Char → Option (List Char)
  | '{' :: '{' :: cs =>
    match cs.span (!isBrace ·) with
    | (inner, '}' :: '}' :: _) => some inner
    | _ => none
  | _ => none

/-- A tag, by its inner text, or a run of characters outside tags. -/
inductive Piece where
  | run (cs : List Char)
  | tag (inner : List Char)
  deriving DecidableEq, Repr

namespace Piece

def chars : Piece → List Char
  | run cs => cs
  | tag inner => '{' :: '{' :: inner ++ ['}', '}']

/-- Puts a character in front, into the run that comes first. -/
def consRun (c : Char) : List Piece → List Piece
  | run cs :: ps => run (c :: cs) :: ps
  | ps => run [c] :: ps

/-- Cuts a document at its tags; the next `skip` characters are the rest of one. -/
def splitFrom : Nat → List Char → List Piece
  | _, [] => []
  | skip + 1, _ :: cs => splitFrom skip cs
  | 0, c :: cs =>
    match leadingTag? (c :: cs) with
    | some inner => tag inner :: splitFrom (inner.length + 3) cs
    | none => consRun c (splitFrom 0 cs)

def split (document : List Char) : List Piece := splitFrom 0 document

end Piece

/-- `A` to `Z`, `a` to `z` and the underscore. -/
def isNameStart (c : Char) : Bool := c.isAlpha || c == '_'

/-- The characters of the names that conditions compare. -/
def isWordChar (c : Char) : Bool := isNameStart c || c.isDigit

/-- The further characters of a scalar's name. -/
def isNameChar (c : Char) : Bool := isWordChar c || c == '.' || c == '-'

/-- The names of scalars: those of loop variables may start with `@`. -/
def isScalarName (cs : List Char) : Bool :=
  match (match cs with | '@' :: rest => rest | _ => cs) with
  | [] => false
  | c :: rest => isNameStart c && rest.all isNameChar

/-- The argument of an opening tag, `cs` being its inner text after `#`: the keyword, a blank and
something that is not blank. -/
def openerArg? (block : Block) (cs : List Char) : Option String :=
  let keyword := block.keyword.toList
  if keyword.isPrefixOf cs then
    match cs.drop keyword.length with
    | c :: rest =>
      let arg := Text.trim rest
      if Text.isBlank c && !arg.isEmpty then some (String.ofList arg) else none
    | [] => none
  else none

def blocks : List Block := [.ifBlock, .unlessBlock, .eachBlock]

/-- The block that a tag opens: no blank may stand before the `#`. -/
def openerOf? (inner : List Char) : Option Role :=
  match inner with
  | '#' :: cs => blocks.findSome? fun b => (openerArg? b cs).map (Role.opener b)
  | _ => none

/-- The block that a tag closes: it holds nothing but a slash and the keyword. -/
def closerOf? (inner : List Char) : Option Role :=
  (blocks.find? fun b => inner = '/' :: b.keyword.toList).map .closer

/-- How the inner text of a tag reads. -/
def Role.ofInner (inner : List Char) : Role :=
  match openerOf? inner <|> closerOf? inner with
  | some role => role
  | none =>
    let name := Text.trim inner
    if name = "#else".toList then .otherwise
    else if isScalarName name then .scalar (String.ofList name)
    else .text

def Role.ofPiece : Piece → Role
  | .run _ => .text
  | .tag inner => .ofInner inner

/-- A stretch of a document, from the character at `start` up to the one at `stop`. -/
structure Token where
  role : Role
  text : String
  start : Nat
  stop : Nat
  deriving DecidableEq, Repr

namespace Token

/-- The tokens of consecutive pieces, the first of which starts at `start`. -/
def ofPieces (start : Nat) : List Piece → List Token
  | [] => []
  | p :: ps =>
    let stop := start + p.chars.length
    ⟨.ofPiece p, String.ofList p.chars, start, stop⟩ :: ofPieces stop ps

def scan (document : String) : List Token :=
  ofPieces 0 (Piece.split document.toList)

end Token

end MachineConfig.Template
