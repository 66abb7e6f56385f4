import MachineConfig.Proofs.Template.PieceLemmas
import MachineConfig.Template.Node

/-!
Templates as their authors write them. A form is printed by `Form.print`, and `Form.node` is the
node that it stands for. A form is well formed if its texts cannot be taken for tags, nor its names
and arguments for anything else, and no loop stands in a loop.
-/

namespace MachineConfig.Template

inductive Form where
  | text (value : String)
  /-- `spaced` holds where blanks stand between the name and the braces. -/
  | scalar (name : String) (spaced : Bool)
  /-- A block without an else tag. -/
  | block (kind : Block) (arg : String) (body : List Form)
  | ifElse (condition : String) (whenTrue whenFalse : List Form)

namespace Form

def tag (inner : String) : String := "\x7b\x7b" ++ inner ++ "\x7d\x7d"

def openTag (kind : Block) (arg : String) : String := tag ("#" ++ kind.keyword ++ " " ++ arg)

def closeTag (kind : Block) : String := tag ("/" ++ kind.keyword)

mutual

def print : Form → String
  | text value => value
  | scalar name spaced => tag (if spaced then " " ++ name ++ " " else name)
  | block kind arg body => openTag kind arg ++ prints body ++ closeTag kind
  | ifElse condition whenTrue whenFalse =>
    openTag .ifBlock condition ++ prints whenTrue ++ tag "#else" ++ prints whenFalse ++
      closeTag .ifBlock

def prints : List Form → String
  | [] => ""
  | f :: fs => f.print ++ prints fs

end

/-- The node of a block, which only an if block may give a second branch. -/
def blockNode (kind : Block) (arg : String) (whenTrue whenFalse : List Node) (source : String) :
    Node :=
  match kind with
  | .ifBlock => .conditional arg false whenTrue whenFalse source
  | .unlessBlock => .conditional arg true whenTrue whenFalse source
  | .eachBlock => .loop arg whenTrue source

mutual

/-- The node of a form. What it keeps as its source is the printed form. -/
def node : Form → Node
  | text value => .text value
  | scalar name spaced => .scalar name (scalar name spaced).print
  | block kind arg body => blockNode kind arg (nodes body) [] (block kind arg body).print
  | ifElse condition whenTrue whenFalse =>
    blockNode .ifBlock condition (nodes whenTrue) (nodes whenFalse)
      (ifElse condition whenTrue whenFalse).print

def nodes : List Form → List Node
  | [] => []
  | f :: fs => f.node :: nodes fs

end

def isText : Form → Bool
  | text _ => true
  | _ => false

mutual

/-- A form is or holds a loop. -/
def hasLoop : Form → Bool
  | text _ | scalar .. => false
  | block kind _ body => kind = .eachBlock || anyHasLoop body
  | ifElse _ whenTrue whenFalse => anyHasLoop whenTrue || anyHasLoop whenFalse

def anyHasLoop : List Form → Bool
  | [] => false
  | f :: fs => f.hasLoop || anyHasLoop fs

end

/-- A condition or the name of an array: neither empty nor with blanks around it nor with a
brace. -/
def isArgument (arg : String) : Bool :=
  arg ≠ "" && arg.toList.all (!isBrace ·) && Text.trim arg.toList = arg.toList

mutual

def isWellFormed : Form → Bool
  | text value => value ≠ "" && !Piece.holdsTag value.toList
  | scalar name _ => isScalarName name.toList
  | block kind arg body =>
    isArgument arg && allWellFormed body && (kind ≠ .eachBlock || !anyHasLoop body)
  | ifElse condition whenTrue whenFalse =>
    isArgument condition && allWellFormed whenTrue && allWellFormed whenFalse

/-- All forms are well formed, and no two texts are next to each other. -/
def allWellFormed : List Form → Bool
  | [] => true
  | f :: fs => f.isWellFormed && allWellFormed fs && !(f.isText && (fs.head?.any isText))

end

end Form

end MachineConfig.Template
