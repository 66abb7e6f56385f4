import MachineConfig.Yaml.Scalar.Block
import MachineConfig.Yaml.Scalar.Quoted
import MachineConfig.Yaml.Source

/-!
Tokens of YAML. Blocks have no brackets of their own: they begin where a line is indented deeper
and end where it is less, so the scanner keeps the open indentations. A key shows as one only at
the colon after it, so the scanner also keeps the places where one may have begun. Where no token
can be read the tokens before it still stand, as far as no key can come before them any more, and
the flaw follows them.
-/

namespace MachineConfig.Yaml

inductive Token where
  | documentStart
  | documentEnd
  | sequenceStart
  | mappingStart
  | blockEnd
  | flowSequenceStart
  | flowSequenceEnd
  | flowMappingStart
  | flowMappingEnd
  /-- `-` before an item of a sequence. -/
  | item
  /-- `,` between the members of a bracket. -/
  | comma
  | key
  | value
  | scalar (text : String) (plain : Bool)
  /-- No token can be read here. -/
  | flawed (flaw : Flaw)
  deriving DecidableEq, Repr

/-- A place where a key may have begun: the number of tokens before it, and where it stands. In a
block a key may have to be there for the indentation to make sense. -/
structure PossibleKey where
  tokens : Nat
  required : Bool
  index : Nat
  line : Nat
  column : Nat

/-- The state of scanning. `keys` has the possible key of every bracket that is open, innermost
first, and last that of the block around them. -/
structure Scanner where
  cursor : Cursor
  tokens : Array Token := #[]
  /-- The indentation of the block around, none at the top of a document. -/
  indent : Option Nat := none
  /-- The indentations around that block. -/
  outer : List (Option Nat) := []
  /-- A key may begin here. -/
  keyAllowed : Bool := true
  keys : List (Option PossibleKey) := [none]

namespace Scanner

def inFlow (s : Scanner) : Bool := 1 < s.keys.length

def emit (s : Scanner) (t : Token) : Scanner := { s with tokens := s.tokens.push t }

def skip (s : Scanner) (n : Nat) : Scanner := { s with cursor := s.cursor.advance n }

/-- The indentation is deeper than that of the block around. -/
def isDeeper (s : Scanner) (column : Nat) : Bool := s.indent.all (· < column)

/-- Ends the blocks that are indented deeper than `column`, all of them if it is none. -/
def closeBlocks (column : Option Nat) (s : Scanner) : Scanner :=
  if s.inFlow then s else go s.indent s.outer s.tokens
where
  go (indent : Option Nat) (outer : List (Option Nat)) (tokens : Array Token) : Scanner :=
    match indent, outer with
    | some n, around :: outer =>
      if column.all (· < n) then go around outer (tokens.push .blockEnd)
      else { s with indent := some n, outer := around :: outer, tokens }
    | indent, outer => { s with indent, outer, tokens }
  termination_by outer.length

/-- Opens a block at a column that is deeper than the block around. -/
def openBlock (s : Scanner) (column : Nat) : Scanner :=
  { s with indent := some column, outer := s.indent :: s.outer }

/-- Gives up a possible key. A required key may not be given up. -/
def abandon : Option PossibleKey → Except Flaw Unit
  | some k => if k.required then .error .malformed else .ok ()
  | none => .ok ()

/-- A key stands on one line and has at most 1024 characters. -/
def isStale (c : Cursor) (k : PossibleKey) : Bool :=
  k.line ≠ c.line || 1024 < c.index - k.index

/-- Gives up the possible keys whose colon can no longer come. -/
def dropStaleKeys (s : Scanner) : Except Flaw Scanner := do
  let keys ← s.keys.mapM fun
    | some k => do
      if isStale s.cursor k then
        abandon (some k)
        return none
      return some k
    | none => return none
  return { s with keys }

/-- Gives up the possible key of the bracket or block that is read. -/
def abandonKey (s : Scanner) : Except Flaw Scanner := do
  abandon (s.keys.head?.join)
  return { s with keys := none :: s.keys.drop 1 }

/-- Notes that a key may begin here, if one may. -/
def noteKey (s : Scanner) : Except Flaw Scanner := do
  if s.keyAllowed then
    let s ← s.abandonKey
    let c := s.cursor
    let required := !s.inFlow && s.indent = some c.column
    let key := { tokens := s.tokens.size, required, index := c.index, line := c.line,
                 column := c.column }
    return { s with keys := some key :: s.keys.drop 1 }
  else return s

/-- Reads `---` or `...`. -/
def readMark (s : Scanner) (t : Token) : Except Flaw Scanner := do
  let s ← (s.closeBlocks none).abandonKey
  return ({ s with keyAllowed := false }.skip 3).emit t

/-- Reads an opening bracket. -/
def readOpening (s : Scanner) (t : Token) : Except Flaw Scanner := do
  let s ← s.noteKey
  return ({ s with keys := none :: s.keys, keyAllowed := true }.skip 1).emit t

/-- Reads a closing bracket, which needs an opening one. -/
def readClosing (s : Scanner) (t : Token) : Except Flaw Scanner := do
  if !s.inFlow then throw .malformed
  let s ← s.abandonKey
  return ({ s with keys := s.keys.drop 1, keyAllowed := false }.skip 1).emit t

def readComma (s : Scanner) : Except Flaw Scanner := do
  let s ← s.abandonKey
  return ({ s with keyAllowed := true }.skip 1).emit .comma

/-- Opens a block at the cursor if it is deeper than the one around. -/
def openHere (s : Scanner) (t : Token) : Except Flaw Scanner := do
  if s.inFlow then return s
  if !s.keyAllowed then throw .malformed
  let column := s.cursor.column
  return if s.isDeeper column then (s.openBlock column).emit t else s

/-- Reads the dash of an item. -/
def readItem (s : Scanner) : Except Flaw Scanner := do
  let s ← s.openHere .sequenceStart
  let s ← s.abandonKey
  return ({ s with keyAllowed := true }.skip 1).emit .item

/-- Reads the question mark of a key. -/
def readKeyMark (s : Scanner) : Except Flaw Scanner := do
  let s ← s.openHere .mappingStart
  let s ← { s with keyAllowed := !s.inFlow }.abandonKey
  return (s.skip 1).emit .key

/-- Reads the colon of a value. A key noted before it becomes one, and opens a mapping if it is
indented deeper than the block around. -/
def readColon (s : Scanner) : Except Flaw Scanner := do
  match s.keys.head?.join with
  | some k =>
    let opens := !s.inFlow && s.isDeeper k.column
    let tokens := s.tokens.insertIdxIfInBounds k.tokens .key
    let s := { s with keys := none :: s.keys.drop 1, keyAllowed := false, tokens }
    let s := if opens then
        { s.openBlock k.column with tokens := tokens.insertIdxIfInBounds k.tokens .mappingStart }
      else s
    return (s.skip 1).emit .value
  | none =>
    let s ← s.openHere .mappingStart
    let s ← { s with keyAllowed := !s.inFlow }.abandonKey
    return (s.skip 1).emit .value

def readBlockScalar (s : Scanner) (fold : Bool) : Except Flaw Scanner := do
  let s ← { s with keyAllowed := true }.abandonKey
  let (text, rest) ← Scalar.readBlock fold s.indent (s.cursor.rest.drop 1)
  return (s.skip (s.cursor.rest.length - rest.length)).emit (.scalar (String.ofList text) false)

def readQuotedScalar (s : Scanner) (quote : Char) : Except Flaw Scanner := do
  let s ← s.noteKey
  let (text, n) ← Scalar.readQuoted quote (s.cursor.rest.drop 1)
  return ({ s with keyAllowed := false }.skip (n + 1)).emit (.scalar (String.ofList text) false)

def readPlainScalar (s : Scanner) : Except Flaw Scanner := do
  let s ← s.noteKey
  let indent := (s.indent.map (· + 1)).getD 0
  let scalar := Scalar.readPlain s.inFlow indent s.cursor
  return { s with keyAllowed := scalar.crossed, cursor := scalar.stop }.emit
    (.scalar (String.ofList scalar.text) true)

/-- Reads the token at the cursor. Anchors, aliases, tags and directives are refused. -/
def readToken (s : Scanner) (c : Char) (cs : List Char) : Except Flaw Scanner :=
  let standsAlone := endsWord cs
  if s.cursor.column = 0 ∧ atDocumentMark (c :: cs) then
    s.readMark (if c = '-' then .documentStart else .documentEnd)
  else if c = '[' then s.readOpening .flowSequenceStart
  else if c = '{' then s.readOpening .flowMappingStart
  else if c = ']' then s.readClosing .flowSequenceEnd
  else if c = '}' then s.readClosing .flowMappingEnd
  else if c = ',' then s.readComma
  else if c = '-' ∧ standsAlone then s.readItem
  else if c = '?' ∧ (s.inFlow ∨ standsAlone) then s.readKeyMark
  else if c = ':' ∧ (s.inFlow ∨ standsAlone) then s.readColon
  else if (c = '|' ∨ c = '>') ∧ ¬s.inFlow then s.readBlockScalar (c = '>')
  else if c = '\'' ∨ c = '"' then s.readQuotedScalar c
  else if Scalar.startsPlain s.inFlow (c :: cs) then s.readPlainScalar
  else .error .malformed

/-- The scanner at the next token. -/
def skipFiller (s : Scanner) : Except Flaw Scanner := do
  let s ← s.dropStaleKeys
  let cursor := s.cursor.skipFiller
  let crossed := !s.inFlow && cursor.line ≠ s.cursor.line
  { s with cursor, keyAllowed := s.keyAllowed || crossed }.dropStaleKeys

/-- No key can come before these tokens any more. -/
def settled (s : Scanner) : List Token :=
  let awaited := s.keys.filterMap fun key =>
    key.bind fun k => if isStale s.cursor k && !k.required then none else some k.tokens
  s.tokens.toList.take (awaited.foldl min s.tokens.size)

/-- What is read, if a flaw comes next; a text that ends too early may have been stopped. -/
def fail (stop : Option Flaw) (s : Scanner) (flaw : Flaw) : List Token :=
  s.settled ++ [.flawed (if flaw = .unfinished then stop.getD flaw else flaw)]

/-- Reads the tokens up to the end of the text, or up to where it is stopped. Every token takes a
character at least. -/
def readAll (stop : Option Flaw) (s : Scanner) : List Token :=
  match s.skipFiller with
  | .error flaw => s.fail stop flaw
  | .ok t =>
    match t.cursor.rest with
    | [] =>
      match stop, (t.closeBlocks none).abandonKey with
      | some flaw, _ | none, .error flaw => s.fail stop flaw
      | none, .ok t => t.tokens.toList
    | c :: cs =>
      match (t.closeBlocks (some t.cursor.column)).readToken c cs with
      | .error flaw => s.fail stop flaw
      | .ok next =>
        if _ : next.cursor.rest.length < s.cursor.rest.length then
          match next.cursor.rest, stop with
          | [], some flaw => s.fail stop flaw
          | _, _ => readAll stop next
        else s.fail stop .malformed
termination_by s.cursor.rest.length

end Scanner

/-- The tokens of a source. -/
def Token.scan (source : Source) : List Token :=
  Scanner.readAll source.stop { cursor := { rest := source.text } }

end MachineConfig.Yaml
