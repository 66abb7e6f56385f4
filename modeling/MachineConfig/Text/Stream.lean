import MachineConfig.Text.Utf8

/-!
Reading a text from the start of a file, some of its bytes at a time. What is read of a file that
is not well-formed ends before the chunk that shows it, so how large the chunks are can be told
from the outside.
-/

namespace MachineConfig.Text

/-- What earlier chunks leave open: a character that has begun, and a carriage return that a line
feed may follow. -/
structure Decoder where
  pending : Option Pending := none
  held : Bool := false

/-- The characters of a chunk and what it leaves open; none if a byte does not fit. -/
def decodeChunk? (pending : Option Pending) : List UInt8 → Option (List Char × Option Pending)
  | [] => some ([], pending)
  | b :: bs =>
    match pending.elim (startSequence? b) (·.extend? b) with
    | none => none
    | some (.inl c) => (decodeChunk? none bs).map fun (cs, p) => (c :: cs, p)
    | some (.inr p) => decodeChunk? (some p) bs

/-- The characters that a chunk gives, their line ends unified. -/
def Decoder.decode? (d : Decoder) (chunk : List UInt8) : Option (List Char × Decoder) := do
  let (cs, pending) ← decodeChunk? d.pending chunk
  if cs.isEmpty then return ([], { d with pending })
  let cs := if d.held then '\r' :: cs else cs
  if cs.getLast? = some '\r' then return (unifyNewlines cs.dropLast, ⟨pending, true⟩)
  return (unifyNewlines cs, ⟨pending, false⟩)

/-- The characters that are left over at the end of a file. -/
def Decoder.finish? (d : Decoder) : Option (List Char) :=
  if d.pending.isSome then none else some (if d.held then ['\n'] else [])

/-- The least number of bytes in a chunk that is not the last. -/
def leastChunk : Nat := 8192

/-- A text as far as it can be read. -/
structure Prefix where
  text : List Char
  /-- The text is that of the whole file. -/
  isWhole : Bool

/-- Reads on after `count` characters. Characters are asked for up to the next multiple of `block`,
and at the rate of the chunk before, of `bytes` bytes and `chars` characters, a chunk holds as
many. -/
def readChunks (block : Nat) (d : Decoder) (count bytes chars : Nat) (rest : List UInt8) :
    Prefix :=
  match _h : rest with
  | [] =>
    match d.finish? with
    | some cs => ⟨cs, true⟩
    | none => ⟨[], false⟩
  | b :: bs =>
    let size := max leastChunk (bytes * (block - count % block) / chars)
    let chunk := (b :: bs).take size
    match d.decode? chunk with
    | none => ⟨[], false⟩
    | some (cs, d) =>
      let more := readChunks block d (count + cs.length) chunk.length cs.length
        ((b :: bs).drop size)
      { more with text := cs ++ more.text }
termination_by rest.length
decreasing_by
  have : leastChunk ≤ max leastChunk (bytes * (block - count % block) / chars) :=
    Nat.le_max_left ..
  simp only [List.length_drop, List.length_cons, leastChunk] at *
  omega

/-- The text of a file that is read in blocks of `block` characters. -/
def Prefix.ofBytes (block : Nat) (content : ByteArray) : Prefix :=
  let read := readChunks block {} 0 0 0 content.toList
  { read with text := ofChars read.text }

end MachineConfig.Text
