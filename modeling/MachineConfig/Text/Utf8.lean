import MachineConfig.Text.CodePoint
import MachineConfig.Text.Lines

/-!
Decoding UTF-8. A template or variables file must be well formed; a generated file that is only
compared may hold anything, and each ill-formed stretch in it counts as one replacement
character.
-/

namespace MachineConfig.Text

/-- What a lead byte asks of the bytes after it: how many there are, the range of the first of
them, and the bits that the lead byte holds itself. -/
structure Lead where
  tail : Nat
  low : UInt8
  high : UInt8
  bits : Nat

def Lead.ofByte? (b : UInt8) : Option Lead :=
  if b < 0x80 then some ⟨0, 0x80, 0xBF, b.toNat⟩
  else if 0xC2 ≤ b && b ≤ 0xDF then some ⟨1, 0x80, 0xBF, b.toNat % 0x20⟩
  else if 0xE0 ≤ b && b ≤ 0xEF then
    some ⟨2, if b = 0xE0 then 0xA0 else 0x80, if b = 0xED then 0x9F else 0xBF, b.toNat % 0x10⟩
  else if 0xF0 ≤ b && b ≤ 0xF4 then
    some ⟨3, if b = 0xF0 then 0x90 else 0x80, if b = 0xF4 then 0x8F else 0xBF, b.toNat % 0x08⟩
  else none

/-- The bytes of a sequence that has begun, as long as they fit: how many more belong to it, the
code point so far. -/
structure Pending where
  missing : Nat
  low : UInt8
  high : UInt8
  code : Nat

/-- The character that a byte is by itself, or the sequence that it starts; none if it can do
neither. -/
def startSequence? (b : UInt8) : Option (Char ⊕ Pending) :=
  (Lead.ofByte? b).map fun
    | ⟨0, _, _, bits⟩ => .inl (Char.ofNat bits)
    | ⟨n, low, high, bits⟩ => .inr ⟨n, low, high, bits⟩

/-- The character that a byte completes, or the longer sequence; none if the byte does not fit. -/
def Pending.extend? (p : Pending) (b : UInt8) : Option (Char ⊕ Pending) :=
  if p.low ≤ b && b ≤ p.high then
    let code := p.code * 0x40 + b.toNat % 0x40
    some (if p.missing = 1 then .inl (Char.ofNat code)
      else .inr ⟨p.missing - 1, 0x80, 0xBF, code⟩)
  else none

/-- Reads one byte: the characters that it settles and the sequence that it leaves open. The
longest start of a sequence that cannot be completed, and a byte that can start none, each count
as one replacement character. -/
def decodeByte (pending : Option Pending) (b : UInt8) : List Char × Option Pending :=
  match pending with
  | none => startAt []
  | some p =>
    match p.extend? b with
    | some (.inl c) => ([c], none)
    | some (.inr p) => ([], some p)
    | none => startAt ['\uFFFD']
where
  startAt (broken : List Char) : List Char × Option Pending :=
    match startSequence? b with
    | some (.inl c) => (broken ++ [c], none)
    | some (.inr p) => (broken, some p)
    | none => (broken ++ ['\uFFFD'], none)

def decodeFrom (pending : Option Pending) : List UInt8 → List Char
  | [] => if pending.isSome then ['\uFFFD'] else []
  | b :: bs =>
    let (settled, pending) := decodeByte pending b
    settled ++ decodeFrom pending bs

/-- The characters of any bytes. -/
def decodeLossy (bytes : ByteArray) : List Char :=
  decodeFrom none bytes.toList

/-- The text of well-formed bytes. -/
def decode? (bytes : ByteArray) : Option String :=
  (String.fromUTF8? bytes).map ofString

/-- The text of a well-formed file, its line ends unified. -/
def readText? (bytes : ByteArray) : Option String :=
  (decode? bytes).map fun s => String.ofList (unifyNewlines s.toList)

/-- The text of any file, its line ends unified. -/
def readLossy (bytes : ByteArray) : List Char :=
  unifyNewlines (ofChars (decodeLossy bytes))

end MachineConfig.Text
