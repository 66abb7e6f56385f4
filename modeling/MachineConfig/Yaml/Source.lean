import MachineConfig.Text.Stream
import MachineConfig.Yaml.Cursor

/-!
What is read of a file: its characters up to the first block that cannot be read. The first two
blocks are read before anything is made of them, and each later one only when it is needed, so a
flaw of the text before it counts first.
-/

namespace MachineConfig.Yaml

/-- Characters, and why there are no more of them if the text goes on. -/
structure Source where
  text : List Char
  stop : Option Flaw := none

namespace Source

/-- How many characters are read at a time. -/
def blockSize : Nat := 4096

/-- How much can be used if the block with the character after the first `n` cannot be read. -/
def usable (n : Nat) : Nat :=
  let start := n / blockSize * blockSize
  if start < 2 * blockSize then 0 else start

/-- A source that ends with the last block before the character after the first `n`. -/
def cut (text : List Char) (n : Nat) (flaw : Flaw) : Source :=
  { text := text.take (usable n), stop := some flaw }

/-- The source of a file. A character that may not stand in a text makes its block unreadable. -/
def ofBytes (content : ByteArray) : Source :=
  let whole := Text.Prefix.ofBytes blockSize content
  let source : Source :=
    if whole.isWhole then { text := whole.text }
    else cut whole.text whole.text.length .undecodable
  match source.text.findIdx? (!isReadable ·) with
  | some n => cut source.text n .malformed
  | none => source

end Source

end MachineConfig.Yaml
