/-!
Code points. A text is a sequence of code points, and not all of them are characters: an escape in a
data file can name half of a surrogate pair, and the halves of a pair stay apart as long as the text
is worked with; a byte of a file name that is no text is such a half, too. So a text spells its code
points. Most are characters that stand for themselves. A half is spelled by the character
`halfOffset` above it, in the last plane of private use, and the characters of this range, and of
the two small ranges behind it, are each spelled by a pair from these two. What is spelled is found
again (`codes_ofCodes`, `ofCodes_codes`), so that two texts are the same exactly if their code
points are.
-/

namespace MachineConfig.Text

/-! ## Halves of surrogate pairs -/

def isHalfCode (code : Nat) : Bool := 0xD800 ≤ code && code ≤ 0xDFFF

/-- The code point is the first half of a pair. -/
def isFirstHalf (code : Nat) : Bool := 0xD800 ≤ code && code ≤ 0xDBFF

/-- The code point is the second half of a pair. -/
def isSecondHalf (code : Nat) : Bool := 0xDC00 ≤ code && code ≤ 0xDFFF

/-- The half stands for a byte that is no text. -/
def isByteHalf (code : Nat) : Bool := 0xDC80 ≤ code && code ≤ 0xDCFF

/-- The code point is a character. -/
def isCharacter (code : Nat) : Bool := code < 0x110000 && !isHalfCode code

/-! ## Spelling -/

/-- How far above a half the character lies that spells it. -/
def halfOffset : Nat := 0x100000

/-- The characters from here to `endReserved` do not stand for themselves: first those for halves,
-/
def firstReserved : Nat := 0x10D800

/-- then those that open a pair, -/
def firstLead : Nat := 0x10E000

/-- then those that close one. -/
def firstTrail : Nat := 0x10E040

def endReserved : Nat := 0x10E080

/-- A character that opens or closes a pair is in no spelling by itself. Such a stray counts as a
code point of its own, behind all that there are. -/
def strayOffset : Nat := 0x110000

def isReserved (code : Nat) : Bool := firstReserved ≤ code && code < endReserved

def isLead (c : Char) : Bool := firstLead ≤ c.toNat && c.toNat < firstTrail

def isTrail (c : Char) : Bool := firstTrail ≤ c.toNat && c.toNat < endReserved

/-- The spelling of a code point. -/
def spell (code : Nat) : List Char :=
  if isHalfCode code then [Char.ofNat (halfOffset + code)]
  else if isReserved code then
    let n := code - firstReserved
    [Char.ofNat (firstLead + n / 64), Char.ofNat (firstTrail + n % 64)]
  else if strayOffset ≤ code then [Char.ofNat (code - strayOffset)]
  else [Char.ofNat code]

/-- The half that a character spells. -/
def halfCode? (c : Char) : Option Nat :=
  if firstReserved ≤ c.toNat ∧ c.toNat < firstLead then some (c.toNat - halfOffset) else none

/-- The code point that a character spells by itself. -/
def codeOf (c : Char) : Nat :=
  (halfCode? c).getD (if isLead c || isTrail c then strayOffset + c.toNat else c.toNat)

/-- The code point that two characters spell together. -/
def pairCode? (c d : Char) : Option Nat :=
  let code := firstReserved + (c.toNat - firstLead) * 64 + (d.toNat - firstTrail)
  if isLead c && isTrail d && code < endReserved then some code else none

/-- The code points of a text. -/
def codes : List Char → List Nat
  | [] => []
  | [c] => [codeOf c]
  | c :: d :: cs =>
    match pairCode? c d with
    | some code => code :: codes cs
    | none => codeOf c :: codes (d :: cs)

/-- The text with these code points. -/
def ofCodes (codes : List Nat) : List Char := codes.flatMap spell

/-- The text with these characters. -/
def ofChars (cs : List Char) : List Char := ofCodes (cs.map Char.toNat)

/-- The text with the characters of a string. -/
def ofString (s : String) : String := String.ofList (ofChars s.toList)

/-! ## Reading and writing -/

/-- All code points of a text are characters, so that it can be written to a file. -/
def isEncodable (s : String) : Bool := (codes s.toList).all isCharacter

/-- The characters of a text. -/
def chars (s : String) : List Char := (codes s.toList).map Char.ofNat

/-- The bytes of a text that can be encoded. -/
def utf8 (s : String) : ByteArray := (String.ofList (chars s)).toUTF8

/-- A name can hold this character. -/
def isNameable (c : Char) : Bool := c ≠ '\x00' && (halfCode? c).all isByteHalf

/-- The bytes that a character takes in a name. A half is one byte; of the four bytes of a pair the
last is that of the character that closes it. -/
def byteCount (c : Char) : Nat :=
  if (halfCode? c).isSome || isTrail c then 1 else if isLead c then 3 else c.utf8Size

/-- The bytes that characters take together. -/
def byteTotal : List Char → Nat
  | [] => 0
  | c :: cs => byteCount c + byteTotal cs

/-- The length of a name in bytes. -/
def byteLength (s : String) : Nat := byteTotal s.toList

/-! ## Order -/

/-- One text comes before another in the order of code points. -/
def isBefore (s t : String) : Bool :=
  (codes s.toList).lex (codes t.toList) fun m n => decide (m < n)

/-- Inserts a text into a strictly increasing list, unless it is there already. -/
def insertSorted (s : String) : List String → List String
  | [] => [s]
  | t :: ts =>
    if isBefore s t then s :: t :: ts else if s = t then t :: ts else t :: insertSorted s ts

/-- The texts of a list in code-point order, each once. -/
def sortedSet (texts : List String) : List String :=
  texts.foldr insertSorted []

end MachineConfig.Text
