import MachineConfig.Terminal.Emoji.Codes
import MachineConfig.Decimal.Notation
import MachineConfig.Text.Blank
import MachineConfig.Text.Casing
import MachineConfig.Text.Search

/-!
Pictures in lines of text. A short name between colons stands for a picture, in whatever case it
is written; after the name it may be asked to be shown as text or as a picture. Names that are not
known stay as they are.
-/

namespace MachineConfig.Terminal

/-- The pictures under their short names. -/
def emojis : List (String × List Char) :=
  ((Text.splitAt '\n' emojiCodes).flatMap (Text.splitAt ' ')).filterMap fun entry =>
    match Text.splitAt ':' entry with
    | [name, codes] =>
      some (name, (Text.splitAt '.' codes).map fun code =>
        Char.ofNat (Decimal.numeral 16 code.toList))
    | _ => none

/-- The ways that a picture can be asked to be shown, and the characters that ask for it. -/
def presentations : List (List Char × Char) :=
  [("-emoji".toList, '\uFE0F'), ("-text".toList, '\uFE0E')]

/-- The picture that a code between two colons stands for. -/
def emoji? (code : List Char) : Option (List Char) :=
  let presentation := presentations.find? (·.1.isSuffixOf code)
  let name := code.take (code.length - presentation.elim 0 (·.1.length))
  (emojis.lookup (Text.lower (String.ofList name))).map (· ++ presentation.toList.map (·.2))

/-- A text with pictures for the codes that have one. A code holds no blank; the colon after one
starts no other. -/
def replaceEmojis : List Char → List Char
  | [] => []
  | c :: cs =>
    let code := cs.takeWhile fun d => d ≠ ':' && !Text.isBlank d
    if c = ':' ∧ (cs.drop code.length).head? = some ':' then
      (emoji? code).getD (':' :: code ++ [':']) ++ replaceEmojis (cs.drop (code.length + 1))
    else c :: replaceEmojis cs
termination_by cs => cs.length
decreasing_by
  all_goals simp only [List.length_drop, List.length_cons]; omega

end MachineConfig.Terminal
