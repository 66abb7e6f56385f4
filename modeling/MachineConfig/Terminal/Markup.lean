import MachineConfig.Terminal.Emoji
import MachineConfig.Terminal.Fault

/-!
Markup of lines. A style tag `[name]` styles what follows it up to `[/name]`, or to `[/]`, which
ends the style that began last; styles are not shown. A backslash keeps a tag from being one.
`escape` makes a text safe by itself, but a bracket that it leaves open may be closed by what
follows it in a line.
-/

namespace MachineConfig.Terminal

/-- A tag starts with a small letter or one of three marks. -/
def startsTag (c : Char) : Bool := ('a' ≤ c && c ≤ 'z') || c ∈ ['#', '/', '@']

/-- The content of the tag at the start of a text. No bracket opens within a tag. -/
def tag? : List Char → Option (List Char)
  | '[' :: c :: cs =>
    let body := cs.takeWhile fun d => d ≠ '[' && d ≠ ']'
    if startsTag c && (cs.drop body.length).head? = some ']' then some (c :: body) else none
  | _ => none

/-- The tag with this content, its brackets around it. -/
def bracketed (body : List Char) : List Char := '[' :: body ++ [']']

/-- The backslashes at the start of a text, and the content of the tag after them. -/
def slashedTag? (cs : List Char) : Option (Nat × List Char) :=
  let slashes := (cs.takeWhile (· = '\\')).length
  (tag? (cs.drop slashes)).map (slashes, ·)

/-- Puts a backslash before every tag, and doubles those that stand there. -/
def escapeTags : List Char → List Char
  | [] => []
  | c :: cs =>
    match slashedTag? (c :: cs) with
    | some (n, body) =>
      let rest := cs.drop (n + body.length + 1)
      List.replicate (2 * n + 1) '\\' ++ bracketed body ++ escapeTags rest
    | none => c :: escapeTags cs
termination_by cs => cs.length
decreasing_by
  all_goals simp only [List.length_drop, List.length_cons]; omega

/-- A text that is shown as it is. A backslash at its end is doubled, lest it escape a tag that
follows. -/
def escape (s : String) : String :=
  let cs := escapeTags s.toList
  match cs.reverse with
  | '\\' :: '\\' :: _ => String.ofList cs
  | '\\' :: _ => String.ofList (cs ++ ['\\'])
  | _ => String.ofList cs

/-- The parts of a line: texts, and tags with their place in it. -/
inductive Part where
  | text (cs : List Char)
  | tag (body : List Char) (position : Nat)
  deriving DecidableEq

/-- The parts of a line from a place on, `before` being the characters of the text that is read,
last one first. Of the backslashes before a tag every second counts, and an odd one makes the tag
a text. -/
def parts (position : Nat) (before : List Char) : List Char → List Part
  | [] => [.text before.reverse]
  | c :: cs =>
    match slashedTag? (c :: cs) with
    | some (n, body) =>
      let tag := if n % 2 = 0 then Part.tag body (position + n) else .text (bracketed body)
      .text before.reverse :: .text (List.replicate (n / 2) '\\') :: tag ::
        parts (position + n + body.length + 2) [] (cs.drop (n + body.length + 1))
    | none => parts (position + 1) (c :: before) cs
termination_by cs => cs.length
decreasing_by
  all_goals simp only [List.length_drop, List.length_cons]; omega

/-- Leaves out the backslashes before brackets. -/
def dropBracketEscapes : List Char → List Char
  | '\\' :: '[' :: cs => '[' :: dropBracketEscapes cs
  | c :: cs => c :: dropBracketEscapes cs
  | [] => []

/-- The name of a style, which an equals sign may end. -/
def styleName (body : List Char) : String :=
  Text.lower (Text.strip (String.ofList (body.takeWhile (· ≠ '='))))

/-- The styles that are open after a tag, the one that began last first. -/
def applyTag (styles : List String) (body : List Char) (position : Nat) :
    Except MarkupFault (List String) :=
  match body with
  | '/' :: body =>
    let name := styleName body
    if name.isEmpty then
      match styles with
      | [] => .error (.nothingOpen position)
      | _ :: styles => .ok styles
    else if name ∈ styles then .ok (styles.erase name)
    else .error (.unmatched (String.ofList (bracketed ('/' :: body))) position)
  | _ => .ok (styleName body :: styles)

/-- What is shown of the parts of a line where these styles are open. -/
def shownParts (styles : List String) : List Part → Except MarkupFault (List Char)
  | [] => .ok []
  | .text cs :: parts => do
    let rest ← shownParts styles parts
    return replaceEmojis (dropBracketEscapes cs) ++ rest
  | .tag body position :: parts => do
    shownParts (← applyTag styles body position) parts

/-- What is shown of a line with tags. -/
def readMarkup (s : String) : Except MarkupFault (List Char) := shownParts [] (parts 0 [] s.toList)

end MachineConfig.Terminal
