import RelativeTime.Text.Blank
import RelativeTime.Text.Emoji
import RelativeTime.Text.Small

/-!
What the markup of a terminal makes of a text that is meant to be shown as it is. Tags in the text
stay, with the backslashes before them; a backslash before any other opening bracket goes; names
of emoji between colons become the emoji; and a single backslash at the end is doubled. A text
without brackets, colons and backslashes stays as it is.
-/
namespace RelativeTime.CommandLine.Markup

/-- What may follow the opening bracket of a tag. -/
def opensTag (c : Char) : Bool :=
  c.isLower || c = '#' || c = '/' || c = '@'

/-- The length of the tag behind an opening bracket: it ends with the next closing bracket, and
holds no other opening one. -/
def tagLength? : List Char → Option Nat
  | [] => none
  | c :: cs =>
    let inside := cs.takeWhile fun d => d ≠ '[' && d ≠ ']'
    if opensTag c && (cs.drop inside.length).head? = some ']' then some (inside.length + 2)
    else none

/-- A backslash before an opening bracket goes. -/
def openBrackets : List Char → List Char
  | '\\' :: '[' :: cs => '[' :: openBrackets cs
  | c :: cs => c :: openBrackets cs
  | [] => []

/-- The pieces that a text is taken in: a tag, the backslashes before it, and what lies between
tags. The text before the present place is given in reverse. -/
def pieces (passed : List Char) : List Char → List (List Char)
  | [] => [openBrackets passed.reverse]
  | c :: cs =>
    match if c = '[' then tagLength? cs else none with
    | some n =>
      openBrackets (passed.dropWhile (· = '\\')).reverse :: passed.takeWhile (· = '\\') ::
        (c :: cs.take n) :: pieces [] (cs.drop n)
    | none => pieces (c :: passed) cs
termination_by cs => cs.length
decreasing_by
  all_goals
    simp only [List.length_drop, List.length_cons]
    omega

/-- The character behind an emoji that asks for it as text or in colour. -/
def variants : List (String × Char) :=
  [("-emoji", Text.colourMark), ("-text", Char.ofNat 0xfe0e)]

/-- The emoji for what stands between two colons. -/
def emoji? (between : List Char) : Option String :=
  let name := String.ofList between
  let variant? := variants.findSome? fun (ending, mark) =>
    (Text.before? ending name).map fun start => (start, String.singleton mark)
  let (name, mark) := variant?.getD (name, "")
  (Text.emoji? (Text.inSmall name)).map (· ++ mark)

/-- Names between colons replaced by their emoji. A pair of colons with no name, with an unknown
one or with no emoji for it stays, and neither of them counts for another pair. -/
def replaceEmoji : List Char → List Char
  | [] => []
  | c :: cs =>
    if c = ':' then
      let between := cs.takeWhile (· ≠ ':')
      if between.length < cs.length ∧ !between.any Text.isSpace then
        ((emoji? between).map String.toList).getD (c :: between ++ [c]) ++
          replaceEmoji (cs.drop (between.length + 1))
      else c :: replaceEmoji cs
    else c :: replaceEmoji cs
termination_by cs => cs.length
decreasing_by
  all_goals
    simp only [List.length_drop, List.length_cons]
    omega

/-- A text that ends in exactly one backslash gets a second one. -/
def guarded (cs : List Char) : List Char :=
  if cs.getLast? = some '\\' ∧ cs.dropLast.getLast? ≠ some '\\' then cs ++ ['\\'] else cs

/-- What is shown of a text. -/
def shown (cs : List Char) : List Char :=
  (pieces [] (guarded cs)).flatMap replaceEmoji

end RelativeTime.CommandLine.Markup
