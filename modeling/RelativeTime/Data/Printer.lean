import RelativeTime.Data.Basic

/-!
Structured data as a document of lines. A container that holds something opens a level of two
spaces; text is in double quotes and in ASCII, with other characters as one or two escapes of four
hexadecimal digits.
-/
namespace RelativeTime.Data

/-- A unit of sixteen bits as an escape. -/
def unitEscape (n : Nat) : List Char :=
  '\\' :: 'u' :: Text.hex 4 n

/-- The characters one character is written as. Beyond the basic plane it takes two units. -/
def escapeChar (c : Char) : List Char :=
  if c = '"' ∨ c = '\\' then ['\\', c]
  else if c = '\n' then ['\\', 'n']
  else if c = '\r' then ['\\', 'r']
  else if c = '\t' then ['\\', 't']
  else if c = Char.ofNat 8 then ['\\', 'b']
  else if c = Char.ofNat 12 then ['\\', 'f']
  else if 0x20 ≤ c.toNat ∧ c.toNat < 0x7f then [c]
  else if c.toNat < 0x10000 then unitEscape c.toNat
  else
    let n := c.toNat - 0x10000
    unitEscape (0xd800 + n / 0x400) ++ unitEscape (0xdc00 + n % 0x400)

def quotedText (s : String) : String :=
  String.ofList ('"' :: s.toList.flatMap escapeChar ++ ['"'])

def indent (depth : Nat) : String :=
  String.ofList (List.replicate (2 * depth) ' ')

/-- Written items between brackets, each on a line of its own, or the bare brackets. -/
def bracketed (opening closing : String) (depth : Nat) (items : List String) : String :=
  if items.isEmpty then opening ++ closing
  else
    opening ++ "\n" ++
      String.intercalate ",\n" (items.map fun item => indent (depth + 1) ++ item) ++
      "\n" ++ indent depth ++ closing

mutual

/-- A value inside so many levels. -/
def document (depth : Nat) : Data → String
  | null => "null"
  | bool b => if b then "true" else "false"
  | integer n => toString n
  | float x => floatText x
  | text s => quotedText s
  | list items => bracketed "[" "]" depth (documentItems (depth + 1) items)
  | record fields => bracketed "\x7b" "\x7d" depth (documentFields (depth + 1) fields)

def documentItems (depth : Nat) : List Data → List String
  | [] => []
  | d :: ds => d.document depth :: documentItems depth ds

def documentFields (depth : Nat) : List (String × Data) → List String
  | [] => []
  | (name, d) :: fs => (quotedText name ++ ": " ++ d.document depth) :: documentFields depth fs

end

end RelativeTime.Data
