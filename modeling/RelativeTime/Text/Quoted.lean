import RelativeTime.Text.Printable

/-!
Quoted text, as messages show it: single quotes around the text (double ones when it holds a
single quote and no double one), and a backslash escape for the quote in use, for the backslash
and for every character that does not print.
-/
namespace RelativeTime.Text

/-- The hexadecimal digits of `n` in lower case, padded with zeros to `width`. -/
def hex (width n : Nat) : List Char :=
  let digits := Nat.toDigits 16 n
  List.replicate (width - digits.length) '0' ++ digits

/-- The quote that encloses a text. -/
def quoteFor (cs : List Char) : Char :=
  if cs.contains '\'' && !cs.contains '"' then '"' else '\''

/-- The characters one character is shown as inside a text quoted with `quote`. -/
def escapeChar (quote c : Char) : List Char :=
  if c = quote ∨ c = '\\' then ['\\', c]
  else if c = '\n' then ['\\', 'n']
  else if c = '\r' then ['\\', 'r']
  else if c = '\t' then ['\\', 't']
  else if isPrintable c then [c]
  else if c.toNat < 0x100 then '\\' :: 'x' :: hex 2 c.toNat
  else if c.toNat < 0x10000 then '\\' :: 'u' :: hex 4 c.toNat
  else '\\' :: 'U' :: hex 8 c.toNat

/-- A text in quotes. -/
def quoted (s : String) : String :=
  let quote := quoteFor s.toList
  String.ofList (quote :: s.toList.flatMap (escapeChar quote) ++ [quote])

end RelativeTime.Text
