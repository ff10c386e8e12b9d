import RelativeTime.Zone

/-!
Reading stamps in the formats of the standard: calendar dates and week dates, with or without
separators, then any one character and a time with or without separators, a fraction, and an
offset. What the reader accepts beyond the standard: a fraction may follow any part of the time,
something may stand between the time and the offset, and a NUL where a time or an offset could end
is the end, whatever comes behind it.
-/
namespace RelativeTime.Iso

/-- So many digits read as a number, and the rest. -/
def readDigits (count : Nat) (cs : List Char) : Option (Nat × List Char) :=
  let digits := cs.take count
  if digits.length = count ∧ digits.all Char.isDigit then
    some (Nat.ofDigitChars 10 digits 0, cs.drop count)
  else none

/-- The rest behind one given character. -/
def readChar (c : Char) : List Char → Option (List Char)
  | x :: cs => if x = c then some cs else none
  | [] => none

/-- The character that marks an end, wherever a text could end. -/
def endMark : Char := Char.ofNat 0

/-- The number of characters of the date, told from the characters that decide between the
formats. Behind a week without separators there may be digits, which are a day, one character of
any kind and pairs of a time: a single digit is the day, an odd number of more has no day, and an
even number has one. -/
def dateLength? (cs : List Char) : Option Nat :=
  let size := cs.length
  if size < 7 then none
  else if size = 7 then some 7
  else if cs[4]? = some '-' then
    if cs[5]? = some 'W' then
      -- the hyphen behind a week opens its day, unless two digits follow: these are a time
      if cs[8]? = some '-' then
        if size = 9 then none
        else if cs[10]?.any Char.isDigit then some 8
        else some 10
      else some 8
    else some 10
  else if cs[4]? = some 'W' then
    -- no separators: only the count of digits tells a day of the week from a time
    let digits := ((cs.drop 7).takeWhile Char.isDigit).length
    if digits < 2 then some (7 + digits)
    else if digits % 2 = 1 then some 7
    else some 8
  else some 8

/-- The day number of a week date. The first week of a year is that of its fourth day, weeks
begin on Mondays, and only a year that ends or begins on a Thursday has a week 53. -/
def dayOfWeekDate? (year : Int) (week day : Nat) : Option Int :=
  -- day numbers that are multiples of seven are Mondays
  let newYear := CivilDate.toDay ⟨year, 1, 1⟩
  let fourth := newYear + 3
  let firstMonday := fourth - fourth % 7
  let nextFourth := CivilDate.toDay ⟨year + 1, 1, 4⟩
  let weeks := (nextFourth - nextFourth % 7 - firstMonday) / 7
  if 1 ≤ week ∧ (week : Int) ≤ weeks ∧ 1 ≤ day ∧ day ≤ 7 then
    some (firstMonday + 7 * (week - 1) + (day - 1))
  else none

/-- The day number of a date text. -/
def readDate (cs : List Char) : Option Int := do
  let (year, cs) ← readDigits 4 cs
  let separated := cs.head? = some '-'
  let separator (cs : List Char) := if separated then readChar '-' cs else some cs
  let cs ← separator cs
  match cs with
  | 'W' :: cs =>
    let (week, cs) ← readDigits 2 cs
    match cs with
    | [] => dayOfWeekDate? year week 1
    | _ =>
      let (day, cs) ← readDigits 1 (← separator cs)
      if cs.isEmpty then dayOfWeekDate? year week day else none
  | _ =>
    let (month, cs) ← readDigits 2 cs
    let (day, cs) ← readDigits 2 (← separator cs)
    let date : CivilDate := ⟨year, month, day⟩
    if cs.isEmpty ∧ date.IsValid then some date.toDay else none

/-- The parts of a time as they are written, not yet checked against their limits, and whether
something stood behind them. -/
structure ClockFields where
  hour : Nat
  minute : Nat
  second : Nat
  micros : Nat
  leftover : Bool

namespace ClockFields

/-- A fraction of a second. Six digits count; with fewer, all that is written has to be digits. -/
def readFraction (fields : ClockFields) (cs : List Char) : Option ClockFields := do
  -- digits behind the sixth are dropped, and only behind six may anything else stand
  let count := min 6 cs.length
  let (n, rest) ← readDigits count cs
  let leftover := (rest.dropWhile Char.isDigit).head?.any (· ≠ endMark)
  return { fields with micros := n * Nat.pow 10 (6 - count), leftover := leftover }

/-- What may follow a pair of digits: nothing, one character of ASCII too many, a mark and a
fraction, or the next part. -/
def readAfter (fields : ClockFields) (separated : Bool)
    (next : ClockFields → List Char → Option ClockFields) : List Char → Option ClockFields
  | [] => some fields
  | [c] => if c.toNat < 0x80 then some { fields with leftover := c ≠ endMark } else none
  | c :: cs =>
    if separated ∧ c = ':' then next fields cs
    else if c = '.' ∨ c = ',' then readFraction fields cs
    else if separated then none
    else next fields (c :: cs)

def readSecond (separated : Bool) (fields : ClockFields) (cs : List Char) : Option ClockFields := do
  let (n, cs) ← readDigits 2 cs
  readAfter { fields with second := n } separated readFraction cs

def readMinute (separated : Bool) (fields : ClockFields) (cs : List Char) : Option ClockFields := do
  let (n, cs) ← readDigits 2 cs
  readAfter { fields with minute := n } separated (readSecond separated) cs

/-- A colon behind the hour means that the parts are separated. -/
def read (cs : List Char) : Option ClockFields := do
  let (n, cs) ← readDigits 2 cs
  let separated := cs.head? = some ':'
  readAfter ⟨n, 0, 0, 0, false⟩ separated (readMinute separated) cs

def seconds (f : ClockFields) : Nat :=
  3600 * f.hour + 60 * f.minute + f.second

/-- The time of day in microseconds. -/
def timeOfDay? (f : ClockFields) : Option Int :=
  if f.hour < 24 ∧ f.minute < 60 ∧ f.second < 60 then some (f.seconds * 1000000 + f.micros)
  else none

end ClockFields

/-- An offset text behind its sign. A fraction of a second by itself is no offset. -/
def readOffset (negative : Bool) (cs : List Char) : Option Offset := do
  let f ← ClockFields.read cs
  if f.leftover then none
  else if f.seconds = 0 then some Offset.zero
  else
    let size : Int := f.seconds * 1000000 + f.micros
    Offset.ofMicros? (if negative then -size else size)

def isZoneMark (c : Char) : Bool :=
  c = '+' || c = '-' || c = 'Z'

/-- The time of day and the offset of a time text. Characters left over behind the time are
tolerated before an offset only. -/
def readTime (cs : List Char) : Option (Int × Option Offset) := do
  let f ← ClockFields.read (cs.takeWhile (!isZoneMark ·))
  let time ← f.timeOfDay?
  match cs.dropWhile (!isZoneMark ·) with
  | [] => if f.leftover then none else some (time, none)
  | 'Z' :: cs => if cs.head?.any (· ≠ endMark) then none else some (time, some Offset.zero)
  | c :: cs => return (time, some (← readOffset (c = '-') cs))

/-- A wall time and its offset, if one is written. -/
def read (cs : List Char) : Option (WallTime × Option Offset) := do
  let size ← dateLength? cs
  let day ← readDate (cs.take size)
  match cs.drop size with
  | [] => return (← WallTime.ofMicros? (day * Timeline.day), none)
  | _ :: cs =>
    let (time, offset) ← readTime cs
    return (← WallTime.ofMicros? (day * Timeline.day + time), offset)

/-- The stamp of a text; one without an offset is floating. -/
def readStamp? (s : String) : Option Stamp :=
  (read s.toList).map fun (wall, offset) =>
    ⟨wall, match offset with
      | none => .floating
      | some o => .fixed o, false⟩

end RelativeTime.Iso
