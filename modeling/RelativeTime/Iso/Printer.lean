import RelativeTime.Zone

/-!
Stamps in the extended format of the standard: date and time joined by a `T`, a fraction of six
digits if there is one, and the offset of a stamp that has one.
-/
namespace RelativeTime.Iso

/-- A number in decimal, padded with zeros to a width. -/
def padded (width n : Nat) : String :=
  let digits := Nat.toDigits 10 n
  String.ofList (List.replicate (width - digits.length) '0' ++ digits)

def date (c : CivilDate) : String :=
  padded 4 c.year.toNat ++ "-" ++ padded 2 c.month ++ "-" ++ padded 2 c.day

/-- Hours, minutes and seconds of a time of day. -/
def clock (micros : Nat) : String :=
  let seconds := micros / 1000000
  padded 2 (seconds / 3600) ++ ":" ++ padded 2 (seconds / 60 % 60) ++ ":" ++ padded 2 (seconds % 60)

def fraction (micros : Nat) : String :=
  if micros % 1000000 = 0 then "" else "." ++ padded 6 (micros % 1000000)

/-- An offset as hours and minutes, with the seconds only if there are some. -/
def offset (micros : Int) : String :=
  let size := micros.natAbs
  let seconds := size / 1000000
  (if micros < 0 then "-" else "+") ++ padded 2 (seconds / 3600) ++ ":" ++
    padded 2 (seconds / 60 % 60) ++
    (if size % 60000000 = 0 then "" else ":" ++ padded 2 (seconds % 60) ++ fraction size)

def zone (s : Stamp) : String :=
  match s.offset? with
  | none => ""
  | some o => offset o

/-- A stamp to the microsecond. -/
def stamp (s : Stamp) : String :=
  let time := (Timeline.timeOfDay s.wall.micros).toNat
  date s.wall.date ++ "T" ++ clock time ++ fraction time ++ zone s

/-- A stamp to the second. -/
def stampToSecond (s : Stamp) : String :=
  date s.wall.date ++ "T" ++ clock (Timeline.timeOfDay s.wall.micros).toNat ++ zone s

end RelativeTime.Iso
