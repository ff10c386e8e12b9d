/-!
Small letters: those of ASCII, of Latin-1 and of the two signs of units that have a small form
among these.
-/
namespace RelativeTime.Text

/-- The small form of a letter. -/
def small (c : Char) : Char :=
  let n := c.toNat
  if 0x41 ≤ n ∧ n ≤ 0x5a ∨ 0xc0 ≤ n ∧ n ≤ 0xde ∧ n ≠ 0xd7 then Char.ofNat (n + 0x20)
  else if n = 0x212a then 'k'
  else if n = 0x212b then 'å'
  else c

def inSmall (s : String) : String := String.ofList (s.toList.map small)

end RelativeTime.Text
