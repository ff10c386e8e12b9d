/-!
Double-precision numbers taken apart exactly, and their text: the fewest digits that read back, and
of those the nearest. Numbers from a ten-thousandth up to 10^16 are written with a point, the
others with an exponent.
-/
namespace RelativeTime.Data

/-- A finite number: the mantissa times a power of two, with a sign. -/
structure Binary where
  negative : Bool
  mantissa : Nat
  exponent : Int

namespace Binary

/-- The number of a double. Infinities have none. -/
def ofFloat? (x : Float) : Option Binary :=
  let bits := x.toBits.toNat
  let negative := 0x8000000000000000 ≤ bits
  let exponent := bits / 0x10000000000000 % 0x800
  let fraction := bits % 0x10000000000000
  if exponent = 0x7ff then none
  else if exponent = 0 then some ⟨negative, fraction, -1074⟩
  else some ⟨negative, 0x10000000000000 + fraction, exponent - 1075⟩

/-- The size as a quotient. -/
def numerator (b : Binary) : Nat := b.mantissa * Nat.pow 2 b.exponent.toNat

def denominator (b : Binary) : Nat := Nat.pow 2 (-b.exponent).toNat

/-- The number, if it is whole. -/
def whole? (b : Binary) : Option Int :=
  if b.numerator % b.denominator = 0 then
    let n : Int := (b.numerator / b.denominator : Nat)
    some (if b.negative then -n else n)
  else none

/-- The digits of a double are those of `digits * 10 ^ exponent`. -/
structure Decimal where
  digits : Nat
  exponent : Int

/-- Whether a decimal reads as the number, its sign apart. -/
def readsBack (b : Binary) (d : Decimal) : Bool :=
  match ofFloat? (Float.ofScientific d.digits (d.exponent < 0) d.exponent.natAbs) with
  | none => false
  | some c => c.mantissa = b.mantissa && c.exponent = b.exponent

/-- The least power of ten above a number, which is not zero. Scaled up by 400 places every number
has a whole part, whose digits are counted. -/
def scale (b : Binary) : Int :=
  let whole := b.numerator * Nat.pow 10 400 / b.denominator
  (Nat.toDigits 10 whole).length - 400

/-- The neighbour of a number that reads back, among the decimals with a given exponent. Of two the
nearer is taken, and the even one where both are as near. -/
def onGrid? (b : Binary) (exponent : Int) : Option Decimal :=
  let num := b.numerator * Nat.pow 10 (-exponent).toNat
  let den := b.denominator * Nat.pow 10 exponent.toNat
  let low := num / den
  let twice := 2 * num
  let middle := (2 * low + 1) * den
  let lowReads := b.readsBack ⟨low, exponent⟩
  let highReads := b.readsBack ⟨low + 1, exponent⟩
  let lowNearer := twice < middle || twice = middle && low % 2 = 0
  if lowReads && (lowNearer || !highReads) then some ⟨low, exponent⟩
  else if highReads then some ⟨low + 1, exponent⟩
  else none

/-- The decimal with the fewest digits. Seventeen are enough. -/
def shortest (b : Binary) : Decimal :=
  let top := b.scale
  let found := (List.range 17).findSome? fun n => b.onGrid? (top - (n + 1 : Nat))
  found.getD ⟨b.numerator * Nat.pow 10 (17 - top).toNat / b.denominator, top - 17⟩

end Binary

/-- A number with a point behind so many of its digits. -/
def withPoint (digits : List Char) (point : Int) : List Char :=
  if point ≤ 0 then '0' :: '.' :: (List.replicate (-point).toNat '0' ++ digits)
  else
    let places := point.toNat
    let whole := digits.take places ++ List.replicate (places - digits.length) '0'
    let rest := digits.drop places
    whole ++ '.' :: (if rest.isEmpty then ['0'] else rest)

/-- A number with one digit before the point and an exponent of at least two digits. -/
def withExponent (digits : List Char) (exponent : Int) : List Char :=
  let rest := digits.drop 1
  let power := Nat.toDigits 10 exponent.natAbs
  digits.take 1 ++ (if rest.isEmpty then [] else '.' :: rest) ++
    'e' :: (if exponent < 0 then '-' else '+') ::
      (List.replicate (2 - power.length) '0' ++ power)

/-- The text of a double. -/
def floatText (x : Float) : String :=
  match Binary.ofFloat? x with
  | none => if x.isNaN then "nan" else if x < 0 then "-inf" else "inf"
  | some b =>
    let d := b.shortest
    let written := Nat.toDigits 10 d.digits
    let digits := (written.reverse.dropWhile (· = '0')).reverse
    let point := written.length + d.exponent
    let size :=
      if b.mantissa = 0 then ['0', '.', '0']
      else if -4 < point ∧ point ≤ 16 then withPoint digits point
      else withExponent digits (point - 1)
    String.ofList (if b.negative then '-' :: size else size)

end RelativeTime.Data
