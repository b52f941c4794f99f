import PageScheme.Number.Binary64

/-!
# Shortest decimal text

A double-precision number is written with the fewest decimal digits that read back as the same
number, and among those with the digits nearest to its value. The search goes through the decimal
grids of one to seventeen digits; on each it tests the two neighbours of the value against the
interval of reals that round to the number, all in exact arithmetic.

Numbers from `1e-4` up to, but not including, `1e16` are written positionally, always with a
fractional part; the others with an exponent of at least two digits and its sign.
-/
namespace PageScheme.Number

/-- A non-negative fraction; the denominator is positive. -/
structure Fraction where
  num : Nat
  den : Nat

namespace Fraction

def le (a b : Fraction) : Bool := a.num * b.den ≤ b.num * a.den
def lt (a b : Fraction) : Bool := a.num * b.den < b.num * a.den

def scaled (count base : Nat) (exponent : Int) : Fraction :=
  ⟨count * base.pow exponent.toNat, base.pow (-exponent).toNat⟩

def distance (a b : Fraction) : Fraction :=
  let left := a.num * b.den
  let right := b.num * a.den
  -- One of the two differences is cut off at zero.
  ⟨(left - right) + (right - left), a.den * b.den⟩

end Fraction

/-- The reals that round to one number: from `low` to `high`, the ends included for an even
significand. -/
structure RoundingInterval where
  low : Fraction
  high : Fraction
  closed : Bool

def RoundingInterval.contains (i : RoundingInterval) (x : Fraction) : Bool :=
  if i.closed then i.low.le x && x.le i.high else i.low.lt x && x.lt i.high

/-- The interval around `significand · 2 ^ exponent`: half a step on either side, and a quarter
below the smallest significand, where the numbers are twice as dense. -/
def roundingInterval (significand : Nat) (exponent : Int) : RoundingInterval :=
  let below := if significand = Nat.pow 2 52 && -1074 < exponent then 1 else 2
  ⟨.scaled (4 * significand - below) 2 (exponent - 2),
    .scaled (4 * significand + 2) 2 (exponent - 2), significand % 2 = 0⟩

/-- Counts how often a fraction below one can be multiplied by ten and stay below one. -/
def leadingZeros (num den : Nat) : Nat → Nat
  | 0 => 0
  | fuel + 1 => if num * 10 < den then leadingZeros (num * 10) den fuel + 1 else 0

/-- The place of the decimal point: the value is at least `10 ^ (point - 1)` and below
`10 ^ point`. -/
def decimalPoint (value : Fraction) : Int :=
  if value.den ≤ value.num then Binary64.digitCount (value.num / value.den)
  else -(leadingZeros value.num value.den 400 : Int)

/-- The largest multiple of `10 ^ exponent` that is not above the value, as a count of steps. -/
def gridFloor (value : Fraction) (exponent : Int) : Nat :=
  (value.num * Nat.pow 10 (-exponent).toNat) / (value.den * Nat.pow 10 exponent.toNat)

/-- The nearer of the value's two neighbours on a decimal grid that round to the number. -/
def gridHit (interval : RoundingInterval) (value : Fraction) (exponent : Int) : Option Nat :=
  let floor := gridFloor value exponent
  let below := Fraction.scaled floor 10 exponent
  let above := Fraction.scaled (floor + 1) 10 exponent
  match interval.contains below, interval.contains above with
  | false, false => none
  | true, false => some floor
  | false, true => some (floor + 1)
  | true, true =>
    let down := value.distance below
    let up := value.distance above
    if down.lt up then some floor
    else if up.lt down then some (floor + 1)
    -- Both are equally near: the even one is taken.
    else if floor % 2 = 0 then some floor else some (floor + 1)

def searchGrids (interval : RoundingInterval) (value : Fraction) (point : Int) (used : Nat) :
    Nat → Nat × Int
  -- Seventeen digits are always enough, so this is never reached.
  | 0 => (gridFloor value (point - used), point - used)
  | fuel + 1 =>
    match gridHit interval value (point - used) with
    | some count => (count, point - used)
    | none => searchGrids interval value point (used + 1) fuel

def dropZeros (digits : List Char) : List Char := (digits.reverse.dropWhile (· == '0')).reverse

/-- The shortest digits of `significand · 2 ^ exponent` and the place of the decimal point in front
of them. -/
def shortestDigits (significand : Nat) (exponent : Int) : List Char × Int :=
  let value := Fraction.scaled significand 2 exponent
  let interval := roundingInterval significand exponent
  let (count, scale) := searchGrids interval value (decimalPoint value) 1 17
  let digits := Nat.toDigits 10 count
  (dropZeros digits, digits.length + scale)

/-- The exponent of scientific notation: a sign and at least two digits. -/
def exponentText (exponent : Int) : List Char :=
  let digits := Nat.toDigits 10 exponent.natAbs
  (if exponent < 0 then '-' else '+') :: (if digits.length < 2 then '0' :: digits else digits)

def layOut (digits : List Char) (point : Int) : List Char :=
  if -4 < point && point ≤ 16 then
    if point ≤ 0 then '0' :: '.' :: List.replicate (-point).toNat '0' ++ digits
    else
      let whole := digits.take point.toNat
      let fraction := digits.drop point.toNat
      whole ++ List.replicate (point.toNat - whole.length) '0' ++
        '.' :: (if fraction.isEmpty then ['0'] else fraction)
  else
    match digits with
    | [] => []
    | first :: rest =>
      first :: (if rest.isEmpty then [] else '.' :: rest) ++ 'e' :: exponentText (point - 1)

end PageScheme.Number

namespace PageScheme.Binary64

/-- The shortest text that reads back as the number. -/
def text : Binary64 → String
  | nan => "nan"
  | infinite negative => if negative then "-inf" else "inf"
  | finite negative significand exponent =>
    let body :=
      if significand = 0 then ['0', '.', '0']
      else
        let (digits, point) := Number.shortestDigits significand exponent
        Number.layOut digits point
    String.ofList (if negative then '-' :: body else body)

end PageScheme.Binary64
