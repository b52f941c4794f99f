/-!
# Double-precision numbers

A number of the binary interchange format of 64 bits, kept as the exact value it stands for:
`significand · 2 ^ exponent`. Decimal numerals are read exactly, in natural-number arithmetic, and
rounded once, to the nearest number of the format and to the even one of two that are equally near.
-/
namespace PageScheme

/-- A double-precision number. A finite one has a significand below `2 ^ 53` and an exponent of at
least `-1074`; the significand is at least `2 ^ 52` unless the exponent is `-1074`. -/
inductive Binary64
  | nan
  | infinite (negative : Bool)
  | finite (negative : Bool) (significand : Nat) (exponent : Int)
  deriving DecidableEq, Repr, Inhabited

namespace Binary64

def isFinite : Binary64 → Bool
  | finite .. => true
  | _ => false

/-- The quotient rounded to the nearest number, a half to the even one. -/
def roundQuotient (num den : Nat) : Nat :=
  let quotient := num / den
  let twice := 2 * (num % den)
  if twice < den then quotient
  else if den < twice then quotient + 1
  else if quotient % 2 = 0 then quotient else quotient + 1

def roundScaled (num den : Nat) (exponent : Int) : Nat :=
  roundQuotient (num * Nat.pow 2 (-exponent).toNat) (den * Nat.pow 2 exponent.toNat)

/-- The exponent at which a positive quotient has a significand of 53 bits, one off at most. -/
def exponentGuess (num den : Nat) : Int := (num.log2 : Int) - (den.log2 : Int) - 52

def quotientBelow (num den : Nat) (exponent : Int) : Bool :=
  num * Nat.pow 2 (-exponent).toNat < den * Nat.pow 2 exponent.toNat

/-- The nearest number of the format to `num / den`. -/
def ofQuotient (negative : Bool) (num den : Nat) : Binary64 :=
  if num = 0 then finite negative 0 (-1074)
  else
    let guess := exponentGuess num den
    -- The lengths in bits leave open which of two exponents it is; one comparison settles it.
    let fitted := if quotientBelow num den (guess + 52) then guess - 1 else guess
    let exponent := max fitted (-1074)
    let significand := roundScaled num den exponent
    -- Rounding up may have carried into a bit of its own.
    let (significand, exponent) :=
      if significand = Nat.pow 2 53 then (Nat.pow 2 52, exponent + 1) else (significand, exponent)
    if 971 < exponent then infinite negative else finite negative significand exponent

def digitCount (n : Nat) : Nat := (Nat.toDigits 10 n).length

/-- The nearest number of the format to `digits · 10 ^ exponent`. Powers far outside the range are
settled by their size alone. -/
def ofDecimal (negative : Bool) (digits : Nat) (exponent : Int) : Binary64 :=
  let size := (digitCount digits : Int) + exponent
  if digits = 0 then finite negative 0 (-1074)
  else if 400 < size then infinite negative
  else if size < -400 then finite negative 0 (-1074)
  else ofQuotient negative (digits * Nat.pow 10 exponent.toNat) (Nat.pow 10 (-exponent).toNat)

end Binary64
end PageScheme
