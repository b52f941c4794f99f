import PageScheme.Selector.Token
import PageScheme.Text.Blank
import PageScheme.Text.Digit
import PageScheme.Text.Lowercase

/-!
# Series

A series `an+b` is the argument of a pseudo-class that asks for a position. It is put together from
the words of the argument, capitals and small letters alike. Its numbers are written with the
decimal digits of any script and may hold single low lines between two digits.
-/
namespace PageScheme.Selector

/-- A whole number in the form of numerals, without its sign; `previous` says whether the character
before was a digit. -/
def digitsOf (previous : Bool) (n : Nat) : List Char → Option Nat
  | [] => if previous then some n else none
  -- A low line stands between two digits only.
  | '_' :: c :: rest =>
    if previous then
      match Text.decimal? c with
      | some d => digitsOf true (n * 10 + d) rest
      | none => none
    else none
  | c :: rest =>
    match Text.decimal? c with
    | some d => digitsOf true (n * 10 + d) rest
    | none => none

def digitLimit : Nat := 4300

/-- A whole number without its sign, unless it is too long. -/
def unsignedNumber (cs : List Char) : Option Nat :=
  if digitLimit < cs.countP fun c => (Text.decimal? c).isSome then none else digitsOf false 0 cs

def wholeNumber (cs : List Char) : Option Int :=
  match Text.strip cs with
  | '-' :: rest => (unsignedNumber rest).map fun n => -(n : Int)
  | '+' :: rest => (unsignedNumber rest).map fun n => (n : Int)
  | rest => (unsignedNumber rest).map fun n => (n : Int)

def seriesStep (cs : List Char) : Option Int :=
  if cs = [] || cs = ['+'] then some 1 else if cs = ['-'] then some (-1) else wholeNumber cs

def seriesOf (cs : List Char) : Option (Int × Int) :=
  if cs = "odd".toList then some (2, 1)
  else if cs = "even".toList then some (2, 0)
  else if !cs.contains 'n' then (wholeNumber cs).map fun b => (0, b)
  else
    let (before, behind) := cs.span (· ≠ 'n')
    match seriesStep before, behind.drop 1 with
    | some a, [] => some (a, 0)
    | some a, rest => (wholeNumber rest).map fun b => (a, b)
    | none, _ => none

def series (tokens : List Token) : Option (Int × Int) :=
  if tokens.any fun t => t.kind = .string then none
  else
    let written := String.ofList (Text.strip (tokens.flatMap fun t => t.value.toList))
    seriesOf (Text.lower written).toList

/-- Whether a number is `step * n + offset` for some number `n`. -/
def inSeries (step offset : Int) (index : Nat) : Bool :=
  let distance := (index : Int) - offset
  -- With a step, the distance has to be a multiple of it in the direction of the step.
  if step = 0 then distance = 0 else distance % step = 0 && 0 ≤ distance / step

example : seriesOf "2n+1".toList = some (2, 1) := by decide +kernel

end PageScheme.Selector
