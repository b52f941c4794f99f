import PageScheme.Json.Basic
import PageScheme.Text.Digit

/-!
# Numerals and escapes

The pieces of numerals and escapes that both readers of JSON text share. A reader of letters and a
reader of bytes see the same numbers here: what a unit of the text stands for is its code.
-/
namespace PageScheme.Json

def hexNumber? (a b c d : Nat) : Option Nat :=
  match Text.hexDigit? a, Text.hexDigit? b, Text.hexDigit? c, Text.hexDigit? d with
  | some a, some b, some c, some d => some (((a * 16 + b) * 16 + c) * 16 + d)
  | _, _, _, _ => none

def simpleEscape? (code : Nat) : Option Char :=
  if code == 0x22 then some '"'
  else if code == 0x5C then some '\\'
  else if code == 0x2F then some '/'
  else if code == 0x62 then some '\x08'
  else if code == 0x66 then some '\x0c'
  else if code == 0x6E then some '\n'
  else if code == 0x72 then some '\r'
  else if code == 0x74 then some '\t'
  else none

def isSpace (code : Nat) : Bool := code == 0x20 || code == 0x09 || code == 0x0A || code == 0x0D

/-- The number that digits stand for, first digit first. -/
def ofDigits (digits : List Nat) : Nat := digits.foldl (fun n d => n * 10 + d) 0

/-- The most digits a whole number may be written with. -/
def digitLimit : Nat := 4300

structure Numeral where
  negative : Bool
  whole : List Nat
  fraction : List Nat := []
  exponentNegative : Bool := false
  exponent : List Nat := []
  isFloat : Bool := false

def Numeral.value (n : Numeral) : Json :=
  if n.isFloat then
    let shift : Int := ofDigits n.exponent
    float (.ofDecimal n.negative (ofDigits (n.whole ++ n.fraction))
      ((if n.exponentNegative then -shift else shift) - n.fraction.length))
  else
    let magnitude : Int := ofDigits n.whole
    int (if n.negative then -magnitude else magnitude)

end PageScheme.Json
