/-!
# Text with lone surrogates

The strings of a JSON document are sequences of code points, and an escape may name one half of a
surrogate pair without the other. Such a string is no well-formed text. `Text` keeps it letter by
letter; `toString?` gives the well-formed text back where there is one.
-/
namespace PageScheme

/-- A character, or one half of a surrogate pair that stands alone: the code point
`0xD800 + half`. -/
inductive Letter
  | scalar (c : Char)
  | lone (half : Fin 0x800)
  deriving DecidableEq, Repr, Inhabited

abbrev Text := List Letter

namespace Letter

def code : Letter → Nat
  | scalar c => c.toNat
  | lone half => 0xD800 + half.val

/-- The letter of a code point; a number that is none gives the replacement character. -/
def ofCode (n : Nat) : Letter :=
  if surrogate : 0xD800 ≤ n ∧ n < 0xE000 then lone ⟨n - 0xD800, by omega⟩
  else if n < 0x110000 then scalar (Char.ofNat n)
  else scalar '\uFFFD'

def char? : Letter → Option Char
  | scalar c => some c
  | lone _ => none

end Letter

namespace Text

def ofString (s : String) : Text := s.toList.map .scalar

def toString? (t : Text) : Option String := (t.mapM Letter.char?).map String.ofList

def hexDigits (width n : Nat) : List Char :=
  let digits := Nat.toDigits 16 n
  List.replicate (width - digits.length) '0' ++ digits

def escapeUnit (n : Nat) : List Char := '\\' :: 'u' :: hexDigits 4 n

/-- The text with an escape in place of each lone surrogate, which cannot be output as it is. -/
def escaped (t : Text) : String :=
  String.ofList <| t.flatMap fun
    | .scalar c => [c]
    | .lone half => escapeUnit (0xD800 + half.val)

/-- The text with the last code point of its plane, which is no character, in place of each lone
surrogate. -/
def markedBroken (t : Text) : String :=
  String.ofList (t.map fun letter => letter.char?.getD '\uFFFF')

def isWellFormed (t : Text) : Bool := t.all fun letter => letter.char?.isSome

/-- The diagnostic for a text that UTF-8 has no form of: it names the first of its lone surrogates,
together with those that follow it. -/
def unwritable (t : Text) : String :=
  let (before, rest) := t.span fun letter => letter.char?.isSome
  let start := before.length
  let place :=
    match rest.takeWhile fun letter => letter.char?.isNone with
    -- A single letter is shown, a run only located.
    | [letter] => "character '" ++ escaped [letter] ++ "' in position " ++ start.repr
    | run => "characters in position " ++ start.repr ++ "-" ++ (start + run.length - 1).repr
  "'utf-8' codec can't encode " ++ place ++ ": surrogates not allowed"

/-- The text with three replacement characters in place of each lone surrogate: what is left after
its three bytes have each been found invalid. -/
def lossy (t : Text) : String :=
  String.ofList <| t.flatMap fun
    | .scalar c => [c]
    | .lone _ => ['\uFFFD', '\uFFFD', '\uFFFD']

instance : Coe String Text := ⟨ofString⟩

theorem mapM_char?_scalar (cs : List Char) :
    (cs.map Letter.scalar).mapM Letter.char? = some cs := by
  induction cs with
  | nil => rfl
  | cons c cs ih => simp only [List.map_cons, List.mapM_cons, Letter.char?, ih]; rfl

@[simp] theorem toString?_ofString (s : String) : (ofString s).toString? = some s := by
  rw [toString?, ofString, mapM_char?_scalar]
  simp

theorem ofString_injective {s t : String} (equal : ofString s = ofString t) : s = t := by
  have back := congrArg toString? equal
  simpa using back

end Text
end PageScheme
