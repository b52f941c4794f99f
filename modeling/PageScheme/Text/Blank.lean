/-!
# Blank characters

Stripping a piece of text removes the blanks of the Unicode standard at both ends: the white space
and the separators, the four information separators of ASCII included. A zero-width space and a
byte order mark are not blank.
-/
namespace PageScheme.Text

/-- White space and separators, the information separators U+001C to U+001F included. -/
def isBlank (c : Char) : Bool :=
  let n := c.toNat
  (0x09 ≤ n && n ≤ 0x0D) || (0x1C ≤ n && n ≤ 0x20) || n == 0x85 || n == 0xA0 || n == 0x1680 ||
    (0x2000 ≤ n && n ≤ 0x200A) || n == 0x2028 || n == 0x2029 || n == 0x202F || n == 0x205F ||
    n == 0x3000

def stripBy {α : Type} (blank : α → Bool) (xs : List α) : List α :=
  ((xs.dropWhile blank).reverse.dropWhile blank).reverse

def strip (cs : List Char) : List Char := stripBy isBlank cs

@[simp] theorem strip_nil : strip [] = [] := rfl

end PageScheme.Text
