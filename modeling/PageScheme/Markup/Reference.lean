import PageScheme.Markup.NamedCharacter

/-!
# Character references

A reference names a character by its number or by its name. Numbers that are no character give the
replacement character, and those of the C1 controls give what Windows-1252 has in their place. A
reference need not end in a semicolon; but inside an attribute a bare name that goes on with a
letter, a digit or an equals sign is no reference.
-/
namespace PageScheme.Markup

/-- The characters of Windows-1252 from 0x80 to 0x9F; a byte without a character is its control. -/
def windowsCodes : List Nat :=
  [0x20AC, 0x81, 0x201A, 0x192, 0x201E, 0x2026, 0x2020, 0x2021, 0x2C6, 0x2030, 0x160, 0x2039, 0x152,
    0x8D, 0x17D, 0x8F, 0x90, 0x2018, 0x2019, 0x201C, 0x201D, 0x2022, 0x2013, 0x2014, 0x2DC, 0x2122,
    0x161, 0x203A, 0x153, 0x9D, 0x17E, 0x178]

def windowsChar (n : Nat) : Char :=
  if 0x80 ≤ n && n < 0xA0 then Char.ofNat (windowsCodes.getD (n - 0x80) n) else Char.ofNat n

def numberedChar (n : Nat) : Char :=
  if n = 0 || 0x110000 ≤ n || (0xD800 ≤ n && n < 0xE000) then '\uFFFD' else windowsChar n

def numberLimit : Nat := 0x110000

/-- The number at the front of a text in some base, and the rest; large numbers stay at the
limit. -/
def takeNumber (base : Nat) (digit? : Nat → Option Nat) (n : Nat) : List Char → Nat × List Char
  | [] => (n, [])
  | c :: rest =>
    match digit? c.toNat with
    | some d => takeNumber base digit? (min (n * base + d) numberLimit) rest
    | none => (n, c :: rest)

def dropSemicolon : List Char → List Char
  | ';' :: rest => rest
  | rest => rest

def numberReference (base : Nat) (digit? : Nat → Option Nat) (cs : List Char) :
    Option (List Char × List Char) :=
  match cs with
  | c :: _ =>
    if (digit? c.toNat).isSome then
      let (n, rest) := takeNumber base digit? 0 cs
      some ([numberedChar n], dropSemicolon rest)
    else none
  | [] => none

/-- Whether a bare name inside an attribute is part of something longer. -/
def goesOn : List Char → Bool
  | c :: _ => c.isAlphanum || c = '='
  | [] => false

/-- What a reference behind its ampersand stands for, and the rest. -/
def reference? (inAttribute : Bool) : List Char → Option (List Char × List Char)
  | '#' :: 'x' :: rest => numberReference 16 Text.hexDigit? rest
  | '#' :: 'X' :: rest => numberReference 16 Text.hexDigit? rest
  | '#' :: rest => numberReference 10 Text.digit? rest
  | cs =>
    match NamedCharacter.find cs with
    | none => none
    | some found =>
      if inAttribute && !found.closed && goesOn found.rest then none
      else some (found.text, found.rest)

/-- Replaces references, in reverse onto `done`; `skip` characters belong to the one before. -/
def replaceOnto (inAttribute : Bool) (done : List Char) : Nat → List Char → List Char
  | _, [] => done
  | skip + 1, _ :: rest => replaceOnto inAttribute done skip rest
  | 0, '&' :: rest =>
    match reference? inAttribute rest with
    | some (text, behind) =>
      replaceOnto inAttribute (text.reverse ++ done) (rest.length - behind.length) rest
    | none => replaceOnto inAttribute ('&' :: done) 0 rest
  | 0, c :: rest => replaceOnto inAttribute (c :: done) 0 rest

def replaceReferences (inAttribute : Bool) (cs : List Char) : List Char :=
  (replaceOnto inAttribute [] 0 cs).reverse

end PageScheme.Markup
