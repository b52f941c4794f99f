import PageScheme.Text.Letter

/-!
# UTF-8

`first` says what a byte sequence starts with: a character, a surrogate in the form that other
characters of its range have, or a fault and the bytes to blame for it. The bytes to blame are the
longest start of a character that is there. The readers differ only in what they make of that:
`decode?` refuses every fault, and `decodeLossy` writes a replacement character for every byte that
is part of no character.
-/
namespace PageScheme.Utf8

inductive Start
  | char (code length : Nat)
  | surrogate (code : Nat)
  | badStart
  | badContinuation (length : Nat)
  | cutShort
  deriving DecidableEq, Repr

def isContinuation (b : UInt8) : Bool := 0x80 ≤ b && b < 0xC0

def payload (b : UInt8) : Nat := b.toNat % 0x40

/-- Whether a second byte is one of those its first byte allows; the first byte excludes overlong
forms, surrogates and numbers beyond the last code point. -/
def secondAllowed (lead second : UInt8) : Bool :=
  isContinuation second &&
    if lead == 0xE0 then 0xA0 ≤ second
    else if lead == 0xED then second < 0xA0
    else if lead == 0xF0 then 0x90 ≤ second
    else if lead == 0xF4 then second < 0x90
    else true

def startOfTwo (lead : UInt8) : List UInt8 → Start
  | [] => .cutShort
  | second :: _ =>
    if isContinuation second then .char ((lead.toNat - 0xC0) * 0x40 + payload second) 2
    else .badContinuation 1

def startOfThree (lead : UInt8) : List UInt8 → Start
  | [] => .cutShort
  | [second] => if secondAllowed lead second then .cutShort else .badContinuation 1
  | second :: third :: _ =>
    let code := (lead.toNat - 0xE0) * 0x1000 + payload second * 0x40 + payload third
    if secondAllowed lead second then
      if isContinuation third then .char code 3 else .badContinuation 2
    -- Three bytes that would be a character, if surrogates were.
    else if lead == 0xED && isContinuation second && isContinuation third then .surrogate code
    else .badContinuation 1

def startOfFour (lead : UInt8) : List UInt8 → Start
  | [] => .cutShort
  | second :: rest =>
    if secondAllowed lead second then
      match rest with
      | [] => .cutShort
      | third :: rest =>
        if isContinuation third then
          match rest with
          | [] => .cutShort
          | fourth :: _ =>
            if isContinuation fourth then
              .char ((lead.toNat - 0xF0) * 0x40000 + payload second * 0x1000 +
                payload third * 0x40 + payload fourth) 4
            else .badContinuation 3
        else .badContinuation 2
    else .badContinuation 1

def first (lead : UInt8) (rest : List UInt8) : Start :=
  if lead < 0x80 then .char lead.toNat 1
  -- Up to here there are continuations, and starts of overlong forms.
  else if lead < 0xC2 then .badStart
  else if lead < 0xE0 then startOfTwo lead rest
  else if lead < 0xF0 then startOfThree lead rest
  else if lead < 0xF5 then startOfFour lead rest
  else .badStart

/-- Reads bytes into characters, in reverse; `skip` bytes still belong to the character before. -/
def decodeOnto (done : List Char) : Nat → List UInt8 → Except (List UInt8) (List Char)
  | _, [] => .ok done
  | skip + 1, _ :: rest => decodeOnto done skip rest
  | 0, lead :: rest =>
    match first lead rest with
    | .char code length => decodeOnto (Char.ofNat code :: done) (length - 1) rest
    | _ => .error (lead :: rest)

/-- The text of a well-formed byte sequence; a fault is given with all bytes from it on. -/
def decode? (bytes : List UInt8) : Except (List UInt8) String :=
  (decodeOnto [] 0 bytes).map fun cs => String.ofList cs.reverse

/-- Reads bytes into characters, in reverse, a replacement character for each byte at which no
character starts. -/
def decodeLossyOnto (done : List Char) : Nat → List UInt8 → List Char
  | _, [] => done
  | skip + 1, _ :: rest => decodeLossyOnto done skip rest
  | 0, lead :: rest =>
    match first lead rest with
    | .char code length => decodeLossyOnto (Char.ofNat code :: done) (length - 1) rest
    | _ => decodeLossyOnto ('\uFFFD' :: done) 0 rest

/-- The characters of a byte sequence, a replacement character for each byte that is part of
none. -/
def decodeLossy (bytes : List UInt8) : List Char := (decodeLossyOnto [] 0 bytes).reverse

def encodeCode (n : Nat) : List UInt8 :=
  if n < 0x80 then [n.toUInt8]
  else if n < 0x800 then [(0xC0 + n / 0x40).toUInt8, (0x80 + n % 0x40).toUInt8]
  else if n < 0x10000 then
    [(0xE0 + n / 0x1000).toUInt8, (0x80 + n / 0x40 % 0x40).toUInt8, (0x80 + n % 0x40).toUInt8]
  else
    [(0xF0 + n / 0x40000).toUInt8, (0x80 + n / 0x1000 % 0x40).toUInt8,
      (0x80 + n / 0x40 % 0x40).toUInt8, (0x80 + n % 0x40).toUInt8]

def encode (s : String) : List UInt8 := s.toList.flatMap fun c => encodeCode c.toNat

end PageScheme.Utf8
