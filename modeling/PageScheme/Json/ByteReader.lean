import PageScheme.Json.Numeral
import PageScheme.Json.Encoding

/-!
# Reading bytes

The second reader of JSON takes the bytes of a text. It sees the same values as the reader of
letters, except that a surrogate must come with its other half, and that containers nest at most
`depthLimit` deep. Its diagnostics count lines and bytes.

A fault is recorded with the number of bytes that were left, which fixes its place.
-/
namespace PageScheme.Json

inductive Malformed.Cause
  | endInValue
  | endInArray
  | endInObject
  | endInString
  | value
  | word
  | number
  | numberTooLong
  | trailingComma
  | trailingCharacters
  | commaOrBracket
  | commaOrBrace
  | colon
  | key
  | escape
  | halfEscape
  | loneSurrogate
  | controlCharacter
  | codePoint
  | depth
  deriving DecidableEq, Repr

/-- A fault and how many bytes were left at its place. -/
structure Malformed where
  cause : Malformed.Cause
  left : Nat
  deriving DecidableEq, Repr

def Malformed.Cause.text : Malformed.Cause → String
  | endInValue => "EOF while parsing a value"
  | endInArray => "EOF while parsing a list"
  | endInObject => "EOF while parsing an object"
  | endInString => "EOF while parsing a string"
  | value => "expected value"
  | word => "expected ident"
  | number => "invalid number"
  | numberTooLong => "number out of range"
  | trailingComma => "trailing comma"
  | trailingCharacters => "trailing characters"
  | commaOrBracket => "expected \x60,\x60 or \x60]\x60"
  | commaOrBrace => "expected \x60,\x60 or \x60\x7d\x60"
  | colon => "expected \x60:\x60"
  | key => "key must be a string"
  | escape => "invalid escape"
  | halfEscape => "unexpected end of hex escape"
  | loneSurrogate => "lone leading surrogate in hex escape"
  | controlCharacter => "control character (\\u0000-\\u001F) found while parsing a string"
  | codePoint => "invalid unicode code point"
  | depth => "recursion limit exceeded"

/-- The line and the column of a place. A line feed counts as the start of its next line, and the
end of the bytes as the last byte. -/
def placeOf (bytes : List UInt8) (index : Nat) : Nat × Nat :=
  let seen := bytes.take (index + 1)
  (seen.count 0x0A + 1, (seen.reverse.takeWhile (· != 0x0A)).length)

def Malformed.message (fault : Malformed) (bytes : List UInt8) : String :=
  let (line, column) := placeOf bytes (bytes.length - fault.left)
  fault.cause.text ++ " at line " ++ line.repr ++ " column " ++ column.repr

namespace ByteReader

def depthLimit : Nat := 200

def fail {α : Type} (cause : Malformed.Cause) (left : Nat) : Except Malformed α :=
  .error ⟨cause, left⟩

/-- Fails at the byte that is next; at the end of the bytes, with the fault that belongs there. -/
def failAt {α : Type} (atEnd here : Malformed.Cause) (rest : List UInt8) : Except Malformed α :=
  fail (if rest.isEmpty then atEnd else here) rest.length

def skipSpace (bytes : List UInt8) : List UInt8 := bytes.dropWhile fun b => isSpace b.toNat

def expectWord (value : Json) : List UInt8 → List UInt8 → Except Malformed (Json × List UInt8)
  | [], rest => .ok (value, rest)
  | expected :: word, b :: rest =>
    if b = expected then expectWord value word rest else fail .word (rest.length + 1)
  | _ :: _, [] => fail .endInValue 0

def readWord (value : Json) (word : String) (rest : List UInt8) :
    Except Malformed (Json × List UInt8) :=
  expectWord value (Utf8.encode word) rest

def takeDigits (done : List Nat) : List UInt8 → List Nat × List UInt8
  | [] => (done.reverse, [])
  | b :: rest =>
    match Text.digit? b.toNat with
    | some d => takeDigits (d :: done) rest
    | none => (done.reverse, b :: rest)

def readDigits (bytes : List UInt8) : Except Malformed (List Nat × List UInt8) :=
  match takeDigits [] bytes with
  | ([], rest) => failAt .endInValue .number rest
  | taken => .ok taken

def takeSign : List UInt8 → Bool × List UInt8
  | 0x2D :: rest => (true, rest)
  | 0x2B :: rest => (false, rest)
  | rest => (false, rest)

def readFraction : List UInt8 → Except Malformed (Option (List Nat) × List UInt8)
  | 0x2E :: rest => do
    let (digits, rest) ← readDigits rest
    return (some digits, rest)
  | rest => .ok (none, rest)

def readExponent : List UInt8 → Except Malformed (Option (Bool × List Nat) × List UInt8)
  | b :: rest =>
    if b = 0x65 ∨ b = 0x45 then do
      let (negative, rest) := takeSign rest
      let (digits, rest) ← readDigits rest
      return (some (negative, digits), rest)
    else .ok (none, b :: rest)
  | [] => .ok (none, [])

/-- The whole digits of a number: nothing follows a zero. -/
def readWhole : List UInt8 → Except Malformed (List Nat × List UInt8)
  | 0x30 :: rest =>
    match takeDigits [] rest with
    | ([], _) => .ok ([0], rest)
    | _ => fail .number rest.length
  | bytes => readDigits bytes

/-- A number from behind its sign; `start` bytes were left there. -/
def readUnsigned (negative : Bool) (start : Nat) (bytes : List UInt8) :
    Except Malformed (Json × List UInt8) := do
  let (whole, rest) ← readWhole bytes
  -- The limit counts the whole digits alone; a fraction may be as long as it likes.
  if digitLimit < start - rest.length then fail .numberTooLong (start - (digitLimit + 1))
  else
    let (fraction, rest) ← readFraction rest
    let (exponent, rest) ← readExponent rest
    let (down, shift) := exponent.getD (false, [])
    let numeral : Numeral :=
      ⟨negative, whole, fraction.getD [], down, shift, fraction.isSome || exponent.isSome⟩
    return (numeral.value, rest)

def readNumber (bytes : List UInt8) : Except Malformed (Json × List UInt8) :=
  match bytes with
  | 0x4E :: rest => readWord (.float .nan) "aN" rest
  | 0x49 :: rest => readWord (.float (.infinite false)) "nfinity" rest
  -- Behind a minus only the infinity is a word; every other number goes on with digits.
  | 0x2D :: 0x49 :: rest => readWord (.float (.infinite true)) "nfinity" rest
  | 0x2D :: rest => readUnsigned true rest.length rest
  | bytes => readUnsigned false bytes.length bytes

def readHex : List UInt8 → Except Malformed (Nat × List UInt8)
  | a :: b :: c :: d :: rest =>
    -- The fault stands at the first digit that is none.
    if (Text.hexDigit? a.toNat).isNone then fail .escape (rest.length + 4)
    else if (Text.hexDigit? b.toNat).isNone then fail .escape (rest.length + 3)
    else if (Text.hexDigit? c.toNat).isNone then fail .escape (rest.length + 2)
    else
      match hexNumber? a.toNat b.toNat c.toNat d.toNat with
      | some n => .ok (n, rest)
      | none => fail .escape (rest.length + 1)
  | _ => fail .endInString 0

def readLowHalf (high : Nat) : List UInt8 → Except Malformed (Nat × List UInt8)
  | 0x5C :: 0x75 :: rest => do
    let (low, rest) ← readHex rest
    if isLowSurrogate low then return (pairCode high low, rest)
    else fail .loneSurrogate (rest.length + 1)
  | [] => fail .endInString 0
  | [0x5C] => fail .endInString 0
  | 0x5C :: rest => fail .halfEscape rest.length
  | rest => fail .halfEscape rest.length

/-- The code point of an escape, from behind its letter. -/
def readEscape (bytes : List UInt8) : Except Malformed (Nat × List UInt8) := do
  let (n, rest) ← readHex bytes
  -- A first half needs a second one right behind it.
  if isLowSurrogate n then fail .loneSurrogate (rest.length + 1)
  else if isHighSurrogate n then readLowHalf n rest
  else return (n, rest)

theorem length_of_readHex {bytes rest : List UInt8} {n : Nat}
    (read : readHex bytes = .ok (n, rest)) : rest.length < bytes.length := by
  unfold readHex at read
  split at read
  · split at read
    · cases read
    · split at read
      · cases read
      · split at read
        · cases read
        · split at read
          · cases read; simp; omega
          · cases read
  · cases read

theorem length_of_readLowHalf {bytes rest : List UInt8} {high n : Nat}
    (read : readLowHalf high bytes = .ok (n, rest)) : rest.length < bytes.length := by
  unfold readLowHalf at read
  split at read
  · next tail =>
    cases half : readHex tail with
    | error fault => simp [half, bind, Except.bind] at read
    | ok found =>
      have shorter := length_of_readHex half
      simp only [half, bind, Except.bind] at read
      split at read
      · simp only [pure, Except.pure, Except.ok.injEq, Prod.mk.injEq] at read
        obtain ⟨-, rfl⟩ := read
        simp only [List.length_cons]
        omega
      · cases read
  all_goals cases read

theorem length_of_readEscape {bytes rest : List UInt8} {n : Nat}
    (read : readEscape bytes = .ok (n, rest)) : rest.length < bytes.length := by
  unfold readEscape at read
  cases first : readHex bytes with
  | error fault => simp [first, bind, Except.bind] at read
  | ok found =>
    have shorter := length_of_readHex first
    simp only [first, bind, Except.bind] at read
    split at read
    · cases read
    · split at read
      · have := length_of_readLowHalf read; omega
      · cases read; exact shorter

def stringOf (start : Nat) (done : List UInt8) : Except Malformed String :=
  let content := done.reverse
  match Utf8.decode? content with
  | .ok s => .ok s
  | .error fault => fail .codePoint (start - (content.length - fault.length))

/-- The rest of a string after its opening quotation mark; `done` holds the bytes it stands for, in
reverse. -/
def readString (start : Nat) (done : List UInt8) :
    List UInt8 → Except Malformed (String × List UInt8)
  | [] => fail .endInString 0
  | b :: rest =>
    if b = 0x22 then (stringOf start done).map fun s => (s, rest)
    else if b = 0x5C then
      match rest with
      | [] => fail .endInString 0
      | letter :: rest =>
        if letter = 0x75 then
          match escape : readEscape rest with
          | .error fault => .error fault
          | .ok (code, after) =>
            have := length_of_readEscape escape
            readString start ((Utf8.encodeCode code).reverse ++ done) after
        else
          match simpleEscape? letter.toNat with
          | some c => readString start (c.toNat.toUInt8 :: done) rest
          | none => fail .escape (rest.length + 1)
    else if b < 0x20 then fail .controlCharacter (rest.length + 1)
    else readString start (b :: done) rest
termination_by bytes => bytes.length

mutual

/-- The value at the front, and the rest; `room` more containers may be opened. -/
def readValue : Nat → Nat → List UInt8 → Except Malformed (Json × List UInt8)
  | 0, _, bytes => fail .endInValue bytes.length
  | fuel + 1, room, bytes =>
    match bytes with
    | [] => fail .endInValue 0
    | 0x22 :: rest => do
      let (content, rest) ← readString rest.length [] rest
      return (.ofString content, rest)
    | 0x5B :: rest =>
      match skipSpace rest with
      | [] => fail .endInArray 0
      | 0x5D :: rest => .ok (.array [], rest)
      | rest =>
        match room with
        | 0 => fail .depth rest.length
        | room + 1 => readItems fuel room [] rest
    | 0x7B :: rest =>
      match skipSpace rest with
      | [] => fail .endInObject 0
      | 0x7D :: rest => .ok (.object [], rest)
      | rest => readMembers fuel room [] rest
    | 0x6E :: rest => readWord .null "ull" rest
    | 0x74 :: rest => readWord (.bool true) "rue" rest
    | 0x66 :: rest => readWord (.bool false) "alse" rest
    | b :: rest =>
      if (Text.digit? b.toNat).isSome || b == 0x2D || b == 0x49 || b == 0x4E then
        readNumber (b :: rest)
      else fail .value (rest.length + 1)
termination_by structural fuel => fuel

def readItems : Nat → Nat → List Json → List UInt8 → Except Malformed (Json × List UInt8)
  | 0, _, _, bytes => fail .endInValue bytes.length
  | fuel + 1, room, done, bytes => do
    let (item, rest) ← readValue fuel room bytes
    match skipSpace rest with
    | 0x5D :: rest => .ok (.array (item :: done).reverse, rest)
    | 0x2C :: rest =>
      match skipSpace rest with
      | 0x5D :: rest => fail .trailingComma (rest.length + 1)
      | rest => readItems fuel room (item :: done) rest
    | rest => failAt .endInArray .commaOrBracket rest
termination_by structural fuel => fuel

def readMembers : Nat → Nat → List (Text × Json) → List UInt8 →
    Except Malformed (Json × List UInt8)
  | 0, _, _, bytes => fail .endInValue bytes.length
  | fuel + 1, room, done, bytes =>
    match bytes with
    | 0x22 :: rest => do
      let (key, rest) ← readString rest.length [] rest
      match skipSpace rest with
      | 0x3A :: rest =>
        let rest := skipSpace rest
        match room with
        | 0 => fail .depth rest.length
        | deeper + 1 =>
          let (value, rest) ← readValue fuel deeper rest
          let done := put (.ofString key) value done
          match skipSpace rest with
          | 0x7D :: rest => .ok (.object done, rest)
          | 0x2C :: rest =>
            match skipSpace rest with
            | 0x7D :: rest => fail .trailingComma (rest.length + 1)
            | rest => readMembers fuel room done rest
          | rest => failAt .endInObject .commaOrBrace rest
      | rest => failAt .endInObject .colon rest
    | rest => failAt .endInValue .key rest
termination_by structural fuel => fuel

end

end ByteReader

open ByteReader in
/-- The value that bytes hold. Every value takes up at least one byte, which bounds the steps of the
reading. -/
def readBytes (bytes : List UInt8) : Except Malformed Json := do
  let (value, rest) ← readValue (2 * bytes.length + 2) depthLimit (skipSpace bytes)
  match skipSpace rest with
  | [] => return value
  | rest => fail .trailingCharacters rest.length

end PageScheme.Json
