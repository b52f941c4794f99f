import PageScheme.Text.Utf8
import PageScheme.Json.Display

/-!
# The encoding of a JSON document

The bytes of a document are UTF-8, UTF-16 or UTF-32. A byte order mark decides; without one the
zero bytes among the first four do, since a document starts with two ASCII characters. Lone
surrogates are let through in all three. Any other fault ends the reading, with the place of the
bytes to blame.
-/
namespace PageScheme.Json

inductive Encoding
  | utf8
  | utf16 (bigEndian : Bool)
  | utf32 (bigEndian : Bool)
  deriving DecidableEq, Repr

namespace Encoding

def name : Encoding → String
  | utf8 => "utf-8"
  | utf16 true => "utf-16-be"
  | utf16 false => "utf-16-le"
  | utf32 true => "utf-32-be"
  | utf32 false => "utf-32-le"

/-- The encoding of a document without byte order mark. -/
def guess : List UInt8 → Encoding
  | 0 :: 0 :: _ :: _ :: _ => utf32 true
  | 0 :: _ :: _ :: _ :: _ => utf16 true
  | _ :: 0 :: 0 :: 0 :: _ => utf32 false
  | _ :: 0 :: _ :: _ :: _ => utf16 false
  | [0, _] => utf16 true
  | [_, 0] => utf16 false
  | _ => utf8

def detect : List UInt8 → Encoding × List UInt8
  | 0x00 :: 0x00 :: 0xFE :: 0xFF :: rest => (utf32 true, rest)
  | 0xFF :: 0xFE :: 0x00 :: 0x00 :: rest => (utf32 false, rest)
  | 0xFE :: 0xFF :: rest => (utf16 true, rest)
  | 0xFF :: 0xFE :: rest => (utf16 false, rest)
  | 0xEF :: 0xBB :: 0xBF :: rest => (utf8, rest)
  | bytes => (guess bytes, bytes)

/-- How many bytes the byte order mark takes up in the positions that are reported. -/
def markLength : Encoding → Nat
  | utf8 => 0
  | utf16 _ => 2
  | utf32 _ => 4

end Encoding

inductive Undecodable.Reason
  | startByte
  | continuationByte
  | endOfData
  | truncated
  | outOfRange
  deriving DecidableEq, Repr

def Undecodable.Reason.text : Undecodable.Reason → String
  | startByte => "invalid start byte"
  | continuationByte => "invalid continuation byte"
  | endOfData => "unexpected end of data"
  | truncated => "truncated data"
  | outOfRange => "code point not in range(0x110000)"

/-- Bytes that cannot be read: from position `start`, `length` of them, the first one being
`byte`. -/
structure Undecodable where
  encoding : Encoding
  start : Nat
  length : Nat
  byte : UInt8
  reason : Undecodable.Reason
  deriving DecidableEq, Repr

def Undecodable.message (u : Undecodable) : String :=
  let place :=
    if u.length = 1 then
      "byte 0x" ++ String.ofList (Text.hexDigits 2 u.byte.toNat) ++ " in position " ++ u.start.repr
    else "bytes in position " ++ u.start.repr ++ "-" ++ (u.start + u.length - 1).repr
  "'" ++ u.encoding.name ++ "' codec can't decode " ++ place ++ ": " ++ u.reason.text

/-- Reads UTF-8 into letters, in reverse. -/
def decodeUtf8 (done : Text) (position : Nat) : Nat → List UInt8 → Except Undecodable Text
  | _, [] => .ok done
  | skip + 1, _ :: rest => decodeUtf8 done (position + 1) skip rest
  | 0, lead :: rest =>
    match Utf8.first lead rest with
    | .char code length =>
      decodeUtf8 (.scalar (Char.ofNat code) :: done) (position + 1) (length - 1) rest
    -- The document may hold a lone surrogate, written as if it were a character.
    | .surrogate code => decodeUtf8 (.ofCode code :: done) (position + 1) 2 rest
    | .badStart => .error ⟨.utf8, position, 1, lead, .startByte⟩
    | .badContinuation length => .error ⟨.utf8, position, length, lead, .continuationByte⟩
    | .cutShort => .error ⟨.utf8, position, rest.length + 1, lead, .endOfData⟩

def unit16 (bigEndian : Bool) (a b : UInt8) : Nat :=
  if bigEndian then a.toNat * 0x100 + b.toNat else b.toNat * 0x100 + a.toNat

def unit32 (bigEndian : Bool) (a b c d : UInt8) : Nat :=
  if bigEndian then unit16 true a b * 0x10000 + unit16 true c d
  else unit16 false c d * 0x10000 + unit16 false a b

def isHighSurrogate (n : Nat) : Bool := 0xD800 ≤ n && n < 0xDC00
def isLowSurrogate (n : Nat) : Bool := 0xDC00 ≤ n && n < 0xE000

def pairCode (high low : Nat) : Nat := 0x10000 + (high - 0xD800) * 0x400 + (low - 0xDC00)

def units16 (bigEndian : Bool) (done : List Nat) (position : Nat) :
    List UInt8 → Except Undecodable (List Nat)
  | [] => .ok done
  | [a] => .error ⟨.utf16 bigEndian, position, 1, a, .truncated⟩
  | a :: b :: rest => units16 bigEndian (unit16 bigEndian a b :: done) (position + 2) rest

/-- Joins the surrogate pairs of a sequence of units; `done` is in reverse. -/
def joinPairs (done : Text) : List Nat → Text
  | [] => done
  | [n] => .ofCode n :: done
  | high :: low :: rest =>
    if isHighSurrogate high && isLowSurrogate low then
      joinPairs (.ofCode (pairCode high low) :: done) rest
    else joinPairs (.ofCode high :: done) (low :: rest)

def decodeUtf32 (bigEndian : Bool) (done : Text) (position : Nat) :
    List UInt8 → Except Undecodable Text
  | [] => .ok done
  | a :: b :: c :: d :: rest =>
    let code := unit32 bigEndian a b c d
    if code < 0x110000 then decodeUtf32 bigEndian (.ofCode code :: done) (position + 4) rest
    else .error ⟨.utf32 bigEndian, position, 4, a, .outOfRange⟩
  | a :: rest => .error ⟨.utf32 bigEndian, position, rest.length + 1, a, .truncated⟩

def decode (bytes : List UInt8) : Except Undecodable Text :=
  let (encoding, content) := Encoding.detect bytes
  let start := if content.length < bytes.length then encoding.markLength else 0
  match encoding with
  | .utf8 => (decodeUtf8 [] start 0 content).map List.reverse
  | .utf16 bigEndian =>
    (units16 bigEndian [] start content).map fun units => (joinPairs [] units.reverse).reverse
  | .utf32 bigEndian => (decodeUtf32 bigEndian [] start content).map List.reverse

end PageScheme.Json
