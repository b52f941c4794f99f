import PageScheme.Json.Encoding
import PageScheme.Markup.CodePage
import PageScheme.Markup.Token

/-!
# The encoding of a page

A byte order mark decides on the encoding of a page, and so do the zero bytes in the first character
of one that begins with a mark-up declaration; a page of less than four bytes has neither. A page
that begins like an XML document is UTF-8. Otherwise the page may declare its encoding in an element
before its first byte outside ASCII. Failing that a declaration further on is looked for, and
without one the page is Latin-1.

In UTF-8 every byte that is part of no character gives a replacement character. In all other
encodings the page ends where the bytes are no character.
-/
namespace PageScheme.Markup

inductive Charset
  | utf8
  | utf16 (bigEndian : Bool)
  | utf32 (bigEndian : Bool)
  | ascii
  | latin1
  | codePage (page : CodePage)

namespace Charset

/-- Names of UTF-8; a page that can be read far enough to find its declaration is not UTF-16. -/
def utf8Names : List String := ["utf-8", "utf8", "utf-16", "utf-16le", "utf-16be"]

def asciiNames : List String :=
  ["us-ascii", "ascii", "us", "iso646-us", "iso_646.irv:1991", "iso-ir-6", "ansi_x3.4-1968",
    "ansi_x3.4-1986", "cp367", "ibm367", "csascii"]

def latin1Names : List String :=
  ["iso-8859-1", "iso_8859-1", "iso8859-1", "iso_8859-1:1987", "iso-ir-100", "latin1", "l1",
    "iso-latin-1", "iso latin 1", "cp819", "ibm819", "csisolatin1"]

def ofName? (name : String) : Option Charset :=
  if utf8Names.contains name then some utf8
  else if asciiNames.contains name then some ascii
  else if latin1Names.contains name then some latin1
  else (CodePage.ofName? name).map codePage

end Charset

/-- The text behind the first place where a pattern stands, capitals aside. -/
def behind (pattern : List Char) : List Char → Option (List Char)
  | [] => none
  | c :: rest =>
    if startsWith pattern (c :: rest) then some ((c :: rest).drop pattern.length)
    else behind pattern rest

def isCharsetChar (c : Char) : Bool := c.isAlphanum || c = '-' || c = '_' || c = ':' || c = '/'

def charsetOfType (content : List Char) : Option Charset :=
  match behind "charset".toList content with
  | none => none
  | some rest =>
    match rest.dropWhile isSpace with
    | '=' :: rest =>
      let name := (rest.dropWhile fun c => isSpace c || c = '"' || c = '\'').takeWhile fun c =>
        !(isSpace c || c = ';' || c = '"' || c = '\'')
      Charset.ofName? (lowerName name)
    | _ => none

def valueOf (name : String) (attributes : List Attribute) : Option String :=
  (attributes.find? fun a => a.name = name).bind Attribute.value

def charsetOfAttributes (attributes : List Attribute) : Option Charset :=
  match (valueOf "charset" attributes).bind fun name =>
      Charset.ofName? (lowerName (name.toList.filter fun c => !isSpace c)) with
  | some charset => some charset
  | none =>
    match valueOf "http-equiv" attributes, valueOf "content" attributes with
    | some kind, some content =>
      if lowerName kind.toList = "content-type" then charsetOfType content.toList else none
    | _, _ => none

def charsetOfTokens (tokens : List Token) : Option Charset :=
  tokens.findSome? fun
    | .start "meta" attributes _ => charsetOfAttributes attributes
    | _ => none

/-- The encoding named somewhere in a text by a declaration that is only looked for. What has a name
that is not known is read as UTF-8. -/
def charsetFurtherOn (cs : List Char) : Option Charset := do
  let rest ← behind "http-equiv".toList cs
  let rest ← behind "content".toList rest
  let rest ← behind "charset=".toList rest
  match rest.takeWhile isCharsetChar with
  | [] => none
  | name => some ((Charset.ofName? (lowerName name)).getD .utf8)

def byteChar (b : UInt8) : Char := Char.ofNat b.toNat

def declaredCharset (bytes : List UInt8) : Charset :=
  let (ascii, rest) := bytes.span fun b => b < 0x80
  let declared :=
    if startsWith "<?xm".toList (ascii.map byteChar) then some .utf8
    else charsetOfTokens (scan (ascii.map byteChar))
  (declared.orElse fun _ => charsetFurtherOn (rest.map byteChar)).getD .latin1

/-- The encoding that the first four bytes of a page give away, and the bytes behind a mark. -/
def markedCharset : List UInt8 → Option (Charset × List UInt8)
  | 0xFF :: 0xFE :: 0x00 :: 0x00 :: rest => some (.utf32 false, rest)
  | 0x00 :: 0x00 :: 0xFE :: 0xFF :: rest => some (.utf32 true, rest)
  | 0xEF :: 0xBB :: 0xBF :: b :: rest => some (.utf8, b :: rest)
  | 0xFE :: 0xFF :: a :: b :: rest => some (.utf16 true, a :: b :: rest)
  | 0xFF :: 0xFE :: a :: b :: rest => some (.utf16 false, a :: b :: rest)
  | 0x00 :: 0x3C :: 0x00 :: 0x3F :: rest => some (.utf16 true, 0x00 :: 0x3C :: 0x00 :: 0x3F :: rest)
  | 0x3C :: 0x00 :: 0x3F :: 0x00 :: rest =>
    some (.utf16 false, 0x3C :: 0x00 :: 0x3F :: 0x00 :: rest)
  | 0x00 :: 0x00 :: 0x00 :: 0x3C :: rest => some (.utf32 true, 0x00 :: 0x00 :: 0x00 :: 0x3C :: rest)
  | 0x3C :: 0x00 :: 0x00 :: 0x00 :: rest =>
    some (.utf32 false, 0x3C :: 0x00 :: 0x00 :: 0x00 :: rest)
  | _ => none

def charsetOf (bytes : List UInt8) : Charset × List UInt8 :=
  (markedCharset bytes).getD (declaredCharset bytes, bytes)

/-- The characters up to the first letter that is none. -/
def charsUpTo (t : Text) : List Char :=
  ((t.map Letter.char?).takeWhile Option.isSome).filterMap id

/-- The units of two bytes; a last byte alone is no unit. -/
def unitsOf (bigEndian : Bool) : List UInt8 → List Nat
  | a :: b :: rest => Json.unit16 bigEndian a b :: unitsOf bigEndian rest
  | _ => []

/-- The characters of units of four bytes up to the first unit that is none. -/
def wideChars (bigEndian : Bool) : List UInt8 → List Char
  | a :: b :: c :: d :: rest =>
    let code := Json.unit32 bigEndian a b c d
    if code < 0x110000 && !(0xD800 ≤ code && code < 0xE000) then
      Char.ofNat code :: wideChars bigEndian rest
    else []
  | _ => []

def decodePage (bytes : List UInt8) : List Char :=
  match charsetOf bytes with
  | (.utf8, bytes) => Utf8.decodeLossy bytes
  | (.utf16 bigEndian, bytes) => charsUpTo (Json.joinPairs [] (unitsOf bigEndian bytes)).reverse
  | (.utf32 bigEndian, bytes) => wideChars bigEndian bytes
  | (.ascii, bytes) => (bytes.takeWhile (· < 0x80)).map byteChar
  | (.latin1, bytes) => bytes.map byteChar
  | (.codePage page, bytes) => page.decode bytes

end PageScheme.Markup
