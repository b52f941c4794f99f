import PageScheme.Json.Encoding
import PageScheme.Json.Numeral

/-!
# JSON texts

A value can be written in many ways: blanks may stand between the parts of it, a character of a
string by itself or as an escape, the digits of an escape in either case, a number with or without a
fraction and an exponent. A `Writing` is one of these ways. It has a text and a value, so that a
JSON text of a value is the text of a writing with this value.

In a string, the escapes of the two halves of a surrogate pair stand for one character. Every other
half stands for itself.
-/
namespace PageScheme.Json

/-! ### Blanks -/

inductive Blank
  | space
  | tab
  | lineFeed
  | carriageReturn

def Blank.letter : Blank → Letter
  | space => .scalar ' '
  | tab => .scalar '\t'
  | lineFeed => .scalar '\n'
  | carriageReturn => .scalar '\r'

def blankText (blanks : List Blank) : Text := blanks.map Blank.letter

/-! ### Strings -/

structure HexDigit where
  value : Fin 16
  capital : Bool

def HexDigit.char (digit : HexDigit) : Char :=
  if digit.capital then (Nat.digitChar digit.value).toUpper else Nat.digitChar digit.value

/-- The escape of a UTF-16 unit. -/
structure UnitEscape where
  first : HexDigit
  second : HexDigit
  third : HexDigit
  fourth : HexDigit

namespace UnitEscape

def code (unit : UnitEscape) : Nat :=
  ((unit.first.value * 16 + unit.second.value) * 16 + unit.third.value) * 16 + unit.fourth.value

def digits (unit : UnitEscape) : List Char :=
  [unit.first.char, unit.second.char, unit.third.char, unit.fourth.char]

def chars (unit : UnitEscape) : List Char := '\\' :: 'u' :: unit.digits

end UnitEscape

/-- The escapes by a letter. -/
inductive ShortEscape
  | quotationMark
  | stroke
  | slash
  | backspace
  | formFeed
  | lineFeed
  | carriageReturn
  | tab

def ShortEscape.mark : ShortEscape → Char
  | quotationMark => '"'
  | stroke => '\\'
  | slash => '/'
  | backspace => 'b'
  | formFeed => 'f'
  | lineFeed => 'n'
  | carriageReturn => 'r'
  | tab => 't'

def ShortEscape.char : ShortEscape → Char
  | quotationMark => '"'
  | stroke => '\\'
  | slash => '/'
  | backspace => '\x08'
  | formFeed => '\x0c'
  | lineFeed => '\n'
  | carriageReturn => '\r'
  | tab => '\t'

/-- A letter that may stand in a string as it is. -/
structure IsLiteral (letter : Letter) : Prop where
  visible : 0x20 ≤ letter.code
  not_mark : letter ≠ .scalar '"'
  not_stroke : letter ≠ .scalar '\\'

/-- One of the pieces that a string is written with. -/
inductive Glyph
  | literal (letter : Letter) (is_literal : IsLiteral letter)
  | short (escape : ShortEscape)
  | unit (escape : UnitEscape)

def Glyph.text : Glyph → Text
  | literal letter _ => [letter]
  | short escape => [.scalar '\\', .scalar escape.mark]
  | unit escape => escape.chars.map .scalar

/-- A string as it is written, from behind its opening quotation mark. -/
def glyphText (glyphs : List Glyph) : Text := glyphs.flatMap Glyph.text ++ [.scalar '"']

/-- What a string stands for. -/
def lettersOf : List Glyph → Text
  | [] => []
  | .literal letter _ :: rest => letter :: lettersOf rest
  | .short escape :: rest => .scalar escape.char :: lettersOf rest
  | .unit high :: .unit low :: rest =>
    if isHighSurrogate high.code && isLowSurrogate low.code then
      .ofCode (pairCode high.code low.code) :: lettersOf rest
    else .ofCode high.code :: lettersOf (.unit low :: rest)
  | .unit escape :: rest => .ofCode escape.code :: lettersOf rest

/-! ### Numbers -/

/-- Decimal digits, of which there is at least one. -/
structure Digits where
  first : Fin 10
  others : List (Fin 10)

namespace Digits

def all (digits : Digits) : List (Fin 10) := digits.first :: digits.others

def chars (digits : Digits) : List Char := digits.all.map fun digit => Nat.digitChar digit.val

def values (digits : Digits) : List Nat := digits.all.map Fin.val

end Digits

structure Exponent where
  capital : Bool
  /-- The sign if there is one, and whether it is a minus. -/
  sign : Option Bool
  digits : Digits

namespace Exponent

def signChars (exponent : Exponent) : List Char :=
  exponent.sign.elim [] fun negative => [if negative then '-' else '+']

def chars (exponent : Exponent) : List Char :=
  (if exponent.capital then 'E' else 'e') :: (exponent.signChars ++ exponent.digits.chars)

end Exponent

/-- A number as it is written: nothing follows a leading zero. -/
structure Decimal where
  negative : Bool
  whole : Digits
  fraction : Option Digits
  exponent : Option Exponent
  zero_alone : whole.first = 0 → whole.others = []

namespace Decimal

def fractionChars (decimal : Decimal) : List Char :=
  decimal.fraction.elim [] fun digits => '.' :: digits.chars

def exponentChars (decimal : Decimal) : List Char := decimal.exponent.elim [] Exponent.chars

def chars (decimal : Decimal) : List Char :=
  (if decimal.negative then ['-'] else []) ++
    (decimal.whole.chars ++ (decimal.fractionChars ++ decimal.exponentChars))

def numeral (decimal : Decimal) : Numeral where
  negative := decimal.negative
  whole := decimal.whole.values
  fraction := decimal.fraction.elim [] Digits.values
  exponentNegative := (decimal.exponent.bind Exponent.sign).getD false
  exponent := decimal.exponent.elim [] fun exponent => exponent.digits.values
  isFloat := decimal.fraction.isSome || decimal.exponent.isSome

end Decimal

/-! ### Values -/

/-- A key as it is written, with the blanks on both sides of its colon. -/
structure Key where
  glyphs : List Glyph
  before : List Blank
  after : List Blank

def Key.text (key : Key) : Text :=
  .scalar '"' :: glyphText key.glyphs ++
    (blankText key.before ++ .scalar ':' :: blankText key.after)

mutual

inductive Spelling
  | null
  | bool (value : Bool)
  | number (decimal : Decimal)
  | string (glyphs : List Glyph)
  | emptyArray (inside : List Blank)
  | array (before : List Blank) (items : Items)
  | emptyObject (inside : List Blank)
  | object (before : List Blank) (members : Members)

/-- The items of an array, with the blanks around the commas. -/
inductive Items
  | last (item : Spelling) (after : List Blank)
  | more (item : Spelling) (after before : List Blank) (rest : Items)

/-- The members of an object, with the blanks around the commas. -/
inductive Members
  | last (key : Key) (value : Spelling) (after : List Blank)
  | more (key : Key) (value : Spelling) (after before : List Blank) (rest : Members)

end

mutual

def Spelling.text : Spelling → Text
  | .null => Text.ofString "null"
  | .bool true => Text.ofString "true"
  | .bool false => Text.ofString "false"
  | .number decimal => decimal.chars.map .scalar
  | .string glyphs => .scalar '"' :: glyphText glyphs
  | .emptyArray inside => .scalar '[' :: (blankText inside ++ [.scalar ']'])
  | .array before items => .scalar '[' :: (blankText before ++ (items.text ++ [.scalar ']']))
  | .emptyObject inside => .scalar '\x7b' :: (blankText inside ++ [.scalar '\x7d'])
  | .object before members =>
    .scalar '\x7b' :: (blankText before ++ (members.text ++ [.scalar '\x7d']))

def Items.text : Items → Text
  | .last item after => item.text ++ blankText after
  | .more item after before rest =>
    item.text ++ (blankText after ++ .scalar ',' :: (blankText before ++ rest.text))

def Members.text : Members → Text
  | .last key value after => key.text ++ (value.text ++ blankText after)
  | .more key value after before rest =>
    key.text ++ (value.text ++ (blankText after ++ .scalar ',' :: (blankText before ++ rest.text)))

end

mutual

def Spelling.value : Spelling → Json
  | .null => .null
  | .bool value => .bool value
  | .number decimal => decimal.numeral.value
  | .string glyphs => .string (lettersOf glyphs)
  | .emptyArray _ => .array []
  | .array _ items => .array items.values
  | .emptyObject _ => .object []
  | .object _ members => .object (putAll members.entries)

def Items.values : Items → List Json
  | .last item _ => [item.value]
  | .more item _ _ rest => item.value :: rest.values

/-- The members in the order in which they are written; of several with one key, the last one
counts. -/
def Members.entries : Members → List (Text × Json)
  | .last key value _ => [(lettersOf key.glyphs, value.value)]
  | .more key value _ _ rest => (lettersOf key.glyphs, value.value) :: rest.entries

end

/-! ### What the readers look at -/

/-- What there is in a text: how many containers are open at once, and how many not counting empty
ones, all numbers, and all strings, keys and values. -/
structure Extent where
  opened : Nat := 0
  depth : Nat := 0
  decimals : List Decimal := []
  strings : List (List Glyph) := []

namespace Extent

def beside (first second : Extent) : Extent where
  opened := max first.opened second.opened
  depth := max first.depth second.depth
  decimals := first.decimals ++ second.decimals
  strings := first.strings ++ second.strings

/-- What there is in a container, in a text with the container. -/
def inside (extent : Extent) : Extent :=
  { extent with opened := extent.opened + 1, depth := extent.depth + 1 }

end Extent

def Key.extent (key : Key) : Extent := { strings := [key.glyphs] }

mutual

def Spelling.extent : Spelling → Extent
  | .number decimal => { decimals := [decimal] }
  | .string glyphs => { strings := [glyphs] }
  | .array _ items => items.extent.inside
  | .object _ members => members.extent.inside
  | .emptyArray _ | .emptyObject _ => { opened := 1 }
  | .null | .bool _ => {}

def Items.extent : Items → Extent
  | .last item _ => item.extent
  | .more item _ _ rest => item.extent.beside rest.extent

def Members.extent : Members → Extent
  | .last key value _ => key.extent.beside value.extent
  | .more key value _ _ rest => (key.extent.beside value.extent).beside rest.extent

end

/-- A JSON text: a value with blanks around it. -/
structure Writing where
  before : List Blank
  spelling : Spelling
  after : List Blank

namespace Writing

def text (writing : Writing) : Text :=
  blankText writing.before ++ (writing.spelling.text ++ blankText writing.after)

def value (writing : Writing) : Json := writing.spelling.value

end Writing

end PageScheme.Json
