import PageScheme.Json.Numeral
import PageScheme.Json.Encoding

/-!
# Reading a document

Documents are read letter by letter, and places are counted in letters. A numeral is taken as far as
it goes, so that what cannot belong to it is seen as the letter after a complete value. A surrogate
without its other half is kept. `NaN`, `Infinity` and `-Infinity` are numbers. Only so many arrays
and objects may be open at once, empty ones included.

A fault is recorded with the number of letters that were left, which fixes its place in the text.
-/
namespace PageScheme.Json

inductive Container
  | array
  | object
  deriving DecidableEq, Repr

def Container.name : Container → String
  | array => "array"
  | object => "object"

inductive Misread.Cause
  | value
  | propertyName
  | colon
  | comma
  | extraData
  | unterminatedString
  | controlCharacter
  | escape
  | unicodeEscape
  | byteOrderMark
  | tooManyDigits (count : Nat)
  /-- A container is opened inside as many as there may be. -/
  | tooDeep (container : Container)
  deriving DecidableEq, Repr

/-- A fault and how many letters were left at its place. -/
structure Misread where
  cause : Misread.Cause
  left : Nat
  deriving DecidableEq, Repr

def Misread.Cause.text : Misread.Cause → String
  | value => "Expecting value"
  | propertyName => "Expecting property name enclosed in double quotes"
  | colon => "Expecting ':' delimiter"
  | comma => "Expecting ',' delimiter"
  | extraData => "Extra data"
  | unterminatedString => "Unterminated string starting at"
  | controlCharacter => "Invalid control character at"
  | escape => "Invalid \\escape"
  | unicodeEscape => "Invalid \\uXXXX escape"
  | byteOrderMark => "Unexpected UTF-8 BOM (decode using utf-8-sig)"
  | tooManyDigits count =>
    "Exceeds the limit (4300 digits) for integer string conversion: value has " ++ count.repr ++
      " digits; use sys.set_int_max_str_digits() to increase the limit"
  | tooDeep container =>
    "maximum recursion depth exceeded while decoding a JSON " ++ container.name ++
      " from a unicode string"

/-- Whether the fault is one of grammar; a numeral that is too long is not, nor is a container that
lies too deep. -/
def Misread.Cause.isSyntax : Misread.Cause → Bool
  | tooManyDigits _ | tooDeep _ => false
  | _ => true

def Misread.message (fault : Misread) (document : Text) : String :=
  if fault.cause.isSyntax then
    let position := document.length - fault.left
    let before := document.take position
    let line := before.count (.scalar '\n') + 1
    let column := (before.reverse.takeWhile (· != .scalar '\n')).length + 1
    fault.cause.text ++ ": line " ++ line.repr ++ " column " ++ column.repr ++ " (char " ++
      position.repr ++ ")"
  else fault.cause.text

namespace TextReader

def fail {α : Type} (cause : Misread.Cause) (left : Nat) : Except Misread α := .error ⟨cause, left⟩

def skipSpace (t : Text) : Text := t.dropWhile fun l => isSpace l.code

def takeDigits (done : List Nat) : Text → List Nat × Text
  | [] => (done.reverse, [])
  | l :: rest =>
    match Text.digit? l.code with
    | some d => takeDigits (d :: done) rest
    | none => (done.reverse, l :: rest)

/-- The fraction after whole digits: a point counts only with a digit behind it. -/
def takeFraction : Text → Option (List Nat × Text)
  | .scalar '.' :: rest =>
    match takeDigits [] rest with
    | ([], _) => none
    | taken => some taken
  | _ => none

def takeSign : Text → Bool × Text
  | .scalar '-' :: rest => (true, rest)
  | .scalar '+' :: rest => (false, rest)
  | rest => (false, rest)

/-- The exponent after digits: its letter counts only with a digit behind it. -/
def takeExponent : Text → Option (Bool × List Nat × Text)
  | .scalar c :: rest =>
    if c == 'e' || c == 'E' then
      let (negative, rest) := takeSign rest
      match takeDigits [] rest with
      | ([], _) => none
      | (digits, rest) => some (negative, digits, rest)
    else none
  | _ => none

/-- The whole digits of a numeral: a zero stands alone. -/
def takeWhole : Text → Option (List Nat × Text)
  | .scalar '0' :: rest => some ([0], rest)
  | t =>
    match takeDigits [] t with
    | ([], _) => none
    | taken => some taken

def finishNumeral (negative : Bool) (whole : List Nat) (rest : Text) : Numeral × Text :=
  let (fraction, hasFraction, rest) :=
    match takeFraction rest with
    | some (digits, rest) => (digits, true, rest)
    | none => ([], false, rest)
  match takeExponent rest with
  | some (down, digits, rest) => (⟨negative, whole, fraction, down, digits, true⟩, rest)
  | none => (⟨negative, whole, fraction, false, [], hasFraction⟩, rest)

def takeNumeral (t : Text) : Option (Numeral × Text) :=
  match t with
  | .scalar '-' :: rest => (takeWhole rest).map fun (whole, rest) => finishNumeral true whole rest
  | t => (takeWhole t).map fun (whole, rest) => finishNumeral false whole rest

def readNumber (t : Text) : Except Misread (Json × Text) :=
  match takeNumeral t with
  | none => fail .value t.length
  | some (numeral, rest) =>
    if !numeral.isFloat && digitLimit < numeral.whole.length then
      fail (.tooManyDigits numeral.whole.length) t.length
    else .ok (numeral.value, rest)

/-- The words that are values, longest first where one starts another. -/
def words : List (Text × Json) :=
  [("null", .null), ("true", .bool true), ("false", .bool false), ("NaN", .float .nan),
    ("Infinity", .float (.infinite false)), ("-Infinity", .float (.infinite true))].map
    fun (word, value) => (Text.ofString word, value)

def takeWord (t : Text) : Option (Json × Text) :=
  words.findSome? fun (word, value) => (word.isPrefixOf? t).map fun rest => (value, rest)

/-- The rest of a string after its opening quotation mark; `opening` letters were left at the mark,
`done` holds what has been read, in reverse. The four digits of an escape have to be followed by at
least one more letter. -/
def readString (opening : Nat) (done : Text) : Text → Except Misread (Text × Text)
  | [] => fail .unterminatedString opening
  | .scalar '"' :: rest => .ok (done.reverse, rest)
  | [.scalar '\\'] => fail .unterminatedString opening
  | .scalar '\\' :: .scalar 'u' :: rest =>
    match rest with
    -- Four digits, and at least one letter behind them.
    | a :: b :: c :: d :: next :: after =>
      match hexNumber? a.code b.code c.code d.code with
      | none => fail .unicodeEscape (rest.length + 1)
      | some high =>
        match next, after with
        | .scalar '\\', .scalar 'u' :: e :: f :: g :: h :: last :: beyond =>
          if isHighSurrogate high then
            match hexNumber? e.code f.code g.code h.code with
            | none => fail .unicodeEscape after.length
            | some low =>
              if isLowSurrogate low then
                readString opening (.ofCode (pairCode high low) :: done) (last :: beyond)
              else
                -- The second escape is no other half; it is read again by itself.
                readString opening (.ofCode high :: done)
                  (.scalar '\\' :: .scalar 'u' :: e :: f :: g :: h :: last :: beyond)
          else
            readString opening (.ofCode high :: done)
              (.scalar '\\' :: .scalar 'u' :: e :: f :: g :: h :: last :: beyond)
        | next, after => readString opening (.ofCode high :: done) (next :: after)
    | _ => fail .unicodeEscape (rest.length + 1)
  | .scalar '\\' :: l :: rest =>
    match simpleEscape? l.code with
    | some c => readString opening (.scalar c :: done) rest
    | none => fail .escape (rest.length + 2)
  | l :: rest =>
    if l.code < 0x20 then fail .controlCharacter (rest.length + 1)
    else readString opening (l :: done) rest
termination_by t => t.length

mutual

/-- A value, where `room` containers may be opened. -/
def readValue : Nat → Nat → Text → Except Misread (Json × Text)
  | 0, _, t => fail .value t.length
  | fuel + 1, room, t =>
    match t with
    | .scalar '"' :: rest => do
      let (content, rest) ← readString t.length [] rest
      return (.string content, rest)
    | .scalar '[' :: rest =>
      match room with
      | 0 => fail (.tooDeep .array) t.length
      | room + 1 =>
        match skipSpace rest with
        | .scalar ']' :: rest => .ok (.array [], rest)
        | rest => readItems fuel room [] rest
    | .scalar '\x7b' :: rest =>
      match room with
      | 0 => fail (.tooDeep .object) t.length
      | room + 1 =>
        match skipSpace rest with
        | .scalar '\x7d' :: rest => .ok (.object [], rest)
        | rest => readMembers fuel room [] rest
    | t =>
      match takeWord t with
      | some (value, rest) => .ok (value, rest)
      | none => readNumber t
termination_by structural fuel => fuel

def readItems : Nat → Nat → List Json → Text → Except Misread (Json × Text)
  | 0, _, _, t => fail .value t.length
  | fuel + 1, room, done, t => do
    let (item, rest) ← readValue fuel room t
    match skipSpace rest with
    | .scalar ']' :: rest => .ok (.array (item :: done).reverse, rest)
    | .scalar ',' :: rest => readItems fuel room (item :: done) (skipSpace rest)
    | rest => fail .comma rest.length
termination_by structural fuel => fuel

def readMembers : Nat → Nat → List (Text × Json) → Text → Except Misread (Json × Text)
  | 0, _, _, t => fail .value t.length
  | fuel + 1, room, done, t =>
    match t with
    | .scalar '"' :: rest => do
      let (key, rest) ← readString t.length [] rest
      match skipSpace rest with
      | .scalar ':' :: rest =>
        let (value, rest) ← readValue fuel room (skipSpace rest)
        -- A key that comes again takes the place of the earlier member.
        let done := put key value done
        match skipSpace rest with
        | .scalar '\x7d' :: rest => .ok (.object done, rest)
        | .scalar ',' :: rest => readMembers fuel room done (skipSpace rest)
        | rest => fail .comma rest.length
      | rest => fail .colon rest.length
    | t => fail .propertyName t.length
termination_by structural fuel => fuel

end

end TextReader

open TextReader in
/-- The value of a document that has been decoded, where `room` containers may be opened in each
other. Every value takes up at least one letter of it, which bounds the steps of the reading. -/
def readDecoded (room : Nat) (document : Text) : Except Misread Json := do
  let (value, rest) ← readValue (2 * document.length + 2) room (skipSpace document)
  match skipSpace rest with
  | [] => return value
  | rest => fail .extraData rest.length

/-- The value of a document that is given as text, which may not begin with a byte order mark. -/
def readText (room : Nat) (document : Text) : Except Misread Json :=
  match document with
  | .scalar '\uFEFF' :: _ => TextReader.fail .byteOrderMark document.length
  | document => readDecoded room document

end PageScheme.Json
