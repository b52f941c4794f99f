import PageScheme.Text.Digit

/-!
# Selector tokens

A selector is a sequence of names, hashes, strings, numbers, blanks and single characters. Comments
leave nothing behind, so that the blanks around one follow each other. An escape stands for the
character with its code, or for the character behind its backslash. A NUL counts as a replacement
character, and so does the code of what is no character.

A string that is not closed ends the sequence: it is a fault, but only for a reader that gets there.
-/
namespace PageScheme.Selector

inductive TokenKind
  | space
  | ident
  | hash
  | string
  | number
  | delim
  | finish
  deriving DecidableEq, Repr

/-- A token: its text with escapes replaced, and its position in the selector. -/
structure Token where
  kind : TokenKind
  value : String
  position : Nat
  deriving DecidableEq, Repr

/-- The next token, or the position of a string that does not end properly. -/
inductive Lexeme
  | token (token : Token)
  | unclosedString (position : Nat)
  | invalidString (position : Nat)
  deriving DecidableEq, Repr

namespace TokenKind

def name : TokenKind → String
  | space => "S"
  | ident => "IDENT"
  | hash => "HASH"
  | string => "STRING"
  | number => "NUMBER"
  | delim => "DELIM"
  | finish => "EOF"

end TokenKind

namespace Token

def text (t : Token) : String :=
  match t.kind with
  | .finish => "<EOF at " ++ t.position.repr ++ ">"
  | kind => "<" ++ kind.name ++ " '" ++ t.value ++ "' at " ++ t.position.repr ++ ">"

def isDelim (t : Token) (value : String) : Bool := t.kind = .delim && t.value = value

end Token

namespace Lexer

def isSpace (c : Char) : Bool := c = ' ' || c = '\t' || c = '\r' || c = '\n' || c = '\x0c'

def isHex (c : Char) : Bool := (Text.hexDigit? c.toNat).isSome

def startsName (c : Char) : Bool := c.isAlpha || c = '_' || 0x7F < c.toNat

def isNameChar (c : Char) : Bool := startsName c || c.isDigit || c = '-'

/-- The length of the one blank that may follow a numeric escape. -/
def blankLength : List Char → Nat
  | '\r' :: '\n' :: _ => 2
  | c :: _ => if isSpace c then 1 else 0
  | [] => 0

def hexLength (cs : List Char) : Nat := ((cs.take 6).takeWhile isHex).length

/-- The length of an escape behind its backslash, if it is one. -/
def escapeLength : List Char → Option Nat
  | [] => none
  | c :: rest =>
    if isHex c then
      let digits := hexLength (c :: rest)
      some (digits + blankLength ((c :: rest).drop digits))
    else if c = '\n' || c = '\r' || c = '\x0c' then none
    else some 1

def lineEndLength : List Char → Option Nat
  | '\r' :: '\n' :: _ => some 2
  | '\n' :: _ => some 1
  | '\r' :: _ => some 1
  | '\x0c' :: _ => some 1
  | _ => none

/-- How many characters of a name are at the front of a text; `skip` of them are part of an
escape. -/
def nameLength : Nat → List Char → Nat
  | _, [] => 0
  | skip + 1, _ :: rest => nameLength skip rest + 1
  | 0, '\\' :: rest =>
    match escapeLength rest with
    -- The escape is passed over as a whole, whatever characters it is made of.
    | some n => nameLength n rest + 1
    | none => 0
  | 0, c :: rest => if isNameChar c then nameLength 0 rest + 1 else 0

def identLength : List Char → Nat
  | '-' :: '\\' :: rest => if (escapeLength rest).isSome then nameLength 0 ('\\' :: rest) + 1 else 0
  | '-' :: c :: rest => if startsName c then nameLength 0 (c :: rest) + 1 else 0
  | '\\' :: rest => if (escapeLength rest).isSome then nameLength 0 ('\\' :: rest) else 0
  | c :: rest => if startsName c then nameLength 0 (c :: rest) else 0
  | [] => 0

def stringLength (quote : Char) : Nat → List Char → Nat
  | _, [] => 0
  | skip + 1, _ :: rest => stringLength quote skip rest + 1
  | 0, '\\' :: rest =>
    match (lineEndLength rest).orElse fun _ => escapeLength rest with
    | some n => stringLength quote n rest + 1
    | none => 0
  | 0, c :: rest =>
    if c = quote || c = '\n' || c = '\r' || c = '\x0c' then 0 else stringLength quote 0 rest + 1

def unsignedLength (cs : List Char) : Nat :=
  let whole := cs.takeWhile Char.isDigit
  match cs.drop whole.length with
  | '.' :: rest =>
    let fraction := rest.takeWhile Char.isDigit
    -- A point counts only with a digit behind it.
    if fraction.isEmpty then whole.length else whole.length + 1 + fraction.length
  | _ => whole.length

def numberLength : List Char → Nat
  | '+' :: rest => if unsignedLength rest = 0 then 0 else unsignedLength rest + 1
  | '-' :: rest => if unsignedLength rest = 0 then 0 else unsignedLength rest + 1
  | cs => unsignedLength cs

def commentLength : List Char → Nat
  | [] => 0
  | '*' :: '/' :: _ => 2
  | _ :: rest => commentLength rest + 1

def codeChar (digits : List Char) : Char :=
  let n := digits.foldl (fun n c => n * 16 + (Text.hexDigit? c.toNat).getD 0) 0
  -- Codes that are no character are replaced.
  if n = 0 || 0x110000 ≤ n || (0xD800 ≤ n && n < 0xE000) then '\uFFFD' else Char.ofNat n

def replaceNul (c : Char) : Char := if c = '\x00' then '\uFFFD' else c

def replaceCodes : Nat → List Char → List Char
  | _, [] => []
  | skip + 1, _ :: rest => replaceCodes skip rest
  | 0, '\\' :: rest =>
    let digits := hexLength rest
    if digits = 0 then '\\' :: replaceCodes 0 rest
    else
      codeChar (rest.take digits) :: replaceCodes (digits + blankLength (rest.drop digits)) rest
  | 0, c :: rest => c :: replaceCodes 0 rest

def replaceSimple : List Char → List Char
  | [] => []
  | '\\' :: '\n' :: rest => '\\' :: '\n' :: replaceSimple rest
  | '\\' :: c :: rest => c :: replaceSimple rest
  | c :: rest => c :: replaceSimple rest

def dropLineEnds : Nat → List Char → List Char
  | _, [] => []
  | skip + 1, _ :: rest => dropLineEnds skip rest
  | 0, '\\' :: rest =>
    match lineEndLength rest with
    | some n => dropLineEnds n rest
    | none => '\\' :: dropLineEnds 0 rest
  | 0, c :: rest => c :: dropLineEnds 0 rest

def nameText (cs : List Char) : String := String.ofList (replaceSimple (replaceCodes 0 cs))

def stringText (cs : List Char) : String := nameText (dropLineEnds 0 cs)

/-- What stands at the front of a text that is not empty: a lexeme, unless it is a comment, and its
length; a string that does not end properly has none. -/
def first (position : Nat) (c : Char) (rest : List Char) : Option Lexeme × Option Nat :=
  let cs := c :: rest
  let token (kind : TokenKind) (value : String) (length : Nat) :=
    (some (.token ⟨kind, value, position⟩), some length)
  let spaces := (cs.takeWhile isSpace).length
  if spaces ≠ 0 then token .space " " spaces
  else if identLength cs ≠ 0 then
    token .ident (nameText (cs.take (identLength cs))) (identLength cs)
  else if c = '#' && nameLength 0 rest ≠ 0 then
    token .hash (nameText (rest.take (nameLength 0 rest))) (nameLength 0 rest + 1)
  -- A string has to end with the mark it began with.
  else if c = '\'' || c = '"' then
    let length := stringLength c 0 rest
    match rest.drop length with
    | [] => (some (.unclosedString position), none)
    | d :: _ =>
      if d = c then token .string (stringText (rest.take length)) (length + 2)
      else (some (.invalidString position), none)
  else if numberLength cs ≠ 0 then
    token .number (String.ofList (cs.take (numberLength cs))) (numberLength cs)
  else if c = '/' && rest.head? = some '*' then (none, some (commentLength (rest.drop 1) + 2))
  else token .delim (String.ofList [c]) 1

/-- The lexemes of a text from a position on; `skip` characters belong to the one before. -/
def lexemesFrom (position : Nat) : Nat → List Char → List Lexeme
  | _, [] => [.token ⟨.finish, "", position⟩]
  | skip + 1, _ :: rest => lexemesFrom (position + 1) skip rest
  | 0, c :: rest =>
    match first position c rest with
    | (lexeme, none) => lexeme.toList
    | (lexeme, some length) => lexeme.toList ++ lexemesFrom (position + 1) (length - 1) rest

end Lexer

def lexemes (source : String) : List Lexeme :=
  Lexer.lexemesFrom 0 0 (source.toList.map Lexer.replaceNul)

end PageScheme.Selector
