import PageScheme.Json.Basic
import PageScheme.Text.Printable

/-!
# Values in diagnostics

Diagnostics show a value in one of two ways. `quoted` puts strings in quotation marks and escapes
what cannot be seen; `shown` gives a string as it is. Inside arrays and objects both quote.

A quoted string stands in single quotes, or in double ones if it holds a single quote and no double
one.
-/
namespace PageScheme.Json

def escapeCode (n : Nat) : List Char :=
  if n < 0x100 then '\\' :: 'x' :: Text.hexDigits 2 n
  else if n < 0x10000 then '\\' :: 'u' :: Text.hexDigits 4 n
  else '\\' :: 'U' :: Text.hexDigits 8 n

def quotedLetter (mark : Char) : Letter → List Char
  | .lone half => escapeCode (0xD800 + half.val)
  | .scalar '\n' => ['\\', 'n']
  | .scalar '\r' => ['\\', 'r']
  | .scalar '\t' => ['\\', 't']
  | .scalar c =>
    if c == mark || c == '\\' then ['\\', c]
    else if Text.isPrintable c then [c]
    else escapeCode c.toNat

def quotedText (t : Text) : List Char :=
  let mark := if t.contains (.scalar '\'') && !t.contains (.scalar '"') then '"' else '\''
  mark :: t.flatMap (quotedLetter mark) ++ [mark]

def commaSeparated (pieces : List (List Char)) : List Char := [',', ' '].intercalate pieces

mutual

def quotedChars : Json → List Char
  | null => "None".toList
  | bool true => "True".toList
  | bool false => "False".toList
  | int n => n.repr.toList
  | float x => x.text.toList
  | string t => quotedText t
  | array items => '[' :: commaSeparated (quotedItems items) ++ [']']
  | object members => '\x7b' :: commaSeparated (quotedMembers members) ++ ['\x7d']
termination_by structural value => value

def quotedItems : List Json → List (List Char)
  | [] => []
  | item :: rest => item.quotedChars :: quotedItems rest
termination_by structural items => items

def quotedMembers : List (Text × Json) → List (List Char)
  | [] => []
  | (key, value) :: rest =>
    (quotedText key ++ ':' :: ' ' :: value.quotedChars) :: quotedMembers rest
termination_by structural members => members

end

def quoted (value : Json) : String := String.ofList value.quotedChars

/-- A value as running text: a string is given as it is. -/
def shown : Json → String
  | string t => t.escaped
  | value => value.quoted

end PageScheme.Json
