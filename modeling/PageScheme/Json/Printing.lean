import PageScheme.Json.Display
import PageScheme.Json.Encoding

/-!
# Writing JSON

A document is written with a member or item on each line, two blanks further in than what holds it,
and in ASCII only: every other character is an escape of its UTF-16 units, so that the output reads
the same in every encoding. Empty arrays and objects take up no lines of their own.
-/
namespace PageScheme.Json

def writtenLetter : Letter → List Char
  | .lone half => Text.escapeUnit (0xD800 + half.val)
  | .scalar '"' => ['\\', '"']
  | .scalar '\\' => ['\\', '\\']
  | .scalar '\n' => ['\\', 'n']
  | .scalar '\r' => ['\\', 'r']
  | .scalar '\t' => ['\\', 't']
  | .scalar '\x08' => ['\\', 'b']
  | .scalar '\x0c' => ['\\', 'f']
  | .scalar c =>
    let n := c.toNat
    if 0x20 ≤ n && n < 0x7F then [c]
    else if n < 0x10000 then Text.escapeUnit n
    else
      Text.escapeUnit (0xD800 + (n - 0x10000) / 0x400) ++
        Text.escapeUnit (0xDC00 + (n - 0x10000) % 0x400)

def writtenText (t : Text) : List Char := '"' :: t.flatMap writtenLetter ++ ['"']

def writtenFloat : Binary64 → List Char
  | .nan => "NaN".toList
  | .infinite negative => if negative then "-Infinity".toList else "Infinity".toList
  | x => x.text.toList

def newLine (level : Nat) : List Char := '\n' :: List.replicate (2 * level) ' '

/-- A container whose pieces stand on lines of their own. -/
def block (opening closing : Char) (level : Nat) : List (List Char) → List Char
  | [] => [opening, closing]
  | pieces =>
    opening :: newLine (level + 1) ++ (',' :: newLine (level + 1)).intercalate pieces ++
      newLine level ++ [closing]

mutual

/-- A value set out over lines, at a level of indentation. -/
def indentedChars (level : Nat) : Json → List Char
  | null => "null".toList
  | bool true => "true".toList
  | bool false => "false".toList
  | int n => n.repr.toList
  | float x => writtenFloat x
  | string t => writtenText t
  | array items => block '[' ']' level (indentedItems (level + 1) items)
  | object members => block '\x7b' '\x7d' level (indentedMembers (level + 1) members)
termination_by structural value => value

def indentedItems (level : Nat) : List Json → List (List Char)
  | [] => []
  | item :: rest => item.indentedChars level :: indentedItems level rest
termination_by structural items => items

def indentedMembers (level : Nat) : List (Text × Json) → List (List Char)
  | [] => []
  | (key, value) :: rest =>
    (writtenText key ++ ':' :: ' ' :: value.indentedChars level) :: indentedMembers level rest
termination_by structural members => members

end

def indented (value : Json) : String := String.ofList (value.indentedChars 0)

end PageScheme.Json
