import PageScheme.Command.Mistake
import PageScheme.Command.Similarity

/-!
# Sorting the words of a command line

Options are told from plain words by the stroke they begin with. The value of an option follows an
equals sign in the same word, or is the next word, whatever it looks like. A single stroke may be
followed by the letters of several options. Two strokes alone end the options.

The first mistake from the left is the one that is reported.
-/
namespace PageScheme.Command

/-- The words of a command line: what its options set, in order, and the rest. -/
structure Words where
  settings : List (Switch × String) := []
  plain : List String := []

namespace Words

def has (words : Words) (switch : Switch) : Bool := words.settings.any (·.1 = switch)

/-- The value an option is set to; the last one counts. -/
def value? (words : Words) (switch : Switch) : Option String :=
  (words.settings.reverse.find? (·.1 = switch)).map Prod.snd

def set (switch : Switch) (value : String) (words : Words) : Words :=
  { words with settings := (switch, value) :: words.settings }

def add (word : String) (words : Words) : Words := { words with plain := word :: words.plain }

end Words

/-- Whether a word is an option: more than a single stroke. -/
def isOption (word : String) : Bool :=
  match word.toList with
  | '-' :: _ :: _ => true
  | _ => false

def splitValue (word : String) : String × Option String :=
  match word.toList.span (· ≠ '=') with
  | (name, '=' :: value) => (String.ofList name, some (String.ofList value))
  | _ => (word, none)

def lettersOf (form : Form) : List Char → Except Mistake (List Switch)
  | [] => .ok []
  | letter :: rest =>
    match form.switches.find? (·.letter? = some letter) with
    | some switch => do return switch :: (← lettersOf form rest)
    | none => .error (.unknownOption (String.ofList ['-', letter]) [])

def clusterOf (form : Form) (word name : String) : Except Mistake (List Switch) :=
  match word.toList with
  | '-' :: '-' :: _ =>
    .error (.unknownOption name (resembling name (form.switches.map Switch.name)))
  | letters => lettersOf form letters.tail

def sortWords (form : Form) : List String → Except Mistake Words
  | [] => .ok {}
  | word :: rest =>
    if word = "--" then .ok { plain := rest }
    else if isOption word then
      let (name, value) := splitValue word
      match form.switches.find? (·.name = name), value with
      | none, _ => do
        let switches ← clusterOf form word name
        -- Each letter is an option of its own, and none of them takes a value.
        return switches.foldr (Words.set · "") (← sortWords form rest)
      | some switch, none =>
        if switch.takesValue then
          match rest with
          | [] => .error (.missingValue name)
          -- The next word is the value, even if it looks like an option.
          | value :: rest => (sortWords form rest).map (Words.set switch value)
        else (sortWords form rest).map (Words.set switch "")
      | some switch, some value =>
        if switch.takesValue then (sortWords form rest).map (Words.set switch value)
        else .error (.needlessValue name)
    else if form.mixed then (sortWords form rest).map (Words.add word)
    -- Where no options may follow a word, the first one ends the sorting.
    else .ok { plain := word :: rest }

end PageScheme.Command
