import PageScheme.Command.Form
import PageScheme.Json.Display
import PageScheme.Selector.Syntax

/-!
# Mistakes on the command line

What is wrong with a command line is a cause, kept apart from its wording. The complaint about a
mistake begins with the form that was misused, unless it is about the value of an option, which says
enough by itself.
-/
namespace PageScheme.Command

inductive Mistake
  /-- No option has the name; others resemble it. -/
  | unknownOption (name : String) (similar : List String)
  | missingValue (option : String)
  | needlessValue (option : String)
  | missingCommand
  | unknownCommand (name : String) (similar : List String)
  | missingWord (argument : Argument)
  | extraWords (words : List String)
  | unknownKind (word : String)
  | noFile (argument : Argument) (name : String)
  | isFolder (argument : Argument) (name : String)
  | lockedFile (argument : Argument) (name : String)
  | badSelector (selector : String) (fault : Selector.Fault)

namespace Mistake

def quote (word : String) : String := (Json.ofString word).quoted

def hint : List String → String
  | [] => ""
  | [name] => " Did you mean " ++ quote name ++ "?"
  | names => " (Did you mean one of: " ++ ", ".intercalate (names.map quote) ++ "?)"

def invalidValue (label reason : String) : String :=
  "Invalid value for " ++ label ++ ": " ++ reason

def invalidFile (argument : Argument) (name reason : String) : String :=
  invalidValue (quote argument.label) ("File " ++ quote name ++ " " ++ reason)

def text : Mistake → String
  | unknownOption name similar => "No such option " ++ quote name ++ "." ++ hint similar
  | missingValue option => "Option " ++ quote option ++ " requires an argument."
  | needlessValue option => "Option " ++ quote option ++ " does not take a value."
  | missingCommand => "Missing command."
  | unknownCommand name similar => "No such command " ++ quote name ++ "." ++ hint similar
  | missingWord .kind =>
    "Missing argument '" ++ Argument.kind.label ++ "'. Choose from:\n\t" ++
      ",\n\t".intercalate Argument.kindWords
  | missingWord argument => "Missing argument '" ++ argument.label ++ "'."
  | extraWords words =>
    "Got unexpected extra argument" ++ (if words.length = 1 then "" else "s") ++ " (" ++
      " ".intercalate words ++ ")"
  | unknownKind word =>
    invalidValue (quote Argument.kind.label)
      (quote word ++ " is not one of " ++ ", ".intercalate (Argument.kindWords.map quote) ++ ".")
  | noFile argument name => invalidFile argument name "does not exist."
  | isFolder argument name => invalidFile argument name "is a directory."
  | lockedFile argument name => invalidFile argument name "is not readable."
  | badSelector selector fault =>
    invalidValue Argument.selector.label
      ("Invalid CSS selector '" ++ selector ++ "': " ++ fault.text)

/-- Whether a mistake is about the value of an option, there or not there. -/
def concernsValue : Mistake → Bool
  | missingValue _ | needlessValue _ => true
  | _ => false

def guidance (form : Form) : String :=
  form.usage ++ "\nTry '" ++ form.call ++ " --help' for help.\n\n"

def complaint (form : Form) (mistake : Mistake) : String :=
  (if mistake.concernsValue then "" else guidance form) ++ "Error: " ++ mistake.text

end Mistake
end PageScheme.Command
