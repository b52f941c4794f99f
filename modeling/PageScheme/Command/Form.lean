import PageScheme.Scheme.Basic

/-!
# The form of a command line

The program has five commands. A form says what may be typed to call the program or one of its
commands: its options, and a synopsis of the words that follow. The options of a command may stand
anywhere among its words; those of the program stand before the name of the command.
-/
namespace PageScheme.Command

inductive Switch
  | help
  | version
  | verbose
  | perElement
  | url
  | populated
  deriving DecidableEq, Repr

namespace Switch

def name : Switch → String
  | help => "--help"
  | version => "--version"
  | verbose => "--verbose"
  | perElement => "--per-element"
  | url => "--url"
  | populated => "--interlace"

def letter? : Switch → Option Char
  | verbose => some 'v'
  | _ => none

def takesValue (switch : Switch) : Bool := switch = url

def listed (switch : Switch) : String :=
  let name := if switch.takesValue then switch.name ++ " TEXT" else switch.name
  match switch.letter? with
  | some letter => String.ofList ['-', letter, ',', ' '] ++ name
  | none => name

def summary : Switch → String
  | help => "Show this message and exit."
  | version => "Show the version and exit."
  | verbose => "Verbose logging."
  | perElement => "Also interlace one element scheme per list item."
  | url => "URL of the page (defaults to the instructions' url)."
  | populated => "Print the scheme populated with the result instead."

end Switch

inductive Argument
  | kind
  | schemeFile
  | contentFile
  | pageFile
  | selector
  deriving DecidableEq, Repr

namespace Argument

def kindWord : Kind → String
  | .string => "string"
  | .list => "list"
  | .object => "object"

def kindWords : List String := Kind.all.map kindWord

def label : Argument → String
  | kind => "\x7b" ++ "|".intercalate kindWords ++ "\x7d"
  | schemeFile => "SCHEME_FILE"
  | contentFile => "CONTENT_FILE"
  | pageFile => "HTML_FILE"
  | selector => "SELECTOR"

def isFile : Argument → Bool
  | schemeFile | contentFile | pageFile => true
  | kind | selector => false

end Argument

inductive Action
  | create
  | rebase
  | populate
  | extract
  | locate
  deriving DecidableEq, Repr

namespace Action

def name : Action → String
  | create => "new"
  | rebase => "relativize"
  | populate => "interlace"
  | extract => "extract"
  | locate => "locate"

def all : List Action := [extract, populate, locate, create, rebase]

def ofName? (name : String) : Option Action := all.find? fun action => action.name = name

@[simp] theorem ofName?_name (action : Action) : ofName? action.name = some action := by
  cases action <;> rfl

def arguments : Action → List Argument
  | create => [.kind]
  | rebase => [.schemeFile]
  | populate => [.schemeFile, .contentFile]
  | extract => [.schemeFile, .pageFile]
  | locate => [.pageFile, .selector]

def switches : Action → List Switch
  | create => [.help]
  | rebase | locate => [.verbose, .help]
  | populate => [.perElement, .verbose, .help]
  | extract => [.url, .populated, .verbose, .help]

def summary : Action → String
  | create => "Print an empty scheme of KIND."
  | rebase => "Make list element paths relative to their list."
  | populate => "Merge scraped CONTENT_FILE into the scheme in SCHEME_FILE."
  | extract => "Run the scheme in SCHEME_FILE against HTML_FILE."
  | locate => "Print the structural path of each element matching SELECTOR."

end Action

/-- How the program or one of its commands is called. -/
structure Form where
  call : String
  synopsis : String
  switches : List Switch
  /-- Whether options may follow a word. -/
  mixed : Bool
  summary : String
  actions : List Action

namespace Form

def programName : String := "scrapeweave"

def program : Form where
  call := programName
  synopsis := "COMMAND [ARGS]..."
  switches := [.version, .help]
  mixed := false
  summary := "Tools for scraping schemes."
  actions := Action.all

def ofAction (action : Action) : Form where
  call := programName ++ " " ++ action.name
  synopsis := " ".intercalate (action.arguments.map Argument.label)
  switches := action.switches
  mixed := true
  summary := action.summary
  actions := []

def usage (form : Form) : String := "Usage: " ++ form.call ++ " [OPTIONS] " ++ form.synopsis

def columns (rows : List (String × String)) : List String :=
  let width := (rows.map fun (term, _) => term.length).foldl max 0
  rows.map fun (term, explanation) =>
    "  " ++ term ++ String.ofList (List.replicate (width + 2 - term.length) ' ') ++ explanation

def help (form : Form) : String :=
  let options := columns (form.switches.map fun switch => (switch.listed, switch.summary))
  let commands := columns (form.actions.map fun action => (action.name, action.summary))
  "\n".intercalate
    ([form.usage, "", "  " ++ form.summary, "", "Options:"] ++ options ++
      if commands.isEmpty then [] else "" :: "Commands:" :: commands)

end Form
end PageScheme.Command
