import PageScheme.Command.Folder
import PageScheme.Command.Words
import PageScheme.Scheme.Populate

/-!
# Reading a command line

A command line asks for a command, or for help or the version of the program. A request is a command
with the words it needs: a kind of scheme, the contents of the files it names, a selector.

The words are taken in the order in which the command needs them, and what is left over is a
mistake. The mistakes of options come first.
-/
namespace PageScheme.Command

inductive Request
  | create (kind : Kind)
  | rebase (scheme : NamedFile)
  | populate (spread : Spread) (scheme content : NamedFile)
  /-- Runs a scheme; the result is shown in the scheme if asked for. -/
  | extract (url : Option Text) (populated : Bool) (scheme page : NamedFile)
  | locate (page : NamedFile) (selector : String)

inductive Call
  | help (form : Form)
  | version
  | request (action : Action) (words : Words)

/-- What the options before a command ask for; the first one counts. -/
def Call.ofSettings (form : Form) (words : Words) : Option Call :=
  words.settings.findSome? fun (switch, _) =>
    match switch with
    | .help => some (.help form)
    | .version => some .version
    | _ => none

abbrev Misuse := Form × Mistake

def Form.sort (form : Form) (words : List String) : Except Misuse Words :=
  (sortWords form words).mapError (form, ·)

def Action.read (action : Action) (words : List String) : Except Misuse Call := do
  let words ← (Form.ofAction action).sort words
  return (Call.ofSettings (Form.ofAction action) words).getD (.request action words)

/-- Explains a word that is not the name of a command: it may be an option of the program. -/
def readStray (name : String) (rest : List String) : Except Misuse Call := do
  let words ← Form.program.sort (name :: rest)
  match Call.ofSettings Form.program words with
  | some call => return call
  | none =>
    throw (Form.program, .unknownCommand name (resembling name (Action.all.map Action.name)))

def Call.read (line : List String) : Except Misuse Call := do
  let words ← Form.program.sort line
  match Call.ofSettings Form.program words, words.plain with
  -- Help and version come before anything that is wrong with the command.
  | some call, _ => return call
  | none, [] => throw (Form.program, .missingCommand)
  | none, name :: rest =>
    match Action.ofName? name with
    | some action => action.read rest
    | none => readStray name rest

def filesNamed (line : List String) : List String :=
  match Call.read line with
  | .ok (.request action words) =>
    ((action.arguments.zip words.plain).filter fun (argument, _) => argument.isFile).map Prod.snd
  | _ => []

/-! ### Taking words -/

abbrev Intake (α : Type) := StateT (List String) (Except Mistake) α

def takeWord (argument : Argument) : Intake String := fun words =>
  match words with
  | [] => .error (.missingWord argument)
  | word :: rest => .ok (word, rest)

/-- A letter without its case, as far as the names of the kinds go: a long s is an s, and the
ligatures of s and t come apart. -/
def foldCase (c : Char) : List Char :=
  if c = '\u017f' then ['s']
  else if c = '\ufb05' || c = '\ufb06' then ['s', 't']
  else [c.toLower]

def kindOf? (word : String) : Option Kind :=
  Kind.all.find? fun kind => (Argument.kindWord kind).toList = word.toList.flatMap foldCase

def takeKind : Intake Kind := do
  let word ← takeWord .kind
  match kindOf? word with
  | some kind => return kind
  | none => throw (.unknownKind word)

def takeFile (folder : Folder) (argument : Argument) : Intake NamedFile := do
  let name ← takeWord argument
  match folder.entry? name with
  | some (.file bytes) => return ⟨plainName name, bytes⟩
  | some .folder => throw (.isFolder argument name)
  | some .locked => throw (.lockedFile argument name)
  | none => throw (.noFile argument name)

def Action.take (folder : Folder) (words : Words) : Action → Intake Request
  | .create => do return .create (← takeKind)
  | .rebase => do return .rebase (← takeFile folder .schemeFile)
  | .populate => do
    let scheme ← takeFile folder .schemeFile
    let content ← takeFile folder .contentFile
    let spread := if words.has .perElement then Spread.perElement else .representative
    return .populate spread scheme content
  | .extract => do
    let scheme ← takeFile folder .schemeFile
    let page ← takeFile folder .pageFile
    return .extract ((words.value? .url).map Text.ofString) (words.has .populated) scheme page
  | .locate => do
    let page ← takeFile folder .pageFile
    return .locate page (← takeWord .selector)

def Request.read (folder : Folder) (action : Action) (words : Words) : Except Mistake Request := do
  match ← (action.take folder words).run words.plain with
  | (request, []) => return request
  | (_, rest) => throw (.extraWords rest)

end PageScheme.Command
