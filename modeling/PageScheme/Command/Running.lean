import PageScheme.Command.Outcome
import PageScheme.Command.Request
import PageScheme.Extraction
import PageScheme.Json.Printing
import PageScheme.Page.Locate
import PageScheme.Scheme.Loading
import PageScheme.Scheme.Rebase
import PageScheme.Scheme.Sources
import PageScheme.Scheme.Writing

/-!
# Running a command

Documents are output as they were given: instructions stay instructions around the scheme that was
worked on. A fault in a scheme, or in what it finds on a page, stops a command with an explanation;
any other fault is left unexplained.

Notes on the details of the work are made only when they are asked for.
-/
namespace PageScheme.Command

def details (verbose : Bool) (notes : Unit → List Note) : List Note :=
  if verbose then notes () else []

def detail (origin message : String) : Note := ⟨.debug, Form.programName ++ "." ++ origin, message⟩

def rebaseNote (path : Text) : Note :=
  detail "relativizer" ("Relativizing element scheme of list '" ++ path.escaped ++ "'")

def misfitNote : Scheme.Misfit → Note
  | .list content =>
    detail "interlacer"
      ("List content is " ++ content.typeName ++ ", not a sequence; using an empty list")
  | .object content =>
    detail "interlacer"
      ("Object content is " ++ content.typeName ++ ", not a mapping; leaving fields unchanged")

def yieldNote (yield : Extraction.Yield) : Note :=
  detail "extractor"
    ("List '" ++ yield.path.elim "None" Text.escaped ++ "' yielded " ++ yield.count.repr ++
      " items")

def sourcesNote (count : Nat) (page : String) : Note where
  level := .warning
  origin := Form.programName ++ ".cli"
  message :=
    "Scheme reads from " ++ count.repr ++ " pages; only " ++ page ++ " is used for all of them"

def printed (value : Json) : Ending := .done (value.indented ++ "\n")

def explained (fault : Fault) : Ending :=
  if fault.concernsScheme then .stopped fault.text else .broken fault

section Limited
variable (limits : Limits)

def loadDocument (file : NamedFile) : Except Ending Document :=
  (Document.load limits (.bytes file.bytes)).mapError fun fault =>
    if fault.concernsScheme then .stopped (file.name ++ ": " ++ fault.text) else .broken fault

def loadContent (file : NamedFile) : Except Ending Json :=
  match Json.decode file.bytes with
  | .error fault => .error (.broken (.undecodable fault))
  | .ok text =>
    (Json.readDecoded limits.content text).mapError fun fault =>
      match fault.cause with
      | .tooManyDigits count => .broken (.tooManyDigits count)
      | .tooDeep container => .broken (.tooDeepToRead container)
      | _ => .stopped (file.name ++ ": invalid JSON: " ++ fault.message text)

/-- Outputs a document with another scheme, unless that has come to a fault. -/
def printedWith (document : Document) : Except Fault Scheme → Ending
  | .error fault => .broken fault
  | .ok scheme =>
    match (document.withScheme scheme).write limits with
    | .error fault => .broken fault
    | .ok value => printed value

def orEnd {α : Type} (step : Except Ending α) (next : α → Outcome) : Outcome :=
  match step with
  | .ok value => next value
  | .error ending => ⟨[], ending⟩

def runRebase (verbose : Bool) (scheme : NamedFile) : Outcome :=
  orEnd (loadDocument limits scheme) fun document =>
    ⟨details verbose fun _ => document.scheme.rebasedLists.map rebaseNote,
      printedWith limits document document.scheme.rebase⟩

def populated (verbose : Bool) (spread : Spread) (document : Document) (content : Json) : Outcome :=
  ⟨details verbose fun _ => (document.scheme.misfits spread content).map misfitNote,
    printedWith limits document (document.scheme.populate spread content)⟩

def runPopulate (verbose : Bool) (spread : Spread) (scheme content : NamedFile) : Outcome :=
  orEnd (loadDocument limits scheme) fun document =>
    orEnd (loadContent limits content) fun value => populated limits verbose spread document value

/-- The notes on the pages that a document reads from: more than one calls for a warning. -/
def sourcesNotes (document : Document) (page : String) : List Note :=
  match document with
  | .bare _ => []
  | .instructions i =>
    match i.sources with
    | .ok urls => if 1 < urls.length then [sourcesNote urls.length page] else []
    | .error _ => []

def noted (notes : List Note) (outcome : Outcome) : Outcome :=
  { outcome with notes := notes ++ outcome.notes }

def yieldNotes (address : Text) (scheme : Scheme) (root : Place) : List Note :=
  (Extraction.yields address scheme root).map yieldNote

/-- Runs the scheme of a document against a page, and outputs the result by itself or in the
scheme. -/
def extracted (verbose : Bool) (address : Text) (inScheme : Bool) (document : Document)
    (page : NamedFile) : Outcome :=
  match Page.read (.bytes page.bytes) with
  | .error fault => ⟨[], explained fault⟩
  | .ok content =>
    let root := content.rootPlace
    noted (details verbose fun _ => yieldNotes address document.scheme root) <|
      match Extraction.one address document.scheme root with
      | .error fault => ⟨[], explained fault⟩
      | .ok value =>
        -- The notes of populating come behind those of reading.
        if inScheme then populated limits verbose .representative document value
        else ⟨[], printed value⟩

/-- Runs a scheme against a page; without an address of its own the page has that of the
instructions. -/
def runExtract (verbose : Bool) (url : Option Text) (inScheme : Bool) (scheme page : NamedFile) :
    Outcome :=
  orEnd (loadDocument limits scheme) fun document =>
    noted (sourcesNotes document page.name)
      (extracted limits verbose ((url <|> document.url?).getD []) inScheme document page)

def runLocate (page : NamedFile) (selector : String) : Ending :=
  match Page.read (.bytes page.bytes) with
  | .error fault => .broken fault
  | .ok content =>
    match Selector.select selector content.rootPlace with
    | .error (.invalid fault) => .misused (.ofAction .locate) (.badSelector selector fault)
    | .error .forbiddenCharacter => .broken .forbiddenCharacter
    | .error .undefinedSpace => .broken .undefinedPrefix
    | .ok [] => .done "No elements found.\n"
    | .ok found => .done (String.join (found.map fun place => place.path.escaped ++ "\n"))

def Request.run (verbose : Bool) : Request → Outcome
  | .create kind => ⟨[], printed (Scheme.empty kind).toJson⟩
  | .rebase scheme => runRebase limits verbose scheme
  | .populate spread scheme content => runPopulate limits verbose spread scheme content
  | .extract url inScheme scheme page => runExtract limits verbose url inScheme scheme page
  | .locate page selector => ⟨[], runLocate page selector⟩

def versionText : String := Form.programName ++ ", version 0.1.0\n"

def Call.run (folder : Folder) : Call → Outcome
  | .help form => ⟨[], .done (form.help ++ "\n")⟩
  | .version => ⟨[], .done versionText⟩
  | .request action words =>
    match Request.read folder action words with
    | .ok task => task.run limits (words.has .verbose)
    | .error mistake => ⟨[], .misused (.ofAction action) mistake⟩

def run (folder : Folder) (line : List String) : Outcome :=
  if line.isEmpty then ⟨[], .idle⟩
  else
    match Call.read line with
    | .ok call => call.run limits folder
    | .error (form, mistake) => ⟨[], .misused form mistake⟩

end Limited
end PageScheme.Command
