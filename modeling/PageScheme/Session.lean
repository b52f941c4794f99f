import PageScheme.Extraction
import PageScheme.Page.Locate
import PageScheme.Scheme.Loading
import PageScheme.Scheme.Populate
import PageScheme.Scheme.Rebase
import PageScheme.Scheme.Sources
import PageScheme.Scheme.Writing

/-!
# Editing sessions

A session works on one document and one page. Its actions change the scheme, move to a part of it,
run it against the page, or add what has been picked on the page. An action that fails leaves
everything as it was.

The scheme of a document is changed inside the instructions around it, but a part that the session
moves to is a document of its own. A part that is absent is a document that holds null.
-/
namespace PageScheme

/-- What a session works on, and what was last read from the page. -/
structure Session where
  document : Document
  page : Source
  content : Json := .null

namespace Session

inductive Action
  | rebase
  | rebaseOnto (parent : Text)
  | populate (content : Option Json) (spread : Spread)
  | extract
  | reload
  | sources
  | field (key : Text)
  | element
  | item (index : Int)
  /-- Adds a field for one of the elements that a selector finds; given the selector of a list, it
  is the element scheme of that list. -/
  | pick (key selector : Text) (index : Int) (reading : Reading) (list : Option Text)

inductive Failure
  | fault (fault : Fault)
  | notApplicable

abbrev Outcome := Except Failure (Json × Session)

def orFail {α : Type} (step : Except Fault α) : Except Failure α := step.mapError .fault

def applicable {α : Type} : Option α → Except Failure α
  | some value => .ok value
  | none => .error .notApplicable

def moveTo (limits : Limits) (s : Session) (document : Document) : Outcome := do
  return (← orFail (document.write limits), { s with document })

def revise (limits : Limits) (s : Session) (step : Scheme → Except Fault Scheme) : Outcome := do
  let scheme ← orFail (step s.document.scheme)
  s.moveTo limits (s.document.withScheme scheme)

def partOf (part : Option Scheme) : Document := .bare (part.getD (.foreign (.raw .null)))

def itemAt {α : Type} (items : List α) (index : Int) : Option α :=
  -- No position counts from the end.
  if index < 0 then none else items[index.toNat]?

/-- The structural path of one of the elements that a selector finds on the page. What is picked is
looked for on the page at hand, whatever address the document names. -/
def locate (s : Session) (selector : Text) (index : Int) : Except Failure Text := do
  let page ← orFail (Page.read s.page)
  let found ← orFail (Extraction.selectAll [] (some selector) page.rootPlace)
  return (← applicable (itemAt found index)).path

def addField (scheme : Scheme) (field : Field Scheme) : Option Scheme :=
  match scheme with
  | .object label fields => some (.object label (fields ++ [field]))
  | _ => none

def act (limits : Limits) (s : Session) : Action → Outcome
  | .rebase => s.revise limits Scheme.rebase
  | .rebaseOnto parent => s.revise limits (Scheme.rebaseOnto parent)
  | .populate content spread =>
    s.revise limits fun scheme => scheme.populate spread (content.getD s.content)
  | .extract => do
    let content ← orFail (PageScheme.extract s.document.scheme s.page (s.document.url?.getD []))
    return (content, { s with content })
  | .reload => do
    let written ← orFail (s.document.write limits)
    s.moveTo limits (← orFail (Document.load limits (.ofJson written)))
  | .sources =>
    match s.document with
    | .bare _ => .error .notApplicable
    | .instructions i => do
      let urls ← orFail i.sources
      return (.array (urls.map .string), s)
  | .field key =>
    match s.document.scheme with
    | .object label fields => s.moveTo limits (partOf (Scheme.get key (.object label fields)))
    | _ => .error .notApplicable
  | .element =>
    match s.document.scheme with
    | .list _ _ element _ _ => s.moveTo limits (partOf element)
    | _ => .error .notApplicable
  | .item index =>
    match s.document.scheme with
    | .list _ _ _ _ (some elements) => do
      s.moveTo limits (.bare (← applicable (itemAt elements index)))
    | _ => .error .notApplicable
  | .pick key selector index reading list => do
    let path ← s.locate selector index
    let picked := Scheme.string {} (some path) reading .null
    let value ←
      match list with
      | none => pure picked
      | some container =>
        pure (Scheme.list {} (some (← s.locate container 0)) (some picked) none none)
    let scheme ← applicable (addField s.document.scheme ⟨key, some value⟩)
    s.moveTo limits (s.document.withScheme scheme)

/-- Carries out actions one after the other; one that fails leaves the session as it was. -/
def run (limits : Limits) (s : Session) : List Action → List (Except Failure Json)
  | [] => []
  | action :: rest =>
    match s.act limits action with
    | .ok (answer, next) => .ok answer :: next.run limits rest
    | .error failure => .error failure :: s.run limits rest

end Session
end PageScheme
