import PageScheme.Markup.Reading
import PageScheme.Scheme.Basic
import PageScheme.Selector.Selection

/-!
# Running a scheme against a page

A scheme is run in two ways. `one` runs it once at a place: a string and a list are read from the
first element their path finds. `many` runs it for every match inside the container of a list, and
gives one value for each item; the fields of an object are run one after the other and then put
together row by row, which needs the same number of values from all of them.

A path that is absent or empty stands for the place itself. The items of a list without element
scheme are its child elements.
-/
namespace PageScheme

/-- A value of each row, or nothing for any of them. -/
abbrev Column := Text × Option (List Json)

namespace Extraction

def selectAll (url : Text) (path : Option Text) (p : Place) : Except Fault (List Place) :=
  match given path with
  | none => .ok [p]
  | some path =>
    match Selector.select path.markedBroken p with
    | .ok found => .ok found
    | .error (.invalid _) => .error (.invalidPath path url)
    | .error .forbiddenCharacter => .error .forbiddenCharacter
    | .error .undefinedSpace => .error .undefinedPrefix

def selectOne (url : Text) (path : Option Text) (p : Place) : Except Fault Place := do
  match ← selectAll url path p with
  | [] => throw (.noElement (path.getD []) url)
  | first :: _ => return first

def readElement (reading : Reading) (p : Place) : Json :=
  match reading with
  | .innerHtml => .ofString p.node.innerHtml
  | .source =>
    match p.attribute? "src" with
    | some value => .ofString value
    | none => .null

def untypedItems (p : Place) : Json :=
  .array ((p.node.children.filter Node.isElement).map fun child => .ofString child.innerHtml)

/-- How many rows columns have: as many as the first of them has values. -/
def rowCount (columns : List Column) : Nat :=
  ((columns.findSome? Prod.snd).map List.length).getD 0

def row (columns : List Column) (index : Nat) : Json :=
  .object (Json.putAll (columns.map fun (key, values) =>
    (key, (values.bind fun values => values[index]?).getD .null)))

def rows (columns : List Column) : List Json :=
  (List.range (rowCount columns)).map (row columns)

def expectCount (url key : Text) (expected : Option Nat) (found : Nat) : Except Fault Unit :=
  match expected with
  | none => .ok ()
  | some n => if n = found then .ok () else .error (.mismatchedCount key n found url)

mutual

/-- Runs a scheme for every match inside a container. -/
def many (url : Text) : Scheme → Place → Except Fault (List Json)
  | .string _ path reading _, p => do
    return (← selectAll url path p).map (readElement reading)
  | .list _ path none _ _, p => do
    return (← selectAll url path p).map untypedItems
  | .list _ path (some element) _ _, p => do
    (← selectAll url path p).mapM fun container => Json.array <$> many url element container
  | .object _ fields, p => do
    return rows (← columns url none fields p)
  | .foreign node, _ => .error (.schemeKind node.kind)
termination_by structural scheme => scheme

/-- Runs fields one after the other for every match, each as often as the first one matched. -/
def columns (url : Text) (expected : Option Nat) :
    List (Field Scheme) → Place → Except Fault (List Column)
  | [], _ => .ok []
  | ⟨key, none⟩ :: rest, p => do
    return (key, none) :: (← columns url expected rest p)
  | ⟨key, some value⟩ :: rest, p => do
    let values ← many url value p
    -- The first field that has values sets the count; every later one has to give as many.
    expectCount url key expected values.length
    return (key, some values) :: (← columns url (some values.length) rest p)
termination_by structural fields => fields

end

mutual

/-- Runs a scheme once at a place. -/
def one (url : Text) : Scheme → Place → Except Fault Json
  | .string _ path reading _, p => do
    return readElement reading (← selectOne url path p)
  | .list _ path none _ _, p => do
    return untypedItems (← selectOne url path p)
  | .list _ path (some element) _ _, p => do
    return .array (← many url element (← selectOne url path p))
  | .object _ fields, p => do
    return .object (Json.putAll (← members url fields p))
  | .foreign node, _ => .error (.schemeKind node.kind)
termination_by structural scheme => scheme

def members (url : Text) : List (Field Scheme) → Place → Except Fault (List (Text × Json))
  | [], _ => .ok []
  | ⟨key, none⟩ :: rest, p => do
    return (key, .null) :: (← members url rest p)
  | ⟨key, some value⟩ :: rest, p => do
    let value ← one url value p
    return (key, value) :: (← members url rest p)
termination_by structural fields => fields

end

structure Yield where
  path : Option Text
  count : Nat

mutual

/-- The lists that are read one after the other while a scheme is run once, up to a failure. -/
def yields (url : Text) : Scheme → Place → List Yield
  | .list label path (some element) content elements, p =>
    match one url (.list label path (some element) content elements) p with
    | .ok value => [⟨path, value.items.length⟩]
    | .error _ => []
  | .object _ fields, p => yieldsOf url fields p
  | _, _ => []
termination_by structural scheme => scheme

def yieldsOf (url : Text) : List (Field Scheme) → Place → List Yield
  | [], _ => []
  | ⟨_, none⟩ :: rest, p => yieldsOf url rest p
  | ⟨_, some value⟩ :: rest, p =>
    yields url value p ++
      match one url value p with
      | .ok _ => yieldsOf url rest p
      | .error _ => []
termination_by structural fields => fields

end
end Extraction

def extract (scheme : Scheme) (source : Source) (url : Text) : Except Fault Json := do
  let page ← Page.read source
  Extraction.one url scheme page.rootPlace

/-- Reads a page and runs instructions against it, at the address that they name. -/
def Instructions.extract (i : Instructions) (source : Source) : Except Fault Json :=
  PageScheme.extract i.scheme source i.url

end PageScheme
