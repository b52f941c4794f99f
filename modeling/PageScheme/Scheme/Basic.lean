import PageScheme.Json.Basic

/-!
# Schemes

A scheme says how one piece of data is read from a part of a page. A string is read from one
element, a list from the elements that repeat inside a container, an object from its fields, one
after the other. The same tree also holds what was read: `content` of a string or list, and one
populated copy of a list's element scheme for each item.

A tree that was put together without checking may hold nodes that are no schemes. They are kept as
they are until something has to be made of them, which fails with their kind.
-/
namespace PageScheme

/-- What every scheme may be annotated with: the page it reads from, where that is not the page of
its surroundings, and a name. -/
structure Label where
  url : Option Text := none
  name : Option Text := none
  deriving DecidableEq, Repr, Inhabited

inductive Reading
  | innerHtml
  | source
  deriving DecidableEq, Repr

/-- A node that is no scheme: a bare value, or something that names a kind of its own. -/
inductive Foreign
  | raw (value : Json)
  | tagged (tag : Json) (url : Json)

structure Field (σ : Type) where
  key : Text
  value : Option σ

/-- A scheme. The content of a string that has none is null. -/
inductive Scheme
  | string (label : Label) (path : Option Text) (reading : Reading) (content : Json)
  | list (label : Label) (path : Option Text) (element : Option Scheme)
      (content : Option (List Json)) (elements : Option (List Scheme))
  | object (label : Label) (fields : List (Field Scheme))
  | foreign (node : Foreign)

instance : Inhabited Scheme := ⟨.object {} []⟩

structure Instructions where
  url : Text
  scheme : Scheme

inductive Document
  | bare (scheme : Scheme)
  | instructions (instructions : Instructions)

/-- A path that is there; an empty one counts as absent. -/
def given (path : Option Text) : Option Text := path.filter (· ≠ [])

@[simp] theorem given_none : given none = none := rfl

@[simp] theorem given_some_eq_some {path : Text} : given (some path) = some path ↔ path ≠ [] := by
  simp [given]

theorem given_eq_some {path : Option Text} {found : Text} :
    given path = some found ↔ path = some found ∧ found ≠ [] := by
  simp [given, Option.filter_eq_some_iff]

namespace Reading

def name : Reading → String
  | innerHtml => "INNER_HTML"
  | source => "SRC"

def ofName? (name : String) : Option Reading :=
  if name = "INNER_HTML" then some innerHtml else if name = "SRC" then some source else none

@[simp] theorem ofName?_name (reading : Reading) : ofName? reading.name = some reading := by
  cases reading <;> rfl

end Reading

inductive Kind
  | string
  | list
  | object
  deriving DecidableEq, Repr

namespace Kind

def name : Kind → String
  | string => "STRING"
  | list => "LIST"
  | object => "OBJECT"

def all : List Kind := [string, list, object]

def ofName? (name : String) : Option Kind := all.find? fun kind => kind.name = name

@[simp] theorem ofName?_name (kind : Kind) : ofName? kind.name = some kind := by
  cases kind <;> rfl

def ofJson? : Json → Option Kind
  | .string t => t.toString?.bind ofName?
  | _ => none

end Kind

def Foreign.kind : Foreign → Json
  | raw value => .ofString value.typeName
  | tagged tag _ => tag

namespace Scheme

/-- The kind of a node, or what it gives as one. -/
def kind : Scheme → Json
  | string .. => .ofString Kind.string.name
  | list .. => .ofString Kind.list.name
  | object .. => .ofString Kind.object.name
  | foreign node => node.kind

def empty : Kind → Scheme
  | .string => string {} none .innerHtml .null
  | .list => list {} none none none none
  | .object => object {} []

/-- The keys of an object in order, repeated ones included; any other scheme has none. -/
def keys : Scheme → List Text
  | object _ fields => fields.map Field.key
  | _ => []

def lastField (key : Text) (fields : List (Field Scheme)) : Option (Field Scheme) :=
  fields.reverse.find? fun field => field.key = key

/-- The scheme for a key: that of the last field with the key. -/
def get (key : Text) : Scheme → Option Scheme
  | object _ fields => (lastField key fields).bind Field.value
  | _ => none

end Scheme

namespace Document

def scheme : Document → Scheme
  | bare scheme => scheme
  | instructions i => i.scheme

def withScheme : Document → Scheme → Document
  | bare _, scheme => bare scheme
  | instructions i, scheme => instructions { i with scheme }

def url? : Document → Option Text
  | bare _ => none
  | instructions i => some i.url

@[simp] theorem scheme_withScheme (document : Document) (scheme : Scheme) :
    (document.withScheme scheme).scheme = scheme := by
  cases document <;> rfl

end Document
end PageScheme
