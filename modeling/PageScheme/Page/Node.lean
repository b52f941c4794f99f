/-!
# Nodes of a page

A page is a tree of elements with text between them. Verbatim text is what stands in a script or a
style sheet: nothing in it is escaped. Comments, processing instructions and entity references are
nodes too, but no elements: they count neither as children of a tag nor as matches.
-/
namespace PageScheme

/-- An attribute; one that is written as a bare name has no value. -/
structure Attribute where
  name : String
  value : Option String
  deriving DecidableEq, Repr, Inhabited

inductive Node
  | element (tag : String) (attributes : List Attribute) (children : List Node)
  | text (content : String)
  | verbatim (content : String)
  | comment (content : String)
  | instruction (content : String)
  | entity (name : String)
  deriving Inhabited

namespace Node

def tag? : Node → Option String
  | element tag .. => some tag
  | _ => none

def isElement : Node → Bool
  | element .. => true
  | _ => false

def text? : Node → Option String
  | text content => some content
  | verbatim content => some content
  | _ => none

def isText (node : Node) : Bool := node.text?.isSome

def attributes : Node → List Attribute
  | element _ attributes _ => attributes
  | _ => []

def children : Node → List Node
  | element _ _ children => children
  | _ => []

/-- The value of an attribute: empty for a bare name, none if it is not there. -/
def attribute? (node : Node) (name : String) : Option String :=
  (node.attributes.find? fun a => a.name = name).map fun a => a.value.getD ""

mutual

def textContent : Node → List Char
  | element _ _ children => textContentOf children
  | text content => content.toList
  | verbatim content => content.toList
  | comment _ => []
  | instruction _ => []
  | entity _ => []
termination_by structural node => node

def textContentOf : List Node → List Char
  | [] => []
  | node :: rest => node.textContent ++ textContentOf rest
termination_by structural nodes => nodes

end
end Node
end PageScheme
