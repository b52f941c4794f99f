import PageScheme.Page.Node

/-!
# Places in a page

A place is a node together with everything around it, so that its parent, its siblings and the
document it belongs to can be asked for. The nodes next to it stand nearest first; the elements
around it stand innermost first, each with what is next to it in turn.

The root of a document has no parent, but there may be comments next to it, and further roots.
-/
namespace PageScheme

/-- An element around a place: its tag and attributes, and the nodes before and after it. -/
structure Frame where
  tag : String
  attributes : List Attribute
  before : List Node
  after : List Node

structure Place where
  node : Node
  before : List Node
  after : List Node
  above : List Frame

structure Page where
  before : List Node
  root : Node
  after : List Node

namespace Place

/-- The nodes of a list as places, in order; those in `before` come first. -/
def among (above : List Frame) (before : List Node) : List Node → List Place
  | [] => []
  | node :: rest => ⟨node, before, rest, above⟩ :: among above (node :: before) rest

def children (p : Place) : List Place :=
  match p.node with
  | .element tag attributes children =>
    among (⟨tag, attributes, p.before, p.after⟩ :: p.above) [] children
  | _ => []

def parent? (p : Place) : Option Place :=
  match p.above with
  | [] => none
  | frame :: above =>
    -- The parent is put together again from what is around the place.
    some ⟨.element frame.tag frame.attributes (p.before.reverse ++ p.node :: p.after),
      frame.before, frame.after, above⟩

mutual

/-- A node and all nodes below it as places, in document order. -/
def allWithin (above : List Frame) (before after : List Node) : Node → List Place
  | .element tag attributes children =>
    ⟨.element tag attributes children, before, after, above⟩ ::
      allAmong (⟨tag, attributes, before, after⟩ :: above) [] children
  | .text content => [⟨.text content, before, after, above⟩]
  | .verbatim content => [⟨.verbatim content, before, after, above⟩]
  | .comment content => [⟨.comment content, before, after, above⟩]
  | .instruction content => [⟨.instruction content, before, after, above⟩]
  | .entity name => [⟨.entity name, before, after, above⟩]
termination_by structural node => node

def allAmong (above : List Frame) (before : List Node) : List Node → List Place
  | [] => []
  | node :: rest => allWithin above before rest node ++ allAmong above (node :: before) rest
termination_by structural nodes => nodes

end

def subtree (p : Place) : List Place := allWithin p.above p.before p.after p.node

/-- The places before a place that have the same parent, nearest first; `after` holds the nodes
behind them. -/
def precedingFrom (above : List Frame) (after : List Node) : List Node → List Place
  | [] => []
  | node :: rest => ⟨node, rest, after, above⟩ :: precedingFrom above (node :: after) rest

def preceding (p : Place) : List Place := precedingFrom p.above (p.node :: p.after) p.before

/-- The elements around a place, innermost first; the place itself is given by what is around it and
by the elements around it. -/
def enclosing (node : Node) (before after : List Node) : List Frame → List Place
  | [] => []
  | frame :: above =>
    let outer := Node.element frame.tag frame.attributes (before.reverse ++ node :: after)
    ⟨outer, frame.before, frame.after, above⟩ :: enclosing outer frame.before frame.after above

def ancestors (p : Place) : List Place := enclosing p.node p.before p.after p.above

def outermost (p : Place) : Place := p.ancestors.getLastD p

def document (p : Place) : List Place :=
  let root := p.outermost
  allAmong [] [] (root.before.reverse ++ root.node :: root.after)

/-- Where a place is: its position below its parent, then the position of its parent, and so on. -/
def address (p : Place) : List Nat :=
  p.before.length :: p.above.map fun frame => frame.before.length

/-- Whether a place is another one or lies below it. -/
def isWithin (p q : Place) : Bool := q.address.isSuffixOf p.address

def isElement (p : Place) : Bool := p.node.isElement

def attribute? (p : Place) (name : String) : Option String := p.node.attribute? name

end Place

def Page.rootPlace (page : Page) : Place := ⟨page.root, page.before.reverse, page.after, []⟩

end PageScheme
