import PageScheme.Page.Place
import PageScheme.Path
import PageScheme.Text.Lowercase

/-!
# The structural path of a place

The path of an element leads down to it from just below the body of its document. Tags are compared
and written in lower case. A segment carries a position only where its element has siblings of the
same tag; comments and text do not count.

The walk up ends at the document's own body or root, which are those with at most one element around
them. A tree without them is walked to its top, and a topmost `html` is left out.
-/
namespace PageScheme

def Node.lowerTag? (node : Node) : Option String := node.tag?.map Text.lower

namespace Place

/-- An element on the way up: its tag in lower case, and the nodes before and after it. -/
structure Level where
  tag : String
  before : List Node
  after : List Node

def countTag (tag : String) (nodes : List Node) : Nat :=
  nodes.countP fun node => node.lowerTag? == some tag

def Level.segment (level : Level) : Text :=
  let earlier := countTag level.tag level.before
  if earlier + countTag level.tag level.after = 0 then Text.ofString level.tag
  else Path.ordinal level.tag (earlier + 1)

def boundaryTags : List String := ["body", "html"]

/-- The segments from an element up, innermost first. An element with nothing around it has no
siblings to be told apart from. -/
def segmentsUp : List Level → List Text
  | [] => []
  | [level] => if boundaryTags.contains level.tag then [] else [Text.ofString level.tag]
  | level :: outer :: rest =>
    -- Only one element is around this one, so it is the document's own body, or its root.
    if rest.isEmpty && boundaryTags.contains level.tag then []
    else level.segment :: segmentsUp (outer :: rest)

/-- The elements from a place up, innermost first, the place included. -/
def levels (tag : String) (p : Place) : List Level :=
  ⟨Text.lower tag, p.before, p.after⟩ ::
    p.above.map fun frame => ⟨Text.lower frame.tag, frame.before, frame.after⟩

def dropRoot : List Text → List Text
  | [] => []
  | segment :: rest => if segment = Text.ofString "html" then rest else segment :: rest

/-- The structural path of a place; what is no element has none. -/
def path (p : Place) : Text :=
  match p.node.tag? with
  | none => []
  | some tag => Path.join (dropRoot (segmentsUp (p.levels tag)).reverse)

end Place
end PageScheme
