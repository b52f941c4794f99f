import PageScheme.Page.Place
import PageScheme.Selector.Demand

/-!
# Matching

A selector is run from a context element. The first compound of a chain matches the context or
something below it; from there the chain may lead anywhere in the document. The result holds the
elements that the last compound of some chain can end at, once each, in document order.

`Condition.holds` follows the trail of a chain backwards from its last element, so that each element
of the document is asked once whether a chain ends there.
-/
namespace PageScheme
namespace Selector

def hasTag (tag : Option String) (node : Node) : Bool :=
  match node.tag? with
  | none => false
  | some name => tag.all (· = name)

def ElementTest.holds (test : ElementTest) (node : Node) : Bool :=
  match test with
  | .any => hasTag none node
  | .tag name => hasTag (some name) node
  | .inSpace _ _ => false

def wordsOf (s : List Char) : List (List Char) :=
  s.splitOnP fun c => c = ' ' || c = '\t' || c = '\n' || c = '\r'

def isInfix (part : List Char) : List Char → Bool
  | [] => part.isEmpty
  | c :: rest => part.isPrefixOf (c :: rest) || isInfix part rest

def Comparison.holds (comparison : Comparison) (value found : List Char) : Bool :=
  match comparison with
  | .exists => true
  | .equals => found = value
  | .differs => found ≠ value
  | .includes => (wordsOf found).contains value
  | .dashMatch => found = value || (value ++ ['-']).isPrefixOf found
  | .startsWith => value.isPrefixOf found
  | .endsWith => value.isSuffixOf found
  | .contains => isInfix value found

def AttributeTest.letters (test : AttributeTest) (s : String) : List Char :=
  if test.ignoreCase then s.toList.map Text.smallAscii else s.toList

/-- Whether an attribute meets a test; `found` is none if it is not there. Nothing differs from an
attribute that is not there, except the empty text. -/
def AttributeTest.holds (test : AttributeTest) (found : Option String) : Bool :=
  match found with
  | none => test.comparison = .differs && test.value ≠ ""
  | some s => test.comparison.holds (test.letters test.value) (test.letters s)

def countOf (tag : Option String) (nodes : List Node) : Nat := nodes.countP (hasTag tag)

def tagIn (tags : List String) (p : Place) : Bool := p.node.tag?.any tags.contains

def has (name : String) (p : Place) : Bool := (p.attribute? name).isSome

/-- Whether a place lies in an element that switches off what is inside it: a fieldset switches off
everything but its first legend. -/
def isSwitchedOff (p : Place) : Bool :=
  ((p :: p.ancestors).zip p.ancestors).any fun (inner, outer) =>
    tagIn ["fieldset"] outer && has "disabled" outer &&
      !(tagIn ["legend"] inner && countOf (some "legend") inner.before = 0)

def isControl (p : Place) : Bool :=
  tagIn ["button", "input", "select", "textarea", "fieldset", "optgroup", "option"] p

def isDisabled (p : Place) : Bool :=
  isControl p &&
    (has "disabled" p ||
      (tagIn ["button", "input", "select", "textarea"] p && isSwitchedOff p) ||
      (tagIn ["option"] p && p.ancestors.any fun q => tagIn ["optgroup"] q && has "disabled" q))

def isChecked (p : Place) : Bool :=
  (has "selected" p && tagIn ["option"] p) ||
    (has "checked" p && tagIn ["input", "command"] p &&
      (p.attribute? "type").any fun kind => kind = "checkbox" || kind = "radio")

def languageAt (p : Place) : Option String := (p :: p.ancestors).findSome? (·.attribute? "lang")

def elementsOf (places : List Place) : List Place := places.filter Place.isElement

def followingOf (p : Place) : List Place := Place.among p.above (p.node :: p.before) p.after

/-- The places to which a combinator leads from a place. -/
def Combinator.targets (combinator : Combinator) (p : Place) : List Place :=
  match combinator with
  | .child => p.children
  | .descendant => p.subtree.drop 1
  | .adjacent => (elementsOf (followingOf p)).take 1
  | .sibling => followingOf p

/-- The places from which a combinator leads to a place. -/
def Combinator.sources (combinator : Combinator) (p : Place) : List Place :=
  match combinator with
  | .child => p.parent?.toList
  | .descendant => p.ancestors
  | .adjacent => (elementsOf p.preceding).take 1
  | .sibling => elementsOf p.preceding

mutual

def Condition.holds (context : Place) : Condition → Place → Bool
  | .always, _ => true
  | .never, _ => false
  | .scope, p => p.address = context.address
  | .name tag, p => hasTag (some tag) p.node
  | .attribute test, p => test.space.isNone && test.holds (p.attribute? test.name)
  | .root, p => p.above.isEmpty
  -- Comments do not fill an element.
  | .empty, p => !p.node.children.any Node.isElement && p.node.textContent.isEmpty
  -- The place itself is not among the nodes before and behind it, so one is added.
  | .position tag fromEnd step offset, p =>
    inSeries step offset (countOf tag (if fromEnd then p.after else p.before) + 1)
  | .only tag, p => countOf tag p.before + countOf tag p.after = 0
  | .contains text, p => isInfix text.toList (Text.lower (String.ofList p.node.textContent)).toList
  | .language code, p =>
    (languageAt p).any fun found =>
      -- A code stands for itself and for what it is refined to behind a hyphen.
      (code.toList ++ ['-']).isPrefixOf ((Text.lowerAscii found).toList ++ ['-'])
  | .link, p => has "href" p && tagIn ["a", "link", "area"] p
  | .checked, p => isChecked p
  | .enabled, p => isControl p && !isDisabled p
  | .disabled, p => isDisabled p
  | .ahead trail, p => trail.leadsFrom context p
  | .behind trail, p => trail.leadsTo context p
  | .not condition, p => !condition.holds context p
  | .both left right, p => left.holds context p && right.holds context p
  | .either left right, p => left.holds context p || right.holds context p
termination_by structural condition => condition

def Trail.leadsFrom (context : Place) : Trail → Place → Bool
  | .anywhere, _ => true
  | .inContext, p => p.isWithin context
  | .step combinator element condition rest, p =>
    (combinator.targets p).any fun q =>
      element.holds q.node && condition.holds context q && rest.leadsFrom context q
termination_by structural trail => trail

/-- Whether a trail can be followed backwards from a place. -/
def Trail.leadsTo (context : Place) : Trail → Place → Bool
  | .anywhere, _ => true
  | .inContext, p => p.isWithin context
  | .step combinator element condition rest, p =>
    (combinator.sources p).any fun q =>
      element.holds q.node && condition.holds context q && rest.leadsTo context q
termination_by structural trail => trail

end

def Demand.holds (d : Demand) (context p : Place) : Bool :=
  d.element.holds p.node && d.condition.holds context p

/-- Whether a route from the context can end at a place. -/
def Route.endsAt (route : Route) (context p : Place) : Bool :=
  let (last, trail) := route.backwards .inContext
  last.holds context p && trail.leadsTo context p

end Selector
end PageScheme
