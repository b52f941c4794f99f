import PageScheme.Selector.Matching

/-!
# Selection

What keeps a selector from being run has an order. It may be no selector. It may compare something
with a text that holds a character which XML has no place for; no page is looked at then. And it may
name a space: no space has a name in a page, so this fails as soon as something is looked for in
one.

Conditions are looked at from left to right, and only as far as they matter. So a space that is
named in a condition does no harm where no element gets as far as that condition. A step into a
named space fails even where nothing leads to it.
-/
namespace PageScheme
namespace Selector

inductive Failure
  | invalid (fault : Fault)
  | forbiddenCharacter
  | undefinedSpace

def isXmlChar (c : Char) : Bool :=
  c = '\t' || c = '\n' || c = '\r' || (0x20 ≤ c.toNat && c.toNat ≠ 0xFFFE && c.toNat ≠ 0xFFFF)

/-- Whether a route compares with texts of XML characters alone. -/
def Route.isWritable (route : Route) : Bool := route.texts.all fun s => s.toList.all isXmlChar

def Trail.namesSpace : Trail → Bool
  | step _ element _ rest => element.namesSpace || rest.namesSpace
  | _ => false

mutual

/-- Whether looking at a condition at a place means looking into a named space. -/
def Condition.looksUp (context : Place) : Condition → Place → Bool
  | .attribute test, _ => test.space.isSome
  | .ahead trail, p => trail.namesSpace || trail.looksUpFrom context p
  | .behind trail, p => trail.namesSpace || trail.looksUpTo context p
  | .not condition, p => condition.looksUp context p
  -- The second half is looked at only where the first one leaves the answer open.
  | .both left right, p =>
    left.looksUp context p || (left.holds context p && right.looksUp context p)
  | .either left right, p =>
    left.looksUp context p || (!left.holds context p && right.looksUp context p)
  | _, _ => false
termination_by structural condition => condition

def Trail.looksUpFrom (context : Place) : Trail → Place → Bool
  | .step combinator element condition rest, p =>
    (combinator.targets p).any fun q =>
      element.holds q.node &&
        (condition.looksUp context q ||
          (condition.holds context q && rest.looksUpFrom context q))
  | _, _ => false
termination_by structural trail => trail

def Trail.looksUpTo (context : Place) : Trail → Place → Bool
  | .step combinator element condition rest, p =>
    (combinator.sources p).any fun q =>
      element.holds q.node &&
        (condition.looksUp context q || (condition.holds context q && rest.looksUpTo context q))
  | _, _ => false
termination_by structural trail => trail

end

/-- Whether a condition of some step of a trail, on an element that the rest of the trail leads back
from, is looked up in a named space. -/
def Trail.looksUp (context : Place) : Trail → Bool
  | step _ element condition rest =>
    (context.document.any fun p =>
      element.holds p.node && condition.looksUp context p && rest.leadsTo context p) ||
      rest.looksUp context
  | _ => false

def Route.looksUp (route : Route) (context : Place) : Bool :=
  let (last, trail) := route.backwards .inContext
  let whole := Trail.step .descendant last.element last.condition trail
  whole.namesSpace || whole.looksUp context

/-- The elements that a selector finds from a context. -/
def select (source : String) (context : Place) : Except Failure (List Place) :=
  match routes source with
  | .error fault => .error (.invalid fault)
  | .ok routes =>
    -- The texts are looked at before the page is.
    if !routes.all Route.isWritable then .error .forbiddenCharacter
    else if routes.any (·.looksUp context) then .error .undefinedSpace
    else .ok (context.document.filter fun p => routes.any fun route => route.endsAt context p)

end Selector
end PageScheme
