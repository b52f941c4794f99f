import PageScheme.Selector.Syntax

/-!
# What a selector asks for

A demand is made of one element: its tag, and conditions that hold at its place. A trail is a way
through a page: each of its steps leads from a place to related ones and makes a demand of them. It
is walked backwards from the end of a chain, and forwards from an element that a relation looks
around.
-/
namespace PageScheme.Selector

/-- The element that is asked for; one in a named space cannot be found. -/
inductive ElementTest
  | any
  | tag (name : String)
  | inSpace (space name : String)
  deriving DecidableEq, Repr

mutual

inductive Condition
  | always
  | never
  | scope
  | name (tag : String)
  | attribute (test : AttributeTest)
  | root
  | empty
  /-- The position of the place among its siblings, or among those of a tag, counted from one end,
  is `step * n + offset` for some number `n`. -/
  | position (tag : Option String) (fromEnd : Bool) (step offset : Int)
  | only (tag : Option String)
  | contains (text : String)
  | language (code : String)
  | link
  | checked
  | enabled
  | disabled
  /-- A trail leads from the place to another one. -/
  | ahead (trail : Trail)
  /-- A trail, walked backwards, leads from the place to another one. -/
  | behind (trail : Trail)
  | not (condition : Condition)
  | both (left right : Condition)
  | either (left right : Condition)

/-- A way through a page. Where it ends, it may ask to be inside the context of the selection. -/
inductive Trail
  | anywhere
  | inContext
  | step (combinator : Combinator) (element : ElementTest) (condition : Condition) (rest : Trail)

end

instance : Inhabited Condition := ⟨.always⟩

structure Demand where
  element : ElementTest
  condition : Condition := .always

structure Route where
  first : Demand
  rest : List (Combinator × Demand)

def ElementTest.name? : ElementTest → Option String
  | any => none
  | tag name => some name
  | inSpace space name => some (space ++ ":" ++ name)

def ElementTest.namesSpace : ElementTest → Bool
  | inSpace _ _ => true
  | _ => false

namespace Demand

def ask (d : Demand) (condition : Condition) : Demand :=
  { d with
    condition :=
      match d.condition with
      -- Nothing has been asked so far.
      | .always => condition
      | before => .both before condition }

/-- The demand for any element that meets a condition with the name of the tag in it. -/
def named (d : Demand) : Demand :=
  match d.element.name? with
  | none => d
  | some name => { ask d (.name name) with element := .any }

/-- The demand for an element that a combinator leads to. The next sibling has to be found before
its name is asked for. -/
def reachedBy (combinator : Combinator) (d : Demand) : Demand :=
  if combinator = .adjacent then d.named else d

end Demand

namespace Route

/-- The last demand of a route, and the trail back from there to a start. -/
def backwards (start : Trail) (route : Route) : Demand × Trail :=
  route.rest.foldl
    -- The demand that was last so far becomes the first step of the way back.
    (fun (last, trail) (combinator, next) =>
      (next.reachedBy combinator, .step combinator last.element last.condition trail))
    (route.first, start)

/-- The trail that starts with a combinator and follows a route. -/
def forwards (combinator : Combinator) (route : Route) : Trail :=
  ((combinator, route.first) :: route.rest).foldr
    (fun (combinator, demand) rest =>
      let demand := demand.reachedBy combinator
      .step combinator demand.element demand.condition rest)
    .anywhere

def condition (route : Route) : Condition :=
  let (last, trail) := route.backwards .anywhere
  match trail with
  -- A single compound says nothing of what is around it.
  | .anywhere => last.named.condition
  | trail => (last.named.ask (.behind trail)).condition

end Route

mutual

def Condition.texts : Condition → List String
  | .name tag => [tag]
  | .attribute test => [test.name, test.value]
  | .contains text => [text]
  | .language code => [code]
  | .ahead trail => trail.texts
  | .behind trail => trail.texts
  | .not condition => condition.texts
  | .both left right => left.texts ++ right.texts
  | .either left right => left.texts ++ right.texts
  | _ => []
termination_by structural condition => condition

def Trail.texts : Trail → List String
  | .step _ _ condition rest => condition.texts ++ rest.texts
  | _ => []
termination_by structural trail => trail

end

def Route.texts (route : Route) : List String :=
  route.first.condition.texts ++ route.rest.flatMap fun (_, demand) => demand.condition.texts

end PageScheme.Selector
