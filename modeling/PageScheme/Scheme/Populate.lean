import PageScheme.Fault
import PageScheme.Scheme.Basic

/-!
# Populating a scheme

`populate` puts what was read from a page next to the rules that read it. The content is not
trusted to have the shape of the scheme: where a list should be and is none, the list is empty;
where an object should be and is none, the fields stay as they are.

The element scheme of a list shows the first item. With one copy for each item as well, the list
keeps a copy of its element scheme for every item; copies from an earlier content never stay.
-/
namespace PageScheme

/-- How the items of a list reach its element scheme. -/
inductive Spread
  /-- The element scheme shows the first item. -/
  | representative
  /-- There is also one copy of the element scheme for each item. -/
  | perElement
  deriving DecidableEq, Repr

namespace Scheme

mutual

def populate (spread : Spread) : Scheme → Json → Except Fault Scheme
  | string label path reading _, content => .ok (string label path reading content)
  | list label path none _ _, content => .ok (list label path none (some content.items) none)
  | list label path (some element) _ _, content => do
    let first ← element.populate spread (content.items.head?.getD .null)
    let elements ←
      match spread with
      -- Copies of an earlier content do not stay.
      | .representative => pure none
      | .perElement => some <$> content.items.mapM (element.populate spread)
    return list label path (some first) (some content.items) elements
  | object label fields, content => object label <$> populateFields spread fields content
  | foreign node, _ => .error (.schemeKind node.kind)
termination_by structural scheme => scheme

/-- Fields one after the other, each populated with the value of its key, where there is one. -/
def populateFields (spread : Spread) :
    List (Field Scheme) → Json → Except Fault (List (Field Scheme))
  | [], _ => .ok []
  | ⟨key, none⟩ :: rest, content => do
    return ⟨key, none⟩ :: (← populateFields spread rest content)
  | ⟨key, some value⟩ :: rest, content => do
    let value ←
      match content.get? key with
      | some found => value.populate spread found
      -- A key that the content does not have leaves the field as it was.
      | none => pure value
    return ⟨key, some value⟩ :: (← populateFields spread rest content)
termination_by structural fields => fields

end

inductive Misfit
  | list (content : Json)
  | object (content : Json)

/-- A remark, unless there is no content at all. -/
def Misfit.unlessNull (misfit : Json → Misfit) (content : Json) : List Misfit :=
  if content.isNull then [] else [misfit content]

def listMisfit : Json → List Misfit
  | .array _ => []
  | content => Misfit.unlessNull .list content

def objectMisfit : Json → List Misfit
  | .object _ => []
  | content => Misfit.unlessNull .object content

mutual

/-- Where the content does not have the shape of the scheme, in the order of population. -/
def misfits (spread : Spread) : Scheme → Json → List Misfit
  | list _ _ none _ _, content => listMisfit content
  | list _ _ (some element) _ _, content =>
    listMisfit content ++ element.misfits spread (content.items.head?.getD .null) ++
      match spread with
      | .representative => []
      | .perElement => content.items.flatMap (element.misfits spread)
  | object _ fields, content => objectMisfit content ++ misfitsOf spread fields content
  | _, _ => []
termination_by structural scheme => scheme

def misfitsOf (spread : Spread) : List (Field Scheme) → Json → List Misfit
  | [], _ => []
  | ⟨_, none⟩ :: rest, content => misfitsOf spread rest content
  | ⟨key, some value⟩ :: rest, content =>
    (match content.get? key with
    | some found => value.misfits spread found
    | none => []) ++ misfitsOf spread rest content
termination_by structural fields => fields

end
end Scheme

def Instructions.populate (spread : Spread) (i : Instructions) (content : Json) :
    Except Fault Instructions := do
  return { i with scheme := ← i.scheme.populate spread content }

end PageScheme
