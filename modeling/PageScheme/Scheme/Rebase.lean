import PageScheme.Fault
import PageScheme.Path
import PageScheme.Scheme.Basic

/-!
# Paths relative to a list

While a scheme is put together every path is recorded from the top of the page. What is read inside
a list depends only on the way from the container to an item, so below a list the paths are
expressed from the path of the list. `rebase` looks for the outermost lists; `rebaseOnto` changes
what lies below one.

A nested list is treated like anything else below a list, and what lies below it is expressed from
the path that the nested list had before. A list without a path, or without anything to be read from
its items, leaves what lies below it alone.

The populated copies of an element scheme follow the element scheme.
-/
namespace PageScheme.Scheme

mutual

/-- A scheme with its paths, and those below it, expressed from a path above it. -/
def rebaseOnto (parent : Text) : Scheme → Except Fault Scheme
  | string label path reading content =>
    match given path with
    | some own => .ok (string label (some (Path.relativeTo own parent)) reading content)
    | none => .ok (string label path reading content)
  | list label path element content elements =>
    match given path with
    | some own => do
      let element ←
        match element with
        -- What lies below is expressed from the path that the list had before.
        | some element => some <$> element.rebaseOnto own
        | none => pure none
      let elements ←
        match elements with
        | some elements => some <$> rebaseItems own elements
        | none => pure none
      return list label (some (Path.relativeTo own parent)) element content elements
    -- Without a path of its own, the list leaves alone what lies below it.
    | none => .ok (list label path element content elements)
  | object label fields => object label <$> rebaseFieldsOnto parent fields
  | foreign node => .error (.schemeKind node.kind)
termination_by structural scheme => scheme

def rebaseItems (parent : Text) : List Scheme → Except Fault (List Scheme)
  | [] => .ok []
  | scheme :: rest => do
    let scheme ← scheme.rebaseOnto parent
    return scheme :: (← rebaseItems parent rest)
termination_by structural schemes => schemes

def rebaseFieldsOnto (parent : Text) : List (Field Scheme) → Except Fault (List (Field Scheme))
  | [] => .ok []
  | ⟨key, value⟩ :: rest => do
    let value ←
      match value with
      | some value => some <$> value.rebaseOnto parent
      | none => pure none
    return ⟨key, value⟩ :: (← rebaseFieldsOnto parent rest)
termination_by structural fields => fields

end

mutual

/-- A scheme in which what lies below a list is expressed from the path of the list. -/
def rebase : Scheme → Except Fault Scheme
  | list label path (some element) content elements =>
    match given path with
    | some own => do
      let element ← element.rebaseOnto own
      let elements ←
        match elements with
        | some elements => some <$> rebaseItems own elements
        | none => pure none
      return list label path (some element) content elements
    | none => .ok (list label path (some element) content elements)
  | list label path none content elements => .ok (list label path none content elements)
  | string label path reading content => .ok (string label path reading content)
  | object label fields => object label <$> rebaseFields fields
  | foreign node => .error (.schemeKind node.kind)
termination_by structural scheme => scheme

def rebaseFields : List (Field Scheme) → Except Fault (List (Field Scheme))
  | [] => .ok []
  | ⟨key, value⟩ :: rest => do
    let value ←
      match value with
      | some value => some <$> value.rebase
      | none => pure none
    return ⟨key, value⟩ :: (← rebaseFields rest)
termination_by structural fields => fields

end

mutual

/-- The paths of the lists from which others are rebased, in order. -/
def rebasedLists : Scheme → List Text
  | list _ path (some _) _ _ => (given path).toList
  | object _ fields => rebasedListsOf fields
  | _ => []
termination_by structural scheme => scheme

def rebasedListsOf : List (Field Scheme) → List Text
  | [] => []
  | ⟨_, value⟩ :: rest =>
    (match value with
    | some value => value.rebasedLists
    | none => []) ++ rebasedListsOf rest
termination_by structural fields => fields

end

theorem rebaseItems_eq_mapM (parent : Text) (schemes : List Scheme) :
    rebaseItems parent schemes = schemes.mapM (rebaseOnto parent) := by
  induction schemes with
  | nil => rfl
  | cons scheme rest ih => simp [rebaseItems, ih]

end PageScheme.Scheme

namespace PageScheme

def Instructions.rebase (i : Instructions) : Except Fault Instructions := do
  return { i with scheme := ← i.scheme.rebase }

end PageScheme
