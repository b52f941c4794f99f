import PageScheme.Fault
import PageScheme.Scheme.Basic

/-!
# The pages a scheme reads from

A node reads from the page its label names, or else from that of what it lies in; the instructions
name the page of the root. An empty address counts as absent. `sources` lists the pages of all
nodes, each once, in the order in which they are first met.
-/
namespace PageScheme

/-- The page of a node that lies in something read from `inherited`. -/
def Label.effectiveUrl (label : Label) (inherited : Text) : Text :=
  (label.url.filter (· ≠ [])).getD inherited

namespace Scheme

mutual

/-- The page of every node from the root down. -/
def pages (inherited : Text) : Scheme → Except Fault (List Text)
  | string label .. => .ok [label.effectiveUrl inherited]
  | list label _ element _ _ => do
    let below ←
      match element with
      | some element => element.pages (label.effectiveUrl inherited)
      | none => pure []
    return label.effectiveUrl inherited :: below
  | object label fields => do
    return label.effectiveUrl inherited :: (← pagesOf (label.effectiveUrl inherited) fields)
  | foreign node => .error (.schemeKind node.kind)
termination_by structural scheme => scheme

def pagesOf (inherited : Text) : List (Field Scheme) → Except Fault (List Text)
  | [] => .ok []
  | ⟨_, value⟩ :: rest => do
    let first ←
      match value with
      | some value => value.pages inherited
      | none => pure []
    return first ++ (← pagesOf inherited rest)
termination_by structural fields => fields

end
end Scheme

def Instructions.sources (i : Instructions) : Except Fault (List Text) :=
  List.eraseDups <$> i.scheme.pages i.url

end PageScheme
