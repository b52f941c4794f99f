import PageScheme.Number.Shortest
import PageScheme.Text.Letter

/-!
# JSON values

Whole numbers have any size and stay apart from floating-point ones. An object keeps the order of
its members. `put` is how an object is built: a key that comes again keeps its first place and takes
the new value.
-/
namespace PageScheme

inductive Json
  | null
  | bool (value : Bool)
  | int (value : Int)
  | float (value : Binary64)
  | string (value : Text)
  | array (items : List Json)
  | object (members : List (Text × Json))
  deriving Inhabited

namespace Json

def ofString (s : String) : Json := string (Text.ofString s)

def ofMembers (members : List (String × Json)) : Json :=
  object (members.map fun (key, value) => (Text.ofString key, value))

def lookup {α : Type} (key : Text) : List (Text × α) → Option α
  | [] => none
  | (k, value) :: rest => if k = key then some value else lookup key rest

/-- Sets the value of a key: in its place if it is there, at the end otherwise. -/
def put {α : Type} (key : Text) (value : α) : List (Text × α) → List (Text × α)
  | [] => [(key, value)]
  | (k, old) :: rest => if k = key then (k, value) :: rest else (k, old) :: put key value rest

/-- The members that result from setting keys one after the other. -/
def putAll {α : Type} (members : List (Text × α)) : List (Text × α) :=
  members.foldl (fun done (key, value) => put key value done) []

/-- The items of an array; any other value has none. -/
def items : Json → List Json
  | array items => items
  | _ => []

def members : Json → List (Text × Json)
  | object members => members
  | _ => []

def get? (value : Json) (key : Text) : Option Json := lookup key value.members

def isNull : Json → Bool
  | null => true
  | _ => false

def typeName : Json → String
  | null => "NoneType"
  | bool _ => "bool"
  | int _ => "int"
  | float _ => "float"
  | string _ => "str"
  | array _ => "list"
  | object _ => "dict"

mutual

/-- The value with null in place of every number that JSON cannot write. -/
def finite : Json → Json
  | float x => if x.isFinite then float x else null
  | array items => array (finiteItems items)
  | object members => object (finiteMembers members)
  | value => value
termination_by structural value => value

def finiteItems : List Json → List Json
  | [] => []
  | item :: rest => item.finite :: finiteItems rest
termination_by structural items => items

def finiteMembers : List (Text × Json) → List (Text × Json)
  | [] => []
  | (key, value) :: rest => (key, value.finite) :: finiteMembers rest
termination_by structural members => members

end

theorem finiteItems_eq_map (items : List Json) : finiteItems items = items.map finite := by
  induction items with
  | nil => rfl
  | cons item rest ih => simp [finiteItems, ih]

theorem finiteMembers_eq_map (members : List (Text × Json)) :
    finiteMembers members = members.map fun (key, value) => (key, value.finite) := by
  induction members with
  | nil => rfl
  | cons member rest ih => simp [finiteMembers, ih]

section Members
variable {α : Type} (key : Text) (value : α)

@[simp] theorem lookup_put_self (members : List (Text × α)) :
    lookup key (put key value members) = some value := by
  induction members with
  | nil => simp [put, lookup]
  | cons member rest ih =>
    simp only [put]
    split
    · next same => simp [lookup, same]
    · next other => simp [lookup, other, ih]

theorem lookup_put_of_ne {other : Text} (different : other ≠ key) (members : List (Text × α)) :
    lookup other (put key value members) = lookup other members := by
  induction members with
  | nil => simp [put, lookup, Ne.symm different]
  | cons member rest ih =>
    simp only [put]
    split
    · next same => subst same; simp [lookup, Ne.symm different]
    · simp [lookup, ih]

end Members

end Json
end PageScheme
