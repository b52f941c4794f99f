import PageScheme.Fault
import PageScheme.Limits
import PageScheme.Scheme.Basic

/-!
# Documents as JSON values

`toJson` gives what `check` reads. Attributes that are absent are left out; the reading of a string
and the fields of an object are always written. JSON has no infinite numbers, so null stands in for
them in whatever was read from a page.

Not everything can be written: a key in content may have a lone surrogate, and what lies deeper than
there is room for is refused. `obstacle?` is what is met first, in the order of writing. Every node
counts, and so does every value in content, scalars included; the fields of an object do not.
-/
namespace PageScheme

def optionalMember (name : String) (value : Option Json) : List (Text × Json) :=
  value.toList.map fun value => (Text.ofString name, value)

def contentMember (content : Json) : List (Text × Json) :=
  if content.isNull then [] else [(Text.ofString "content", content.finite)]

def Label.members (label : Label) (kind : Kind) : List (Text × Json) :=
  optionalMember "url" (label.url.map .string) ++
    optionalMember "name" (label.name.map .string) ++
    [(Text.ofString "type", .ofString kind.name)]

/-- A foreign node as it is. -/
def Foreign.toJson : Foreign → Json
  | raw value => value
  | tagged tag url => .ofMembers [("type", tag), ("url", url)]

namespace Scheme

mutual

def toJson : Scheme → Json
  | string label path reading content =>
    .object (label.members .string ++ optionalMember "path" (path.map .string) ++
      [(Text.ofString "mode", .ofString reading.name)] ++ contentMember content)
  | list label path element content elements =>
    .object (label.members .list ++ optionalMember "path" (path.map .string) ++
      optionalMember "element_scheme"
        (match element with
        | none => none
        | some element => some element.toJson) ++
      optionalMember "content" (content.map fun items => (Json.array items).finite) ++
      optionalMember "element_schemes"
        (match elements with
        | none => none
        | some elements => some (.array (toJsonItems elements))))
  | object label fields =>
    .object (label.members .object ++ [(Text.ofString "fields", .array (toJsonFields fields))])
  | foreign node => node.toJson
termination_by structural scheme => scheme

def toJsonItems : List Scheme → List Json
  | [] => []
  | scheme :: rest => scheme.toJson :: toJsonItems rest
termination_by structural schemes => schemes

def toJsonFields : List (Field Scheme) → List Json
  | [] => []
  | ⟨key, value⟩ :: rest =>
    .object ((Text.ofString "key", .string key) ::
      optionalMember "value"
        (match value with
        | none => none
        | some value => some value.toJson)) :: toJsonFields rest
termination_by structural fields => fields

end

theorem toJsonItems_eq_map (schemes : List Scheme) : toJsonItems schemes = schemes.map toJson := by
  induction schemes with
  | nil => rfl
  | cons scheme rest ih => simp [toJsonItems, ih]

end Scheme

namespace Json

mutual

/-- What first stops a value from being written, where `room` values may lie in each other. A key is
met before its value. -/
def obstacle? : Nat → Json → Option Fault
  | 0, _ => some .tooDeepToWrite
  | room + 1, array items => obstacleOfItems room items
  | room + 1, object members => obstacleOfMembers room members
  | _ + 1, _ => none
termination_by structural _ value => value

def obstacleOfItems (room : Nat) : List Json → Option Fault
  | [] => none
  | item :: rest => item.obstacle? room <|> obstacleOfItems room rest
termination_by structural items => items

def obstacleOfMembers (room : Nat) : List (Text × Json) → Option Fault
  | [] => none
  | (key, value) :: rest =>
    if Text.isWellFormed key then value.obstacle? room <|> obstacleOfMembers room rest
    else some (.unwritableKey key)
termination_by structural members => members

end
end Json

namespace Scheme

mutual

/-- What first stops a scheme from being written, where `room` nodes and values may lie in each
other. -/
def obstacle? : Nat → Scheme → Option Fault
  | 0, _ => some .tooDeepToWrite
  | room + 1, string _ _ _ content => if content.isNull then none else content.obstacle? room
  | room + 1, list _ _ element content elements =>
    (match element with
      | none => none
      | some element => element.obstacle? room) <|>
    content.bind (Json.obstacleOfItems room) <|>
    (match elements with
      | none => none
      | some elements => obstacleOfItems room elements)
  | room + 1, object _ fields => obstacleOfFields room fields
  | room + 1, foreign node => node.toJson.obstacle? (room + 1)
termination_by structural _ scheme => scheme

def obstacleOfItems (room : Nat) : List Scheme → Option Fault
  | [] => none
  | scheme :: rest => scheme.obstacle? room <|> obstacleOfItems room rest
termination_by structural schemes => schemes

def obstacleOfFields (room : Nat) : List (Field Scheme) → Option Fault
  | [] => none
  | ⟨_, value⟩ :: rest =>
    (match value with
      | none => none
      | some value => value.obstacle? room) <|>
    obstacleOfFields room rest
termination_by structural fields => fields

end
end Scheme

/-- A value that is written unless something stops it. -/
def unlessStopped (obstacle : Option Fault) (value : Json) : Except Fault Json :=
  match obstacle with
  | none => .ok value
  | some fault => .error fault

def Scheme.write (limits : Limits) (scheme : Scheme) : Except Fault Json :=
  unlessStopped (scheme.obstacle? limits.values) scheme.toJson

def Instructions.toJson (i : Instructions) : Json :=
  .ofMembers [("url", .string i.url), ("scheme", i.scheme.toJson)]

def Instructions.write (limits : Limits) (i : Instructions) : Except Fault Json :=
  unlessStopped (i.scheme.obstacle? limits.values) i.toJson

def Document.toJson : Document → Json
  | bare scheme => scheme.toJson
  | instructions i => i.toJson

def Document.write (limits : Limits) : Document → Except Fault Json
  | bare scheme => scheme.write limits
  | instructions i => i.write limits

end PageScheme
