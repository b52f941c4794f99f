import PageScheme.Fault
import PageScheme.Scheme.Basic

/-!
# Checking documents

`check` makes a scheme of a JSON value or says everything that is wrong with it. Problems come in
the order of a node's attributes, each with all that lies below it, and then the keys that belong to
no attribute. A place below a node has the kind of the node as a step.

An attribute is optional unless it says otherwise, and null stands for an absent one; only the
reading of a string and the fields of an object refuse null.

Only so many nodes may lie in each other. A node beyond them is refused once its kind is known, and
nothing else is said about it.
-/
namespace PageScheme

inductive Problem.Cause
  | notText
  | brokenText
  | notReading
  | missing
  | unknown
  | notList
  | notSequence
  | notField
  | notInstructions
  | notNode
  | noTag
  | badTag (tag : String)
  | tooDeep
  deriving DecidableEq, Repr

structure Problem where
  place : List Step
  cause : Problem.Cause
  deriving DecidableEq, Repr

/-- What a document was read from. Values at hand and JSON text have different names for what they
can hold, so some problems are worded by it. -/
inductive Origin
  | data
  | text
  deriving DecidableEq, Repr

namespace Problem

def Cause.sort (origin : Origin) : Cause → String
  | notText => "string_type"
  | brokenText => "string_unicode"
  | notReading => "enum"
  | missing => "missing"
  | unknown => "extra_forbidden"
  | notList => "list_type"
  | notSequence => "tuple_type"
  | notField | notInstructions => "model_type"
  | notNode =>
    match origin with
    | .data => "model_attributes_type"
    | .text => "dict_type"
  | noTag => "union_tag_not_found"
  | badTag _ => "union_tag_invalid"
  | tooDeep => "recursion_loop"

def Cause.dataText : Cause → String
  | notText => "Input should be a valid string"
  | brokenText => "Input should be a valid string, unable to parse raw data as a unicode string"
  | notReading => "Input should be 'INNER_HTML' or 'SRC'"
  | missing => "Field required"
  | unknown => "Extra inputs are not permitted"
  | notList => "Input should be a valid list"
  | notSequence => "Input should be a valid tuple"
  | notField => "Input should be a valid dictionary or instance of SchemeField"
  | notInstructions => "Input should be a valid dictionary or instance of Instructions"
  | notNode => "Input should be a valid dictionary or object to extract fields from"
  | noTag => "Unable to extract tag using discriminator 'type'"
  | badTag tag =>
    "Input tag '" ++ tag ++ "' found using 'type' does not match any of the expected tags: " ++
      "'STRING', 'LIST', 'OBJECT'"
  | tooDeep => "Recursion error - cyclic reference detected"

def Cause.text (origin : Origin) (cause : Cause) : String :=
  match origin, cause with
  | .text, notList | .text, notSequence => "Input should be a valid array"
  | .text, notField | .text, notInstructions | .text, notNode => "Input should be an object"
  | _, cause => cause.dataText

def report (origin : Origin) (p : Problem) : FormatError :=
  ⟨p.place, some (p.cause.sort origin), p.cause.text origin⟩

end Problem

/-- A part of a document, or everything that is wrong with it. -/
abbrev Checked (α : Type) := Except (List Problem) α

namespace Checked
variable {α β : Type}

def problem (cause : Problem.Cause) : Checked α := .error [⟨[], cause⟩]

/-- Two parts of one document; what is wrong with either is wrong with both. -/
def both : Checked α → Checked β → Checked (α × β)
  | .ok a, .ok b => .ok (a, b)
  | .error p, .error q => .error (p ++ q)
  | .error p, .ok _ => .error p
  | .ok _, .error q => .error q

/-- A part that lies one step further down. -/
def under (step : Step) (part : Checked α) : Checked α :=
  part.mapError fun problems => problems.map fun p => { p with place := step :: p.place }

end Checked

namespace Scheme
open Checked

def valueOf (name : String) (members : List (Text × Json)) : Option Json :=
  Json.lookup (Text.ofString name) members

def textOf : Json → Checked Text
  | .string t => .ok t
  | _ => problem .notText

def optionalText (name : String) (members : List (Text × Json)) : Checked (Option Text) :=
  match valueOf name members with
  | none => .ok none
  | some value => if value.isNull then .ok none else under (.key name) ((textOf value).map some)

def requiredText (name : String) (members : List (Text × Json)) : Checked Text :=
  under (.key name) <|
    match valueOf name members with
    | none => problem .missing
    | some value => textOf value

def labelOf (members : List (Text × Json)) : Checked Label :=
  (both (optionalText "url" members) (optionalText "name" members)).map fun (url, name) =>
    { url, name }

/-- What a string reads: the inner HTML if nothing is said. -/
def readingOf (members : List (Text × Json)) : Checked Reading :=
  match valueOf "mode" members with
  | none => .ok .innerHtml
  | some (.string t) =>
    under (.key "mode") <|
      match t.toString?.map Reading.ofName? with
      | none => problem .brokenText
      | some none => problem .notReading
      | some (some reading) => .ok reading
  | some _ => under (.key "mode") (problem .notReading)

def contentOf (members : List (Text × Json)) : Checked (Option (List Json)) :=
  match valueOf "content" members with
  -- Null stands for content that is absent.
  | none | some .null => .ok none
  | some (.array items) => .ok (some items)
  | some _ => under (.key "content") (problem .notList)

/-- A tag as it is quoted: a string as it is, without its lone surrogates. -/
def tagText : Json → String
  | .string t => t.lossy
  | tag => tag.quoted

def onlyKeys (known : List String) (members : List (Text × Json)) : Checked Unit :=
  match members.filter fun (key, _) => !(known.map Text.ofString).contains key with
  | [] => .ok ()
  | others => .error (others.map fun (key, _) => ⟨[.key key.lossy], .unknown⟩)

/-- A part with some members. A key that is no well-formed text spoils all of it: nothing else is
said about the part. -/
def spelled {α : Type} (members : List (Text × Json)) (part : Checked α) : Checked α :=
  if members.all fun (key, _) => key.isWellFormed then part else problem .brokenText

def stringKeys : List String := ["url", "name", "type", "path", "mode", "content"]

def listKeys : List String :=
  ["url", "name", "type", "path", "element_scheme", "content", "element_schemes"]

def objectKeys : List String := ["url", "name", "type", "fields"]

def fieldKeys : List String := ["key", "value"]

def headOf (members : List (Text × Json)) : Checked (Label × Option Text) :=
  both (labelOf members) (optionalText "path" members)

def checkString (members : List (Text × Json)) : Checked Scheme :=
  (both (headOf members) (both (readingOf members) (onlyKeys stringKeys members))).map
    fun ((label, path), reading, _) =>
      string label path reading ((valueOf "content" members).getD .null)

/-- A node, with what is left of the room for nodes in each other. -/
def entered {α : Type} (room : Nat) (node : Nat → Checked α) : Checked α :=
  match room with
  | 0 => problem .tooDeep
  | room + 1 => node room

mutual

/-- Checks a value as a scheme, where `room` nodes may lie in each other. -/
def check (room : Nat) : Json → Checked Scheme
  | .object members =>
    match valueOf "type" members with
    | none => problem .noTag
    | some tag =>
      match Kind.ofJson? tag with
      | none => problem (.badTag (tagText tag))
      | some .string =>
        under (.key Kind.string.name) <| entered room fun _ => spelled members (checkString members)
      | some .list =>
        under (.key Kind.list.name) <| entered room fun room => spelled members <|
          (both (headOf members) (both (checkElement room members) (both (contentOf members)
            (both (checkElements room members) (onlyKeys listKeys members))))).map
            fun ((label, path), element, content, elements, _) =>
              list label path element content elements
      | some .object =>
        under (.key Kind.object.name) <| entered room fun room => spelled members <|
          (both (labelOf members) (both (checkFields room members)
            (onlyKeys objectKeys members))).map
            fun (label, fields, _) => object label fields
  | _ => problem .notNode
termination_by structural value => value

def checkElement (room : Nat) : List (Text × Json) → Checked (Option Scheme)
  | [] => .ok none
  | (key, value) :: rest =>
    if key = Text.ofString "element_scheme" then
      if value.isNull then .ok none else under (.key "element_scheme") ((check room value).map some)
    else checkElement room rest
termination_by structural members => members

def checkElements (room : Nat) : List (Text × Json) → Checked (Option (List Scheme))
  | [] => .ok none
  | (key, value) :: rest =>
    if key = Text.ofString "element_schemes" then
      match value with
      | .null => .ok none
      | .array items => under (.key "element_schemes") ((checkItems room 0 items).map some)
      | _ => under (.key "element_schemes") (problem .notSequence)
    else checkElements room rest
termination_by structural members => members

def checkItems (room position : Nat) : List Json → Checked (List Scheme)
  | [] => .ok []
  | item :: rest =>
    (both (under (.index position) (check room item)) (checkItems room (position + 1) rest)).map
      fun (scheme, schemes) => scheme :: schemes
termination_by structural items => items

def checkFields (room : Nat) : List (Text × Json) → Checked (List (Field Scheme))
  | [] => .ok []
  | (key, value) :: rest =>
    if key = Text.ofString "fields" then
      match value with
      | .array items => under (.key "fields") (checkFieldItems room 0 items)
      | _ => under (.key "fields") (problem .notSequence)
    else checkFields room rest
termination_by structural members => members

def checkFieldItems (room position : Nat) : List Json → Checked (List (Field Scheme))
  | [] => .ok []
  | item :: rest =>
    (both (under (.index position) (checkField room item))
      (checkFieldItems room (position + 1) rest)).map
      fun (field, fields) => field :: fields
termination_by structural items => items

def checkField (room : Nat) : Json → Checked (Field Scheme)
  | .object members =>
    spelled members <|
      (both (requiredText "key" members) (both (checkValue room members)
        (onlyKeys fieldKeys members))).map
        fun (key, value, _) => ⟨key, value⟩
  | _ => problem .notField
termination_by structural value => value

def checkValue (room : Nat) : List (Text × Json) → Checked (Option Scheme)
  | [] => .ok none
  | (key, value) :: rest =>
    if key = Text.ofString "value" then
      if value.isNull then .ok none else under (.key "value") ((check room value).map some)
    else checkValue room rest
termination_by structural members => members

end
end Scheme

open Checked in
def Instructions.check (room : Nat) : Json → Checked Instructions
  | .object members =>
    let scheme :=
      match Scheme.valueOf "scheme" members with
      | none => problem .missing
      | some value => Scheme.check room value
    Scheme.spelled members <|
      (both (Scheme.requiredText "url" members) (both (under (.key "scheme") scheme)
        (Scheme.onlyKeys ["url", "scheme"] members))).map
        fun (url, scheme, _) => { url, scheme }
  | _ => problem .notInstructions

end PageScheme
