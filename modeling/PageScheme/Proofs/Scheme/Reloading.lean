import PageScheme.Proofs.Scheme.Attributes
import PageScheme.Proofs.Scheme.Depth
import PageScheme.Scheme.Loading

/-!
# What is written is loaded again

Writing a scheme leaves out what is absent, and checking takes what is left out for absent, so that
checking a written scheme gives the scheme back where there is room for its nodes. Only the numbers
of its content that JSON cannot write are lost: `check_toJson` says that a valid scheme comes back
as `finite` makes it.
-/
namespace PageScheme

theorem Kind.ofJson?_name (kind : Kind) : Kind.ofJson? (.ofString kind.name) = some kind := by
  simp [Kind.ofJson?, Json.ofString]

namespace Scheme

open Checked

mutual

/-- A scheme with null in place of every number of its content that JSON cannot write. -/
def finite : Scheme → Scheme
  | string label path reading content => string label path reading content.finite
  | list label path element content elements =>
    let element :=
      match element with
      | some element => some element.finite
      | none => none
    let elements :=
      match elements with
      | some elements => some (itemsFinite elements)
      | none => none
    list label path element (content.map (List.map Json.finite)) elements
  | object label fields => object label (fieldsFinite fields)
  | foreign node => foreign node
termination_by structural scheme => scheme

def itemsFinite : List Scheme → List Scheme
  | [] => []
  | scheme :: rest => scheme.finite :: itemsFinite rest
termination_by structural schemes => schemes

def fieldsFinite : List (Field Scheme) → List (Field Scheme)
  | [] => []
  | ⟨key, value⟩ :: rest =>
    let value :=
      match value with
      | some value => some value.finite
      | none => none
    ⟨key, value⟩ :: fieldsFinite rest
termination_by structural fields => fields

end

theorem itemsFinite_eq_map (schemes : List Scheme) : itemsFinite schemes = schemes.map finite := by
  induction schemes with
  | nil => rfl
  | cons scheme rest ih => simp only [itemsFinite, ih, List.map_cons]

theorem fieldsFinite_eq_map (fields : List (Field Scheme)) :
    fieldsFinite fields = fields.map (Field.map finite) := by
  induction fields with
  | nil => rfl
  | cons field rest ih =>
    obtain ⟨key, value⟩ := field
    cases value <;> simp [fieldsFinite, ih, Field.map]

@[simp] theorem finite_string (label : Label) (path : Option Text) (reading : Reading)
    (content : Json) :
    (string label path reading content).finite = string label path reading content.finite := rfl

@[simp] theorem finite_list (label : Label) (path : Option Text) (element : Option Scheme)
    (content : Option (List Json)) (elements : Option (List Scheme)) :
    (list label path element content elements).finite =
      list label path (element.map finite) (content.map (List.map Json.finite))
        (elements.map (List.map finite)) := by
  cases element <;> cases elements <;> simp [finite, itemsFinite_eq_map]

@[simp] theorem finite_object (label : Label) (fields : List (Field Scheme)) :
    (object label fields).finite = object label (fields.map (Field.map finite)) := by
  rw [finite, fieldsFinite_eq_map]

/-! ### The members of what is written -/

section Members
variable (label : Label) (path : Option Text) (element : Option Scheme)
  (elements : Option (List Scheme)) (fields : List (Field Scheme)) (field : Field Scheme)

def fieldMembers : List (Text × Json) :=
  (Text.ofString "key", .string field.key) :: optionalMember "value" (field.value.map toJson)

def stringMembers (reading : Reading) (content : Json) : List (Text × Json) :=
  label.members .string ++ optionalMember "path" (path.map .string) ++
    [(Text.ofString "mode", .ofString reading.name)] ++ contentMember content

def listMembers (content : Option (List Json)) : List (Text × Json) :=
  label.members .list ++ optionalMember "path" (path.map .string) ++
    optionalMember "element_scheme" (element.map toJson) ++
    optionalMember "content" (content.map fun items => .array (items.map Json.finite)) ++
    optionalMember "element_schemes" (elements.map fun schemes => .array (schemes.map toJson))

def objectMembers : List (Text × Json) :=
  label.members .object ++
    [(Text.ofString "fields", .array (fields.map fun field => .object (fieldMembers field)))]

theorem toJsonFields_eq_map :
    toJsonFields fields = fields.map fun field => .object (fieldMembers field) := by
  induction fields with
  | nil => rfl
  | cons field rest ih =>
    obtain ⟨key, value⟩ := field
    cases value <;> simp [toJsonFields, ih, fieldMembers]

theorem toJson_string (reading : Reading) (content : Json) :
    (string label path reading content).toJson =
      .object (stringMembers label path reading content) := rfl

theorem toJson_list (content : Option (List Json)) :
    (list label path element content elements).toJson =
      .object (listMembers label path element elements content) := by
  cases element <;> cases elements <;>
    simp [toJson, listMembers, toJsonItems_eq_map, Json.finite, Json.finiteItems_eq_map]

theorem toJson_object : (object label fields).toJson = .object (objectMembers label fields) := by
  rw [toJson, toJsonFields_eq_map, objectMembers]

theorem known_labelMembers {known : List String} (kind : Kind) (url : "url" ∈ known)
    (name : "name" ∈ known) (type : "type" ∈ known) : Known known (label.members kind) := by
  simp [Label.members, known_optionalMember url, known_optionalMember name, type]

theorem known_fieldMembers : Known fieldKeys (fieldMembers field) := by
  simp [fieldMembers, fieldKeys, known_optionalMember]

theorem known_stringMembers (reading : Reading) (content : Json) :
    Known stringKeys (stringMembers label path reading content) := by
  simp [stringMembers, stringKeys, known_labelMembers, known_optionalMember, known_contentMember]

theorem known_listMembers (content : Option (List Json)) :
    Known listKeys (listMembers label path element elements content) := by
  simp [listMembers, listKeys, known_labelMembers, known_optionalMember]

theorem known_objectMembers : Known objectKeys (objectMembers label fields) := by
  simp [objectMembers, objectKeys, known_labelMembers]

end Members

/-! ### Checking what has been written -/

theorem isNull_toJson {scheme : Scheme} (valid : scheme.Valid) : scheme.toJson.isNull = false := by
  cases valid with
  | string => rfl
  | list => rw [toJson_list]; rfl
  | object => rw [toJson_object]; rfl

theorem optionalText_of_written {name : String} {members : List (Text × Json)} {text : Option Text}
    (found : valueOf name members = text.map .string) :
    optionalText name members = .ok text := by
  rw [optionalText_eq, attributeOf_of_written (g := id) found]
  · simp
  · intro written _
    exact ⟨rfl, rfl⟩

theorem labelOf_of_written {members : List (Text × Json)} {label : Label}
    (url : valueOf "url" members = label.url.map .string)
    (name : valueOf "name" members = label.name.map .string) :
    labelOf members = .ok label := by
  rw [labelOf, optionalText_of_written url, optionalText_of_written name]
  rfl

theorem headOf_of_written {members : List (Text × Json)} {label : Label} {path : Option Text}
    (url : valueOf "url" members = label.url.map .string)
    (name : valueOf "name" members = label.name.map .string)
    (path_written : valueOf "path" members = path.map .string) :
    headOf members = .ok (label, path) := by
  rw [headOf, labelOf_of_written url name, optionalText_of_written path_written]
  rfl

theorem readingOf_of_written {members : List (Text × Json)} {reading : Reading}
    (found : valueOf "mode" members = some (.ofString reading.name)) :
    readingOf members = .ok reading := by
  simp [readingOf, found, Json.ofString, under, Except.mapError]

/-- What is checked of a node of each kind, where `room` nodes may lie in each other below it. -/
def checkKind (room : Nat) (kind : Kind) (members : List (Text × Json)) : Checked Scheme :=
  match kind with
  | .string => checkString members
  | .list =>
    (both (headOf members) (both (checkElement room members) (both (contentOf members)
      (both (checkElements room members) (onlyKeys listKeys members))))).map
      fun ((label, path), element, content, elements, _) =>
        list label path element content elements
  | .object =>
    (both (labelOf members) (both (checkFields room members) (onlyKeys objectKeys members))).map
      fun (label, fields, _) => object label fields

/-- A node is checked as its kind says. -/
theorem check_object {members : List (Text × Json)} {kind : Kind}
    (is_kind : valueOf "type" members = some (.ofString kind.name)) (room : Nat) :
    check room (.object members) = under (.key kind.name)
      (entered room fun room => spelled members (checkKind room kind members)) := by
  cases kind <;> simp only [check, is_kind, Kind.ofJson?_name, checkKind]

/-- A node with known keys is accepted if there is room for it and its kind accepts it. -/
theorem check_object_eq_ok {members : List (Text × Json)} {kind : Kind} {known : List String}
    (is_kind : valueOf "type" members = some (.ofString kind.name))
    (all_known : Known known members) {room : Nat} {scheme : Scheme} :
    check (room + 1) (.object members) = .ok scheme ↔
      checkKind room kind members = .ok scheme := by
  rw [check_object is_kind, under_eq_ok, entered, spelled_eq_ok,
    and_iff_right all_known.isWellFormed]

section Checking
variable {room : Nat}

theorem checkField_of_written {field : Field Scheme}
    (value_back : ∀ scheme ∈ field.value,
      scheme.Valid ∧ check room scheme.toJson = .ok scheme.finite) :
    checkField room (.object (fieldMembers field)) = .ok (field.map finite) := by
  have known := known_fieldMembers field
  have key : requiredText "key" (fieldMembers field) = .ok field.key := by
    simp [fieldMembers, requiredText, under_eq_ok, textOf]
  have written : valueOf "value" (fieldMembers field) = field.value.map toJson := by
    simp [fieldMembers]
  have value : checkValue room (fieldMembers field) = .ok (field.value.map finite) := by
    rw [checkValue_eq]
    apply attributeOf_of_written written
    intro scheme is_value
    obtain ⟨valid, read_back⟩ := value_back scheme is_value
    exact ⟨isNull_toJson valid, read_back⟩
  rw [checkField, spelled_eq_ok, key, value, known.onlyKeys_eq_ok]
  exact ⟨known.isWellFormed, rfl⟩

theorem check_string (label : Label) (path : Option Text) (reading : Reading) (content : Json) :
    check (room + 1) (string label path reading content).toJson =
      .ok (string label path reading content.finite) := by
  let members := stringMembers label path reading content
  have known : Known stringKeys members := known_stringMembers label path reading content
  have kind : valueOf "type" members = some (.ofString Kind.string.name) := by
    simp [members, stringMembers, Label.members]
  have head : headOf members = .ok (label, path) := by
    apply headOf_of_written <;> simp [members, stringMembers, Label.members]
  have mode : readingOf members = .ok reading := by
    apply readingOf_of_written
    simp [members, stringMembers, Label.members]
  have written : (valueOf "content" members).getD .null = content.finite := by
    cases content <;> simp [members, stringMembers, Label.members, Json.isNull, Json.finite]
  rw [toJson_string, check_object_eq_ok kind known]
  simp only [checkKind, checkString, head, mode, known.onlyKeys_eq_ok]
  exact congrArg (Except.ok ∘ string label path reading) written

theorem check_list_of_written {label : Label} {path : Option Text} {element : Option Scheme}
    {content : Option (List Json)} {elements : Option (List Scheme)}
    (element_back : ∀ scheme ∈ element,
      scheme.Valid ∧ check room scheme.toJson = .ok scheme.finite)
    (elements_back : ∀ schemes ∈ elements, ∀ scheme ∈ schemes,
      check room scheme.toJson = .ok scheme.finite) :
    check (room + 1) (list label path element content elements).toJson =
      .ok (list label path element content elements).finite := by
  let members := listMembers label path element elements content
  have known : Known listKeys members := known_listMembers label path element elements content
  have kind : valueOf "type" members = some (.ofString Kind.list.name) := by
    simp [members, listMembers, Label.members]
  have head : headOf members = .ok (label, path) := by
    apply headOf_of_written <;> simp [members, listMembers, Label.members]
  have element_written : valueOf "element_scheme" members = element.map toJson := by
    simp [members, listMembers, Label.members]
  have content_written : valueOf "content" members =
      content.map fun items => .array (items.map Json.finite) := by
    simp [members, listMembers, Label.members]
  have elements_written : valueOf "element_schemes" members =
      elements.map fun schemes => .array (schemes.map toJson) := by
    simp [members, listMembers, Label.members]
  have element_read : checkElement room members = .ok (element.map finite) := by
    rw [checkElement_eq]
    apply attributeOf_of_written element_written
    intro scheme is_element
    obtain ⟨valid, read_back⟩ := element_back scheme is_element
    exact ⟨isNull_toJson valid, read_back⟩
  have content_read : contentOf members = .ok (content.map (List.map Json.finite)) := by
    rw [contentOf_eq]
    apply attributeOf_of_written content_written
    intro items _
    exact ⟨rfl, rfl⟩
  have elements_read : checkElements room members = .ok (elements.map (List.map finite)) := by
    rw [checkElements_eq]
    apply attributeOf_of_written elements_written
    intro schemes listed
    exact ⟨rfl, sequenceFrom_of_written (elements_back schemes listed) 0⟩
  rw [toJson_list, check_object_eq_ok kind known]
  simp only [checkKind, head, element_read, content_read, elements_read, known.onlyKeys_eq_ok,
    finite_list]
  rfl

theorem check_object_of_written {label : Label} {fields : List (Field Scheme)}
    (fields_back : ∀ field ∈ fields, ∀ scheme ∈ field.value,
      scheme.Valid ∧ check room scheme.toJson = .ok scheme.finite) :
    check (room + 1) (object label fields).toJson = .ok (object label fields).finite := by
  let members := objectMembers label fields
  have known : Known objectKeys members := known_objectMembers label fields
  have kind : valueOf "type" members = some (.ofString Kind.object.name) := by
    simp [members, objectMembers, Label.members]
  have label_read : labelOf members = .ok label := by
    apply labelOf_of_written <;> simp [members, objectMembers, Label.members]
  have written : valueOf "fields" members =
      some (.array (fields.map fun field => .object (fieldMembers field))) := by
    simp [members, objectMembers, Label.members]
  have fields_read : checkFields room members = .ok (fields.map (Field.map finite)) := by
    simp only [checkFields_eq, written, under_eq_ok, sequenceOf]
    apply sequenceFrom_of_written
    intro field member
    exact checkField_of_written (fields_back field member)
  rw [toJson_object, check_object_eq_ok kind known]
  simp only [checkKind, label_read, fields_read, known.onlyKeys_eq_ok, finite_object]
  rfl

/-- A valid scheme that has been written is checked to be itself, but for numbers that JSON cannot
write, if there is room for its nodes. -/
theorem check_toJson {scheme : Scheme} (valid : scheme.Valid) (within : scheme.NodesWithin room) :
    check room scheme.toJson = .ok scheme.finite := by
  induction valid generalizing room with
  | @string label path reading content =>
    obtain ⟨room, rfl⟩ := within.exists_room
    exact check_string label path reading content
  | @list label path element content elements element_valid _ element_ih elements_ih =>
    obtain ⟨room, rfl⟩ := within.exists_room
    obtain ⟨element_within, elements_within⟩ := nodesWithin_list.mp within
    apply check_list_of_written
    · intro scheme is_element
      exact ⟨element_valid scheme is_element,
        element_ih scheme is_element (element_within scheme is_element)⟩
    · intro schemes listed scheme member
      exact elements_ih schemes listed scheme member (elements_within schemes listed scheme member)
  | @object label fields fields_valid ih =>
    obtain ⟨room, rfl⟩ := within.exists_room
    have fields_within := nodesWithin_object.mp within
    apply check_object_of_written
    intro field member scheme is_value
    exact ⟨fields_valid field member scheme is_value,
      ih field member scheme is_value (fields_within field member scheme is_value)⟩

end Checking

/-! ### What is lost -/

/-- Where all content can be written as it is, nothing is lost. -/
theorem finite_eq_self {scheme : Scheme} (each : scheme.EveryContent Json.IsFinite) :
    scheme.finite = scheme := by
  induction scheme with
  | string label path reading content =>
    rw [finite_string, (everyContent_string.mp each).finite_eq]
  | list label path element content elements element_ih elements_ih =>
    obtain ⟨in_content, in_element, in_elements⟩ := everyContent_list.mp each
    have content_eq : content.map (List.map Json.finite) = content.map (List.map id) :=
      Option.map_congr fun items listed =>
        List.map_congr_left fun item inside => (in_content items listed item inside).finite_eq
    have element_eq : element.map finite = element := by
      apply element_map_eq_self
      intro scheme is_element
      exact element_ih scheme is_element (in_element scheme is_element)
    have elements_eq : elements.map (List.map finite) = elements := by
      apply copies_map_eq_self
      intro schemes listed scheme member
      exact elements_ih schemes listed scheme member (in_elements schemes listed scheme member)
    simp [content_eq, element_eq, elements_eq]
  | object label fields ih =>
    have in_fields := everyContent_object.mp each
    rw [finite_object, fields_map_eq_self]
    intro field member scheme is_value
    exact ih field member scheme is_value (in_fields field member scheme is_value)
  | foreign node => rfl

end Scheme
end PageScheme
