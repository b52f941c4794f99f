import PageScheme.Proofs.Document.Editing
import PageScheme.Proofs.Scheme.Judging

/-!
# The canonical form of a scheme

A scheme can be given in many ways: with null for what is absent, without what has a default, and
with its attributes in any order. What is written is always the same, the canonical form of what was
given (`toJson_eq_canonical`). Content is kept as it is.

Main result: a value that is no text is loaded if and only if it is a scheme that there is room for,
and refused with an error otherwise; what is then written is the value in canonical form
(`load_iff_isScheme`).
-/
namespace PageScheme.Scheme

open Checked

/-! ### Canonical form -/

/-- Attributes in the order in which they are written, each with what is written where it is
absent. -/
abbrev Layout : Type := List (String × Option Json)

def layout : Kind → Layout
  | .string => [("url", none), ("name", none), ("type", none), ("path", none),
      ("mode", some (.ofString "INNER_HTML")), ("content", none)]
  | .list => [("url", none), ("name", none), ("type", none), ("path", none),
      ("element_scheme", none), ("content", none), ("element_schemes", none)]
  | .object => [("url", none), ("name", none), ("type", none), ("fields", some (.array []))]

def fieldLayout : Layout := [("key", none), ("value", none)]

/-- A node is written as its tag says; a field has no tag. -/
def layoutOf (members : List (Text × Json)) : Layout :=
  (((valueOf "type" members).bind Kind.ofJson?).map layout).getD fieldLayout

/-- The value of an attribute; null stands for an absent one. -/
def present (name : String) (members : List (Text × Json)) : Option Json :=
  (valueOf name members).filter fun value => !value.isNull

def arranged (layout : Layout) (members : List (Text × Json)) : List (Text × Json) :=
  layout.flatMap fun (name, default) => optionalMember name ((present name members).or default)

/-- The attributes in which there are nodes or fields. -/
def nodeNames : List String := ["element_scheme", "element_schemes", "fields", "value"]

def holdsNodes (key : Text) : Bool := (nodeNames.map Text.ofString).contains key

theorem holdsNodes_ofString (name : String) :
    holdsNodes (Text.ofString name) = nodeNames.contains name := by
  rw [Bool.eq_iff_iff, holdsNodes, List.contains_iff_mem, List.contains_iff_mem, List.mem_map]
  constructor
  · rintro ⟨other, member, same⟩
    exact Text.ofString_injective same ▸ member
  · intro member
    exact ⟨name, member, rfl⟩

mutual

/-- A scheme, a field, or a list of them, with null attributes left out, defaults filled in and keys
in the order in which they are written. -/
def canonical : Json → Json
  | .object members => .object (arranged (layoutOf members) (canonicalMembers members))
  | .array items => .array (canonicalItems items)
  | value => value
termination_by structural value => value

def canonicalItems : List Json → List Json
  | [] => []
  | item :: rest => canonical item :: canonicalItems rest
termination_by structural items => items

def canonicalMembers : List (Text × Json) → List (Text × Json)
  | [] => []
  | (key, value) :: rest =>
    (key, if holdsNodes key then canonical value else value) :: canonicalMembers rest
termination_by structural members => members

end

theorem canonicalItems_eq_map (items : List Json) : canonicalItems items = items.map canonical := by
  induction items with
  | nil => rfl
  | cons item rest ih => rw [canonicalItems, ih, List.map_cons]

theorem isNull_canonical (value : Json) : (canonical value).isNull = value.isNull := by
  cases value <;> rfl

section Members
variable {members : List (Text × Json)} {name : String}

theorem valueOf_canonicalMembers :
    valueOf name (canonicalMembers members) = (valueOf name members).map fun value =>
      if holdsNodes (Text.ofString name) then canonical value else value := by
  induction members with
  | nil => rfl
  | cons member rest ih =>
    obtain ⟨key, value⟩ := member
    simp only [canonicalMembers, valueOf, Json.lookup]
    split
    next same => rw [same]; rfl
    next => exact ih

theorem present_canonicalMembers (name : String) (members : List (Text × Json)) :
    present name (canonicalMembers members) =
      if nodeNames.contains name then (present name members).map canonical
      else present name members := by
  rw [present, valueOf_canonicalMembers, present, holdsNodes_ofString]
  split
  · cases valueOf name members with
    | none => rfl
    | some value =>
      cases null : value.isNull <;> simp [isNull_canonical, null, Option.filter_some]
  · simp

theorem arranged_cons (default : Option Json) (layout : Layout) :
    arranged ((name, default) :: layout) members =
      optionalMember name ((present name members).or default) ++ arranged layout members := rfl

theorem arranged_nil : arranged [] members = [] := rfl

/-! ### What is written of an attribute -/

/-- What is written for an attribute is what was read for it. -/
theorem map_write_of_attributeOf {α : Type} {read : Json → Checked α} {taken : Option α}
    (is_read : attributeOf name read members = .ok taken) {write : α → Json} {f : Json → Json}
    (each : ∀ value, valueOf name members = some value → ∀ a ∈ taken, read value = .ok a →
      write a = f value) : taken.map write = (present name members).map f := by
  unfold attributeOf at is_read
  rw [present]
  split at is_read
  next absent =>
    obtain rfl := Except.ok.inj is_read
    simp [absent]
  next value found =>
    split at is_read
    next null =>
      obtain rfl := Except.ok.inj is_read
      simp [found, null]
    next not_null =>
      obtain ⟨a, read_back, rfl⟩ := map_eq_ok.mp (under_eq_ok.mp is_read)
      simp [found, not_null, each value found a rfl read_back]

theorem text_of_optionalText {text : Option Text}
    (is_read : optionalText name members = .ok text) :
    text.map Json.string = present name members := by
  rw [optionalText_eq] at is_read
  have kept : ∀ value, valueOf name members = some value → ∀ t ∈ text, textOf value = .ok t →
      Json.string t = id value := by
    intro value _ t _ same
    cases value with
    | string given => cases same; rfl
    | _ => cases same
  simpa using map_write_of_attributeOf is_read kept

theorem valueOf_of_requiredText {text : Text} (is_read : requiredText name members = .ok text) :
    valueOf name members = some (.string text) := by
  have given := under_eq_ok.mp is_read
  split at given
  next => cases given
  next value found =>
    cases value with
    | string text => cases given; exact found
    | _ => cases given

theorem Known.valueOf_eq_none {known : List String} (all_known : Known known members)
    (unknown : name ∉ known) : valueOf name members = none := by
  cases found : valueOf name members with
  | none => rfl
  | some value =>
    obtain ⟨other, is_known, same⟩ := all_known _ (mem_of_valueOf found)
    rw [← Text.ofString_injective same] at is_known
    exact absurd is_known unknown

theorem map_write_of_sequenceFrom {α : Type} {read : Json → Checked α} {items : List Json}
    {results : List α} {position : Nat} (is_read : sequenceFrom read position items = .ok results)
    {write : α → Json} {f : Json → Json}
    (each : ∀ item ∈ items, ∀ a ∈ results, read item = .ok a → write a = f item) :
    results.map write = items.map f := by
  induction items generalizing position results with
  | nil =>
    obtain rfl := Except.ok.inj is_read
    rfl
  | cons item rest ih =>
    obtain ⟨⟨first, others⟩, parts, rfl⟩ := map_eq_ok.mp is_read
    obtain ⟨first_read, others_read⟩ := both_eq_ok.mp parts
    have head := each item List.mem_cons_self first List.mem_cons_self (under_eq_ok.mp first_read)
    have tail := ih others_read fun other member a listed =>
      each other (List.mem_cons_of_mem _ member) a (List.mem_cons_of_mem _ listed)
    rw [List.map_cons, List.map_cons, head, tail]

theorem array_of_sequenceOf {α : Type} {cause : Problem.Cause} {read : Json → Checked α}
    {value : Json} {results : List α}
    (is_read : sequenceOf cause (sequenceFrom read 0) value = .ok results) {write : α → Json}
    (each : ∀ item ∈ value.items, ∀ a ∈ results, read item = .ok a → write a = canonical item) :
    Json.array (results.map write) = canonical value := by
  cases value with
  | array items =>
    rw [canonical, canonicalItems_eq_map, map_write_of_sequenceFrom is_read each]
  | _ => cases is_read

theorem label_of_labelOf {label : Label} (is_read : labelOf members = .ok label) :
    label.url.map Json.string = present "url" members ∧
      label.name.map Json.string = present "name" members := by
  obtain ⟨⟨url, name⟩, parts, rfl⟩ := map_eq_ok.mp is_read
  obtain ⟨url_read, name_read⟩ := both_eq_ok.mp parts
  exact ⟨text_of_optionalText url_read, text_of_optionalText name_read⟩

theorem mode_of_readingOf {reading : Reading} (is_read : readingOf members = .ok reading) :
    some (Json.ofString reading.name) =
      (present "mode" members).or (some (.ofString "INNER_HTML")) := by
  unfold readingOf at is_read
  rw [present]
  split at is_read
  next absent =>
    cases is_read
    simp [absent, Reading.name]
  next text found =>
    rw [under_eq_ok] at is_read
    split at is_read
    next => cases is_read
    next => cases is_read
    next given known =>
      cases is_read
      obtain ⟨name, well_formed, is_name⟩ := Option.map_eq_some_iff.mp known
      rw [Text.toString?_eq_some.mp well_formed, Reading.ofName?_eq_some.mp is_name] at found
      rw [found, Option.filter_some]
      rfl
  next => cases under_eq_ok.mp is_read

/-! ### Nodes and fields -/

/-- What a value is checked to be, a scheme or a field, is written in canonical form, in whatever
room it is checked. -/
def WrittenCanonically (value : Json) : Prop :=
  ∀ room,
    (∀ scheme, check room value = .ok scheme → scheme.EveryContent Json.IsFinite →
      scheme.toJson = canonical value) ∧
    ∀ field, checkField room value = .ok field →
      (∀ scheme ∈ field.value, scheme.EveryContent Json.IsFinite) →
        Json.object (fieldMembers field) = canonical value

/-- The scheme of an attribute is written in canonical form. -/
theorem written_schemeAttribute (inside : Json.HoldsInside WrittenCanonically members) {room : Nat}
    {taken : Option Scheme} (is_read : attributeOf name (check room) members = .ok taken)
    (each_finite : ∀ scheme ∈ taken, scheme.EveryContent Json.IsFinite) :
    taken.map toJson = (present name members).map canonical := by
  apply map_write_of_attributeOf is_read
  intro value found scheme is_taken read
  exact ((attribute_of_inside inside found).1 room).1 scheme read (each_finite scheme is_taken)

theorem layoutOf_eq {kind : Kind} (tagged : IsTagged kind.name members) :
    layoutOf members = layout kind := by
  have is_tag : valueOf "type" members = some (.ofString kind.name) := tagged
  rw [layoutOf, is_tag, Option.bind_some, Kind.ofJson?_name]
  rfl

/-- The tag of a node is written as it was given. -/
theorem typeMember_eq {kind : Kind} (tagged : IsTagged kind.name members) :
    [(Text.ofString "type", Json.ofString kind.name)] =
      optionalMember "type" (present "type" members) := by
  have is_tag : valueOf "type" members = some (.ofString kind.name) := tagged
  rw [present, is_tag, Option.filter_some]
  rfl

theorem contentMember_eq (is_finite : ((valueOf "content" members).getD .null).IsFinite) :
    contentMember ((valueOf "content" members).getD .null) =
      optionalMember "content" (present "content" members) := by
  rw [contentMember, is_finite.finite_eq, present]
  cases valueOf "content" members with
  | none => rfl
  | some value => cases null : value.isNull <;> simp [null, Option.filter_some, optionalMember]

section Read
variable {room : Nat} {label : Label} {path : Option Text}

theorem canonical_of_string {reading : Reading} (tagged : IsTagged Kind.string.name members)
    (head_read : headOf members = .ok (label, path)) (mode_read : readingOf members = .ok reading)
    (is_finite : ((valueOf "content" members).getD .null).IsFinite) :
    (string label path reading ((valueOf "content" members).getD .null)).toJson =
      canonical (.object members) := by
  obtain ⟨label_read, path_read⟩ := both_eq_ok.mp head_read
  obtain ⟨url, name⟩ := label_of_labelOf label_read
  have mode : [(Text.ofString "mode", Json.ofString reading.name)] =
      optionalMember "mode" ((present "mode" members).or (some (.ofString "INNER_HTML"))) := by
    rw [← mode_of_readingOf mode_read]
    rfl
  rw [toJson_string, canonical, layoutOf_eq tagged, stringMembers, Label.members,
    typeMember_eq tagged, contentMember_eq is_finite, mode, url, name,
    text_of_optionalText path_read]
  simp [layout, arranged_cons, arranged_nil, present_canonicalMembers, nodeNames]

theorem canonical_of_list {element : Option Scheme} {content : Option (List Json)}
    {elements : Option (List Scheme)} (inside : Json.HoldsInside WrittenCanonically members)
    (tagged : IsTagged Kind.list.name members) (head_read : headOf members = .ok (label, path))
    (element_read : checkElement room members = .ok element)
    (content_read : contentOf members = .ok content)
    (elements_read : checkElements room members = .ok elements)
    (each_finite : (list label path element content elements).EveryContent Json.IsFinite) :
    (list label path element content elements).toJson = canonical (.object members) := by
  obtain ⟨label_read, path_read⟩ := both_eq_ok.mp head_read
  obtain ⟨url, name⟩ := label_of_labelOf label_read
  obtain ⟨in_content, in_element, in_elements⟩ := everyContent_list.mp each_finite
  rw [checkElement_eq] at element_read
  have element_written := written_schemeAttribute inside element_read in_element
  have content_written : content.map (fun items => Json.array (items.map Json.finite)) =
      present "content" members := by
    rw [contentOf_eq] at content_read
    have kept : ∀ value, valueOf "content" members = some value → ∀ items ∈ content,
        sequenceOf .notList Except.ok value = .ok items →
          Json.array (items.map Json.finite) = id value := by
      intro value _ items is_content read
      cases value with
      | array given =>
        cases read
        have each := fun item member => (in_content items is_content item member).finite_eq
        rw [List.map_congr_left each, List.map_id', id]
      | _ => cases read
    simpa using map_write_of_attributeOf content_read kept
  have elements_written : elements.map (fun schemes => Json.array (schemes.map toJson)) =
      (present "element_schemes" members).map canonical := by
    rw [checkElements_eq] at elements_read
    apply map_write_of_attributeOf elements_read
    intro value found schemes listed read
    apply array_of_sequenceOf read
    intro item member scheme is_copy item_read
    exact ((attribute_of_inside inside found).2 item member room).1 scheme item_read
      (in_elements schemes listed scheme is_copy)
  rw [toJson_list, canonical, layoutOf_eq tagged, listMembers, Label.members, typeMember_eq tagged,
    url, name, text_of_optionalText path_read, element_written, content_written, elements_written]
  simp [layout, arranged_cons, arranged_nil, present_canonicalMembers, nodeNames]

theorem canonical_of_object {fields : List (Field Scheme)}
    (inside : Json.HoldsInside WrittenCanonically members)
    (tagged : IsTagged Kind.object.name members) (label_read : labelOf members = .ok label)
    (fields_read : checkFields room members = .ok fields)
    (each_finite : (object label fields).EveryContent Json.IsFinite) :
    (object label fields).toJson = canonical (.object members) := by
  obtain ⟨url, name⟩ := label_of_labelOf label_read
  have in_fields := everyContent_object.mp each_finite
  have fields_written :
      [(Text.ofString "fields",
          Json.array (fields.map fun field => .object (fieldMembers field)))] =
        optionalMember "fields"
          (((present "fields" members).map canonical).or (some (.array []))) := by
    rw [checkFields_eq] at fields_read
    rw [present]
    split at fields_read
    next absent =>
      cases fields_read
      rw [absent]
      rfl
    next value found =>
      have each : Json.array (fields.map fun field => .object (fieldMembers field)) =
          canonical value := by
        apply array_of_sequenceOf (under_eq_ok.mp fields_read)
        intro item member field listed read
        exact ((attribute_of_inside inside found).2 item member room).2 field read
          (in_fields field listed)
      have not_null : value.isNull = false := by
        rw [← isNull_canonical, ← each]
        rfl
      rw [each, found, Option.filter_some, not_null]
      rfl
  rw [toJson_object, canonical, layoutOf_eq tagged, objectMembers, Label.members,
    typeMember_eq tagged, url, name, fields_written]
  simp [layout, arranged_cons, arranged_nil, present_canonicalMembers, nodeNames]

theorem canonical_of_check_object (inside : Json.HoldsInside WrittenCanonically members)
    {scheme : Scheme} (accepted : check room (.object members) = .ok scheme)
    (each_finite : scheme.EveryContent Json.IsFinite) :
    scheme.toJson = canonical (.object members) := by
  obtain ⟨kind, tagged⟩ := exists_tag ((judges_check room _).succeeds_iff.mp ⟨scheme, accepted⟩)
  rw [check_object tagged, under_eq_ok, entered_eq_ok] at accepted
  obtain ⟨left, -, entered⟩ := accepted
  obtain ⟨-, kind_accepted⟩ := spelled_eq_ok.mp entered
  cases kind with
  | string =>
    obtain ⟨⟨⟨label, path⟩, reading, _⟩, parts, rfl⟩ := map_eq_ok.mp kind_accepted
    simp only [both_eq_ok] at parts
    obtain ⟨head_read, mode_read, -⟩ := parts
    exact canonical_of_string tagged head_read mode_read (everyContent_string.mp each_finite)
  | list =>
    obtain ⟨⟨⟨label, path⟩, element, content, elements, _⟩, parts, rfl⟩ :=
      map_eq_ok.mp kind_accepted
    simp only [both_eq_ok] at parts
    obtain ⟨head_read, element_read, content_read, elements_read, -⟩ := parts
    exact canonical_of_list inside tagged head_read element_read content_read elements_read
      each_finite
  | object =>
    obtain ⟨⟨label, fields, _⟩, parts, rfl⟩ := map_eq_ok.mp kind_accepted
    simp only [both_eq_ok] at parts
    obtain ⟨label_read, fields_read, -⟩ := parts
    exact canonical_of_object inside tagged label_read fields_read each_finite

theorem canonical_of_checkField_object (inside : Json.HoldsInside WrittenCanonically members)
    {field : Field Scheme} (accepted : checkField room (.object members) = .ok field)
    (each_finite : ∀ scheme ∈ field.value, scheme.EveryContent Json.IsFinite) :
    Json.object (fieldMembers field) = canonical (.object members) := by
  obtain ⟨⟨key, value, _⟩, parts, rfl⟩ := map_eq_ok.mp (spelled_eq_ok.mp accepted).2
  simp only [both_eq_ok, checkValue_eq] at parts
  obtain ⟨key_read, value_read, known⟩ := parts
  have key_written : [(Text.ofString "key", Json.string key)] =
      optionalMember "key" (present "key" members) := by
    rw [present, valueOf_of_requiredText key_read]
    rfl
  have value_written := written_schemeAttribute inside value_read each_finite
  have no_tag : valueOf "type" members = none :=
    (known_of_onlyKeys known).valueOf_eq_none (by decide)
  rw [canonical, layoutOf, no_tag, fieldMembers, value_written, ← List.singleton_append,
    key_written]
  simp [fieldLayout, arranged_cons, arranged_nil, present_canonicalMembers, nodeNames]

end Read

end Members

theorem writtenCanonically (value : Json) : WrittenCanonically value := by
  induction value using Json.induction_inside with
  | object members inside =>
    intro room
    constructor
    · intro scheme accepted each_finite
      exact canonical_of_check_object inside accepted each_finite
    · intro field accepted each_finite
      exact canonical_of_checkField_object inside accepted each_finite
  | _ => exact fun _ => ⟨nofun, nofun⟩

/-- What is written of a scheme is the canonical form of what it was made of. -/
theorem toJson_eq_canonical {room : Nat} {value : Json} {scheme : Scheme}
    (accepted : check room value = .ok scheme) (each_finite : scheme.EveryContent Json.IsFinite) :
    scheme.toJson = canonical value :=
  (writtenCanonically value room).1 scheme accepted each_finite

/-! ### Loading and writing -/

/-- A value that is no text is loaded as it is checked. -/
theorem load_ofJson {limits : Limits} {value : Json} (no_text : ∀ text, value ≠ .string text) :
    load limits (.ofJson value) = (check limits.nodes value).orFault "Scheme" .data := by
  cases value with
  | string text => exact absurd rfl (no_text text)
  | _ => rfl

/-- A value that is no text is loaded if and only if it is a scheme with no more nodes in each other
than there is room for, and else refused with an error. What was loaded is written if and only if
the keys in its content can be and there is room for its levels, and then in canonical form. -/
theorem load_iff_isScheme {limits : Limits} {value : Json}
    (no_text : ∀ text, value ≠ .string text) :
    ((∃ scheme, load limits (.ofJson value) = .ok scheme) ↔ IsScheme limits.nodes value) ∧
    (¬ IsScheme limits.nodes value →
      ∃ errors, errors ≠ [] ∧ load limits (.ofJson value) = .error (.format "Scheme" errors)) ∧
    ∀ scheme, load limits (.ofJson value) = .ok scheme → scheme.EveryContent Json.IsFinite →
      ((∃ written, scheme.write limits = .ok written) ↔
        scheme.EveryContent Json.KeysWellFormed ∧ scheme.LevelsWithin limits.values) ∧
      ∀ written, scheme.write limits = .ok written → written = canonical value := by
  rw [load_ofJson no_text]
  simp only [orFault_eq_ok]
  have judges := judges_check limits.nodes value
  refine ⟨judges.succeeds_iff, ?_, ?_⟩
  · intro no_scheme
    obtain ⟨problems, some_problem, refused⟩ := judges.exists_problems no_scheme
    refine ⟨problems.map (Problem.report .data), by simpa using some_problem, ?_⟩
    rw [refused]
    rfl
  · intro scheme accepted each_finite
    have bare : scheme.write limits = (Document.bare scheme).write limits := rfl
    rw [bare]
    refine ⟨Document.written_iff (admissible_of_check accepted).valid, ?_⟩
    intro written is_written
    obtain ⟨-, rfl⟩ := Document.write_eq_ok.mp is_written
    exact toJson_eq_canonical accepted each_finite

/-- A rack of prices, with nulls, without defaults and with its keys in no order. -/
def looseRack : Json :=
  .ofMembers [("fields", .array [.ofMembers [("value", .ofMembers [
      ("content", .array [.null, .int 3]), ("type", .ofString "LIST"), ("path", .null),
      ("element_scheme", .ofMembers [("path", .ofString "b"), ("type", .ofString "STRING")])]),
      ("key", .ofString "prices")],
    .ofMembers [("value", .null), ("key", .ofString "rest")]]),
    ("type", .ofString "OBJECT"), ("name", .null), ("url", .ofString "http://shop/")]

def neatRack : Json :=
  .ofMembers [("url", .ofString "http://shop/"), ("type", .ofString "OBJECT"),
    ("fields", .array [.ofMembers [("key", .ofString "prices"), ("value", .ofMembers [
      ("type", .ofString "LIST"), ("element_scheme", .ofMembers [("type", .ofString "STRING"),
        ("path", .ofString "b"), ("mode", .ofString "INNER_HTML")]),
      ("content", .array [.null, .int 3])])],
    .ofMembers [("key", .ofString "rest")]])]

def rack : Scheme :=
  object ⟨some (Text.ofString "http://shop/"), none⟩
    [⟨Text.ofString "prices", some (list {} none
      (some (string {} (some (Text.ofString "b")) .innerHtml .null)) (some [.null, .int 3]) none)⟩,
    ⟨Text.ofString "rest", none⟩]

/-- The loose rack is loaded and written neatly; null is refused. -/
theorem looseRack_written :
    ((∀ text, looseRack ≠ .string text) ∧ IsScheme Limits.usual.nodes looseRack ∧
      load .usual (.ofJson looseRack) = .ok rack ∧ rack.EveryContent Json.IsFinite ∧
        rack.write .usual = .ok neatRack ∧ neatRack = canonical looseRack) ∧
    ∃ errors, errors ≠ [] ∧ load .usual (.ofJson .null) = .error (.format "Scheme" errors) := by
  have no_text : ∀ text, looseRack ≠ .string text := nofun
  have loaded : load .usual (.ofJson looseRack) = .ok rack := rfl
  have each_finite : rack.EveryContent Json.IsFinite := by
    simp [rack, everyContent_object, everyContent_list, Json.IsFinite.null, Json.IsFinite.int]
  have written : rack.write .usual = .ok neatRack := rfl
  obtain ⟨accepts, -, writes⟩ := load_iff_isScheme no_text
  have no_null_text : ∀ text, Json.null ≠ .string text := nofun
  obtain ⟨-, refuses, -⟩ := load_iff_isScheme no_null_text
  exact ⟨⟨no_text, accepts.mp ⟨rack, loaded⟩, loaded, each_finite, written,
    (writes rack loaded each_finite).2 neatRack written⟩, refuses nofun⟩

/-! ### Beyond the limits -/

/-- A string within lists, one in the other. -/
def nestedLists : Nat → Json
  | 0 => .ofMembers [("type", .ofString "STRING")]
  | count + 1 => .ofMembers [("type", .ofString "LIST"), ("element_scheme", nestedLists count)]

theorem isScheme_nestedLists {room count : Nat} :
    IsScheme room (nestedLists count) ↔ count < room := by
  induction count generalizing room with
  | zero =>
    cases room with
    | zero => exact iff_of_false not_isScheme_zero (Nat.lt_irrefl 0)
    | succ room =>
      refine iff_of_true ?_ (Nat.succ_pos room)
      exact (isScheme_string (by simp [IsTagged])).mpr
        (by simp [Optionally, WhereGiven, stringKeys])
  | succ count ih =>
    cases room with
    | zero => exact iff_of_false not_isScheme_zero (Nat.not_lt_zero _)
    | succ room =>
      have not_null : nestedLists count ≠ .null := by
        intro is_null
        have other := congrArg Json.isNull is_null
        cases count <;> cases other
      rw [nestedLists, Json.ofMembers, isScheme_list (by simp [IsTagged]), Nat.succ_lt_succ_iff,
        ← ih]
      simp [Optionally, not_null, listKeys]

/-- Whatever is loaded and has a property is written in canonical form. -/
def AllWritten (holds : Scheme → Prop) : Prop :=
  ∀ value : Json, (∀ text, value ≠ .string text) → ∀ scheme,
    load .usual (.ofJson value) = .ok scheme → scheme.EveryContent Json.IsFinite → holds scheme →
      scheme.write .usual = .ok (canonical value)

theorem holding_ne_string (content : Json) (text : Text) :
    (Document.holding content).toJson ≠ .string text := nofun

theorem load_holding {content : Json} (is_finite : content.IsFinite) :
    load .usual (.ofJson (Document.holding content).toJson) =
      .ok (Document.holding content).scheme := by
  rw [load_ofJson (holding_ne_string content), orFault_eq_ok]
  exact (check_string {} none .innerHtml content).trans (by rw [is_finite.finite_eq]; rfl)

/-- Too many lists in each other are a scheme that is not loaded. Of what is loaded, content with an
unfit key is not written in canonical form or in any other, and neither is content that goes too
deep. -/
theorem unfit_not_written :
    (¬ ∀ value : Json, (∀ text, value ≠ .string text) → (∃ room, IsScheme room value) →
      ∃ scheme, load .usual (.ofJson value) = .ok scheme) ∧
    ¬ AllWritten (LevelsWithin Limits.usual.values) ∧
      ¬ AllWritten (EveryContent Json.KeysWellFormed) := by
  refine ⟨?_, ?_, ?_⟩
  · intro all_loaded
    have no_text : ∀ text, nestedLists 300 ≠ .string text := nofun
    obtain ⟨scheme, loaded⟩ :=
      all_loaded (nestedLists 300) no_text ⟨301, isScheme_nestedLists.mpr (by decide)⟩
    rw [load_ofJson no_text, orFault_eq_ok] at loaded
    have has_room := isScheme_nestedLists.mp ((judges_check _ _).succeeds_iff.mp ⟨scheme, loaded⟩)
    exact absurd has_room (by decide)
  · intro all_written
    have written := all_written _ (holding_ne_string _) _ (load_holding Document.isFinite_unfit)
      (Document.everyContent_holding.mpr Document.isFinite_unfit) Document.levelsWithin_unfit
    exact Document.unfit_refused ⟨_, written⟩
  · intro all_written
    have written := all_written _ (holding_ne_string _) _ (load_holding (Json.isFinite_nested 300))
      (Document.everyContent_holding.mpr (Json.isFinite_nested 300))
      (Document.everyContent_holding.mpr (Json.keysWellFormed_nested 300))
    exact Document.nested_refused ⟨_, written⟩

end PageScheme.Scheme
