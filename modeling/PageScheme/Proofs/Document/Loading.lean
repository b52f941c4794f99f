import PageScheme.Proofs.Scheme.Judging

/-!
# What is loaded

Checking makes valid schemes only, with no more nodes in each other than there is room for
(`admissible_of_check`), so that every loaded document has one. A scheme never has a member by which
instructions are known, so that a document that has been written is loaded as the document it was,
instructions as instructions and a scheme by itself as such (`load_toJson`).
-/
namespace PageScheme

namespace Scheme

open Checked

/-! ### What is checked -/

/-- Whatever a value is checked to be, a scheme or a field, may be made of a document, in whatever
room it is checked. -/
def MadeAdmissible (value : Json) : Prop :=
  ∀ room, (∀ scheme, check room value = .ok scheme → scheme.Admissible room) ∧
    ∀ field, checkField room value = .ok field → ∀ scheme ∈ field.value, scheme.Admissible room

section Accepted
variable {members : List (Text × Json)} {room : Nat}

/-- A scheme that is read for an attribute may be made of a document. -/
theorem admissible_of_attribute (inside : Json.HoldsInside MadeAdmissible members) {name : String}
    {value : Option Scheme} (accepted : attributeOf name (check room) members = .ok value) :
    ∀ scheme ∈ value, scheme.Admissible room := by
  rintro scheme rfl
  obtain ⟨written, found, read⟩ := of_attributeOf_eq_some accepted
  exact ((attribute_of_inside inside found).1 room).1 scheme read

theorem admissible_of_checkElements (inside : Json.HoldsInside MadeAdmissible members)
    {elements : Option (List Scheme)} (accepted : checkElements room members = .ok elements) :
    ∀ schemes ∈ elements, ∀ scheme ∈ schemes, scheme.Admissible room := by
  rintro schemes rfl
  rw [checkElements_eq] at accepted
  obtain ⟨written, found, read⟩ := of_attributeOf_eq_some accepted
  cases written with
  | array items =>
    intro scheme is_copy
    obtain ⟨item, listed, item_read⟩ := of_sequenceFrom_eq_ok read scheme is_copy
    exact ((attribute_of_inside inside found).2 item listed room).1 scheme item_read
  | _ => cases read

theorem admissible_of_checkFields (inside : Json.HoldsInside MadeAdmissible members)
    {fields : List (Field Scheme)} (accepted : checkFields room members = .ok fields) :
    ∀ field ∈ fields, ∀ scheme ∈ field.value, scheme.Admissible room := by
  rw [checkFields_eq] at accepted
  split at accepted
  next =>
    obtain rfl := Except.ok.inj accepted
    nofun
  next value found =>
    have read := under_eq_ok.mp accepted
    cases value with
    | array items =>
      intro field is_field
      obtain ⟨item, listed, item_read⟩ := of_sequenceFrom_eq_ok read field is_field
      exact ((attribute_of_inside inside found).2 item listed room).2 field item_read
    | _ => cases read

/-- A node that there is room for leaves the nodes below it one level less. -/
theorem admissible_of_checkKind (inside : Json.HoldsInside MadeAdmissible members) {kind : Kind}
    {scheme : Scheme} (accepted : checkKind room kind members = .ok scheme) :
    scheme.Admissible (room + 1) := by
  cases kind with
  | string =>
    obtain ⟨parts, -, rfl⟩ := map_eq_ok.mp accepted
    exact admissible_string
  | list =>
    obtain ⟨⟨⟨label, path⟩, element, content, elements, _⟩, parts, rfl⟩ := map_eq_ok.mp accepted
    simp only [both_eq_ok] at parts
    obtain ⟨-, element_read, -, elements_read, -⟩ := parts
    rw [checkElement_eq] at element_read
    exact admissible_list (admissible_of_attribute inside element_read)
      (admissible_of_checkElements inside elements_read)
  | object =>
    obtain ⟨⟨label, fields, _⟩, parts, rfl⟩ := map_eq_ok.mp accepted
    simp only [both_eq_ok] at parts
    exact admissible_object (admissible_of_checkFields inside parts.2.1)

theorem admissible_of_check_object (inside : Json.HoldsInside MadeAdmissible members)
    {scheme : Scheme} (accepted : check room (.object members) = .ok scheme) :
    scheme.Admissible room := by
  obtain ⟨kind, tagged⟩ := exists_tag ((judges_check room _).succeeds_iff.mp ⟨scheme, accepted⟩)
  rw [check_object tagged, under_eq_ok, entered_eq_ok] at accepted
  obtain ⟨left, rfl, entered⟩ := accepted
  exact admissible_of_checkKind inside (spelled_eq_ok.mp entered).2

theorem admissible_of_checkField_object (inside : Json.HoldsInside MadeAdmissible members)
    {field : Field Scheme} (accepted : checkField room (.object members) = .ok field) :
    ∀ scheme ∈ field.value, scheme.Admissible room := by
  obtain ⟨⟨key, value, _⟩, parts, rfl⟩ := map_eq_ok.mp (spelled_eq_ok.mp accepted).2
  simp only [both_eq_ok, checkValue_eq] at parts
  exact admissible_of_attribute inside parts.2.1

end Accepted

theorem madeAdmissible (value : Json) : MadeAdmissible value := by
  induction value using Json.induction_inside with
  | object members inside =>
    intro room
    exact ⟨fun scheme accepted => admissible_of_check_object inside accepted,
      fun field accepted => admissible_of_checkField_object inside accepted⟩
  | _ => exact fun _ => ⟨nofun, nofun⟩

theorem admissible_of_check {room : Nat} {value : Json} {scheme : Scheme}
    (accepted : check room value = .ok scheme) : scheme.Admissible room :=
  (madeAdmissible value room).1 scheme accepted

end Scheme

section Load
variable {α : Type} {model : String} {check : Json → Checked α} {a : α}

theorem orFault_eq_ok {origin : Origin} {part : Checked α} :
    part.orFault model origin = .ok a ↔ part = .ok a := by
  cases part <;> simp [Checked.orFault, Except.mapError]

/-- Whatever is loaded has been made of some value. -/
theorem exists_check_of_load {written : Written} (loaded : load model check written = .ok a) :
    ∃ value, check value = .ok a := by
  have of_bytes : ∀ bytes, loadBytes model check bytes = .ok a → ∃ value, check value = .ok a := by
    intro bytes loaded
    unfold loadBytes at loaded
    split at loaded
    next value _ => exact ⟨value, orFault_eq_ok.mp loaded⟩
    next => cases loaded
  cases written with
  | value value => exact ⟨value, orFault_eq_ok.mp loaded⟩
  | bytes bytes => exact of_bytes bytes loaded
  | text text =>
    simp only [load] at loaded
    split at loaded
    next s _ => exact of_bytes _ loaded
    next => cases loaded

end Load

namespace Instructions

open Checked
variable {room : Nat} {i : Instructions}

theorem admissible_of_check {value : Json} (accepted : check room value = .ok i) :
    i.scheme.Admissible room := by
  cases value with
  | object members =>
    obtain ⟨⟨url, scheme, _⟩, parts, rfl⟩ := map_eq_ok.mp (Scheme.spelled_eq_ok.mp accepted).2
    simp only [both_eq_ok, under_eq_ok] at parts
    obtain ⟨-, scheme_read, -⟩ := parts
    split at scheme_read
    next => cases scheme_read
    next value _ => exact Scheme.admissible_of_check scheme_read
  | _ => cases accepted

theorem check_toJson (admissible : i.scheme.Admissible room) :
    check room i.toJson = .ok { i with scheme := i.scheme.finite } := by
  let members :=
    [(Text.ofString "url", Json.string i.url), (Text.ofString "scheme", i.scheme.toJson)]
  have known : Scheme.Known ["url", "scheme"] members := by simp [members]
  have url : Scheme.requiredText "url" members = .ok i.url := by
    simp [members, Scheme.requiredText, under_eq_ok, Scheme.textOf]
  have written : Scheme.valueOf "scheme" members = some i.scheme.toJson := by
    simp [members]
  show check room (.object members) = _
  rw [check, Scheme.spelled_eq_ok, url, written, known.onlyKeys_eq_ok]
  simp only [Scheme.check_toJson admissible.valid admissible.within]
  exact ⟨known.isWellFormed, rfl⟩

end Instructions

namespace Document
variable {limits : Limits} {document : Document}

/-- A loaded document has a scheme that a check may accept. -/
theorem admissible_of_load {written : Written} (loaded : load limits written = .ok document) :
    document.scheme.Admissible limits.nodes := by
  have of_value : ∀ value, loadValue limits value = .ok document →
      document.scheme.Admissible limits.nodes := by
    intro value loaded
    unfold loadValue at loaded
    split at loaded
    · obtain ⟨i, is_loaded, rfl⟩ := map_eq_ok.mp loaded
      obtain ⟨value, accepted⟩ := exists_check_of_load is_loaded
      exact Instructions.admissible_of_check accepted
    · obtain ⟨scheme, is_loaded, rfl⟩ := map_eq_ok.mp loaded
      obtain ⟨value, accepted⟩ := exists_check_of_load is_loaded
      exact Scheme.admissible_of_check accepted
  have of_reading : ∀ text reading, loadReading limits text reading = .ok document →
      document.scheme.Admissible limits.nodes := by
    intro text reading loaded
    cases reading with
    | ok value => exact of_value value loaded
    | error fault => cases loaded
  cases written with
  | value value => exact of_value value loaded
  | text text => exact of_reading text _ loaded
  | bytes bytes =>
    simp only [load] at loaded
    split at loaded
    next text _ => exact of_reading text _ loaded
    next => cases loaded

/-- A loaded document has a valid scheme. -/
theorem valid_of_load {written : Written} (loaded : load limits written = .ok document) :
    document.scheme.Valid :=
  (admissible_of_load loaded).valid

/-! ### Loading what has been written -/

theorem hasScheme_toJson_bare {scheme : Scheme} (valid : scheme.Valid) :
    hasScheme scheme.toJson = false := by
  cases valid with
  | string => simp [Scheme.toJson_string, hasScheme, Scheme.stringMembers, Label.members]
  | list => simp [Scheme.toJson_list, hasScheme, Scheme.listMembers, Label.members]
  | object => simp [Scheme.toJson_object, hasScheme, Scheme.objectMembers, Label.members]

theorem hasScheme_toJson_instructions (i : Instructions) : hasScheme i.toJson = true := by
  simp [Instructions.toJson, Json.ofMembers, hasScheme]

/-- What is written is never taken for text. -/
theorem ofJson_toJson {scheme : Scheme} (valid : scheme.Valid) :
    Written.ofJson scheme.toJson = .value scheme.toJson := by
  cases valid with
  | string => rfl
  | list => rw [Scheme.toJson_list]; rfl
  | object => rfl

/-- A written document becomes the document it was, but for numbers that JSON cannot write. -/
theorem loadValue_toJson (admissible : document.scheme.Admissible limits.nodes) :
    loadValue limits document.toJson = .ok (document.withScheme document.scheme.finite) := by
  cases document with
  | bare scheme =>
    change scheme.Admissible limits.nodes at admissible
    have accepted : Scheme.load limits (.ofJson scheme.toJson) = .ok scheme.finite := by
      rw [ofJson_toJson admissible.valid]
      exact orFault_eq_ok.mpr (Scheme.check_toJson admissible.valid admissible.within)
    rw [toJson, loadValue, hasScheme_toJson_bare admissible.valid, accepted]
    rfl
  | instructions i =>
    have accepted : Instructions.load limits (.ofJson i.toJson) =
        .ok { i with scheme := i.scheme.finite } :=
      orFault_eq_ok.mpr (Instructions.check_toJson admissible)
    rw [toJson, loadValue, hasScheme_toJson_instructions, accepted]
    rfl

theorem load_toJson (admissible : document.scheme.Admissible limits.nodes) :
    load limits (.ofJson document.toJson) =
      .ok (document.withScheme document.scheme.finite) := by
  have is_value : Written.ofJson document.toJson = .value document.toJson := by
    cases document with
    | bare scheme => exact ofJson_toJson admissible.valid
    | instructions i => rfl
  rw [is_value]
  exact loadValue_toJson admissible

/-! ### Writing -/

/-- A document is written as what it is in JSON, unless something in its scheme stops that. -/
theorem write_eq : document.write limits =
    unlessStopped (document.scheme.obstacle? limits.values) document.toJson := by
  cases document <;> rfl

theorem write_eq_ok {value : Json} :
    document.write limits = .ok value ↔
      document.scheme.obstacle? limits.values = none ∧ value = document.toJson := by
  rw [write_eq]
  cases document.scheme.obstacle? limits.values <;> simp [unlessStopped, eq_comm]

/-- A document can be written if and only if the keys in its content are well-formed and there is
room for its levels. -/
theorem written_iff (valid : document.scheme.Valid) :
    (∃ value, document.write limits = .ok value) ↔
      document.scheme.EveryContent Json.KeysWellFormed ∧
        document.scheme.LevelsWithin limits.values := by
  rw [← Scheme.obstacle?_eq_none valid]
  simp only [write_eq_ok, exists_and_left, exists_eq, and_true]

end Document
end PageScheme
