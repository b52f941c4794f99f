import PageScheme.Proofs.Extraction.Modes
import PageScheme.Proofs.Scheme.Shape

/-!
# What is read has the shape of the scheme

Whatever a run of a scheme gives conforms to it: strings are texts, or null for a source that is
missing, lists hold what their element scheme reads, and objects have the keys of the scheme. A
single run puts an object together from its fields, and a run for every match from a row of its
columns; either way there is a member for each field, so that it is the last field with a key that
decides.

The texts of a page have no lone surrogates. What is read has the shape of the scheme with such
texts in it (`shaped_of_one`, `shaped_of_many`), and conforms to the scheme all the more.
-/
namespace PageScheme

/-- What a string may read: a text, or null for a source that is missing. -/
def Reading.MayGive (reading : Reading) (value : Json) : Prop :=
  value.IsText ∨ reading = .source ∧ value = .null

/-- A value of the shape of a scheme that holds nothing but texts, and null where a source is
missing or a field has no scheme. -/
def Scheme.Conforms : Scheme → Json → Prop := Scheme.Shaped Reading.MayGive Json.IsText

/-- A value is a text as pages hold them, without lone surrogates. -/
def Json.IsPageText (value : Json) : Prop := ∃ s, value = ofString s

/-- What a string reads of a page. -/
def Reading.Gives (reading : Reading) (value : Json) : Prop :=
  value.IsPageText ∨ reading = .source ∧ value = .null

namespace Extraction

open Scheme

variable {url : Text}

/-! ### Strings and untyped lists -/

theorem gives_readElement (reading : Reading) (p : Place) :
    reading.Gives (readElement reading p) := by
  cases reading with
  | innerHtml => exact .inl ⟨_, rfl⟩
  | source =>
    rw [readElement]
    split
    next value _ => exact .inl ⟨_, rfl⟩
    next => exact .inr ⟨rfl, rfl⟩

theorem shaped_untypedItems (label : Label) (path : Option Text) (old : Option (List Json))
    (elements : Option (List Scheme)) (p : Place) :
    (Scheme.list label path none old elements).Shaped Reading.Gives Json.IsPageText
      (untypedItems p) := by
  apply Shaped.untyped
  intro item member
  obtain ⟨child, -, rfl⟩ := List.mem_map.mp member
  exact ⟨_, rfl⟩

/-! ### Objects -/

theorem members_none_eq_ok {key : Text} {rest : List (Field Scheme)} {p : Place}
    {found : List (Text × Json)} :
    members url (⟨key, none⟩ :: rest) p = .ok found ↔
      ∃ tail, members url rest p = .ok tail ∧ found = (key, .null) :: tail := by
  simp only [members, bind_eq_ok, pure, Except.pure, Except.ok.injEq, eq_comm (a := found)]

theorem members_some_eq_ok {key : Text} {value : Scheme} {rest : List (Field Scheme)} {p : Place}
    {found : List (Text × Json)} :
    members url (⟨key, some value⟩ :: rest) p = .ok found ↔
      ∃ head tail, one url value p = .ok head ∧ members url rest p = .ok tail ∧
        found = (key, head) :: tail := by
  simp only [members, bind_eq_ok, pure, Except.pure, Except.ok.injEq, eq_comm (a := found)]
  constructor
  · rintro ⟨head, head_ran, tail, tail_ran, same⟩
    exact ⟨head, tail, head_ran, tail_ran, same⟩
  · rintro ⟨head, tail, head_ran, tail_ran, same⟩
    exact ⟨head, head_ran, tail, tail_ran, same⟩

section Members
variable {leaf : Reading → Json → Prop} {loose : Json → Prop}

/-- A member for a field without a scheme. -/
theorem madeFor_none (key : Text) : MadeFor leaf loose ⟨key, none⟩ (key, .null) :=
  ⟨rfl, nofun, fun _ => rfl⟩

theorem madeFor_some {key : Text} {value : Scheme} {content : Json}
    (shaped : value.Shaped leaf loose content) :
    MadeFor leaf loose ⟨key, some value⟩ (key, content) := by
  refine ⟨rfl, ?_, nofun⟩
  intro scheme is_value
  obtain rfl := Option.some_inj.mp is_value
  exact shaped

/-- Fields that are run once give a member each. -/
theorem madeFor_of_members {fields : List (Field Scheme)} {p : Place}
    {found : List (Text × Json)} (ran : members url fields p = .ok found)
    (each : ∀ field ∈ fields, ∀ value ∈ field.value, ∀ content,
      one url value p = .ok content → value.Shaped leaf loose content) :
    List.Forall₂ (MadeFor leaf loose) fields found := by
  induction fields generalizing found with
  | nil => cases ran; exact .nil
  | cons field rest ih =>
    have each_rest := fun other member => each other (List.mem_cons_of_mem _ member)
    obtain ⟨key, _ | value⟩ := field
    · obtain ⟨tail, tail_ran, rfl⟩ := members_none_eq_ok.mp ran
      exact .cons (madeFor_none key) (ih tail_ran each_rest)
    · obtain ⟨head, tail, head_ran, tail_ran, rfl⟩ := members_some_eq_ok.mp ran
      have shaped := each ⟨key, some value⟩ List.mem_cons_self value rfl head head_ran
      exact .cons (madeFor_some shaped) (ih tail_ran each_rest)

/-- What a column holds in a row. -/
def cell (index : Nat) (values : Option (List Json)) : Json :=
  (values.bind fun values => values[index]?).getD .null

def rowMembers (table : List Column) (index : Nat) : List (Text × Json) :=
  table.map fun (key, values) => (key, cell index values)

theorem row_eq (table : List Column) (index : Nat) :
    row table index = .object (Json.putAll (rowMembers table index)) := rfl

/-- A row that reaches no column's end holds a member for each field. -/
theorem madeFor_of_columns {expected : Option Nat} {fields : List (Field Scheme)} {p : Place}
    {table : List Column} {index : Nat} (ran : columns url expected fields p = .ok table)
    (inside : ∀ key values, (key, some values) ∈ table → index < values.length)
    (each : ∀ field ∈ fields, ∀ value ∈ field.value, ∀ contents, many url value p = .ok contents →
      ∀ content ∈ contents, value.Shaped leaf loose content) :
    List.Forall₂ (MadeFor leaf loose) fields (rowMembers table index) := by
  induction fields generalizing expected table with
  | nil => cases ran; exact .nil
  | cons field rest ih =>
    have each_rest := fun other member => each other (List.mem_cons_of_mem _ member)
    obtain ⟨key, _ | value⟩ := field
    · obtain ⟨tail, tail_ran, rfl⟩ := columns_none_eq_ok.mp ran
      have inside_rest := fun name values member =>
        inside name values (List.mem_cons_of_mem _ member)
      exact .cons (madeFor_none key) (ih tail_ran inside_rest each_rest)
    · obtain ⟨head, tail, head_ran, _, tail_ran, rfl⟩ := columns_some_eq_ok.mp ran
      have inside_rest := fun name values member =>
        inside name values (List.mem_cons_of_mem _ member)
      have here := inside key head List.mem_cons_self
      have shaped := each ⟨key, some value⟩ List.mem_cons_self value rfl head head_ran
        head[index] (List.getElem_mem here)
      have is_cell : cell index (some head) = head[index] := by simp [cell, here]
      refine .cons ?_ (ih tail_ran inside_rest each_rest)
      exact madeFor_some (is_cell ▸ shaped)

end Members

/-! ### Schemes -/

theorem shaped_of_many {scheme : Scheme} {p : Place} {contents : List Json}
    (ran : many url scheme p = .ok contents) :
    ∀ content ∈ contents, scheme.Shaped Reading.Gives Json.IsPageText content := by
  induction scheme generalizing p contents with
  | string label path reading old =>
    obtain ⟨places, -, read⟩ := bind_eq_ok.mp ran
    obtain rfl := Except.ok.inj read
    rw [List.forall_mem_map]
    intro place _
    exact .string (gives_readElement reading place)
  | list label path element old elements element_ih _ =>
    cases element with
    | none =>
      obtain ⟨places, -, read⟩ := bind_eq_ok.mp ran
      obtain rfl := Except.ok.inj read
      rw [List.forall_mem_map]
      intro place _
      exact shaped_untypedItems label path old elements place
    | some element =>
      obtain ⟨places, -, read⟩ := bind_eq_ok.mp ran
      intro content member
      -- Each value is the list of what was read in one of the containers.
      obtain ⟨container, -, container_ran⟩ := exists_of_mapM_eq_ok read content member
      obtain ⟨items, items_ran, rfl⟩ := map_eq_ok.mp container_ran
      exact .list (element_ih element rfl items_ran)
  | object label fields ih =>
    obtain ⟨table, table_ran, together⟩ := bind_eq_ok.mp ran
    obtain rfl := Except.ok.inj together
    rw [rows, List.forall_mem_map]
    intro index in_range
    have inside : ∀ key values, (key, some values) ∈ table → index < values.length := by
      intro key values member
      rw [length_eq_of_columns table_ran key values member]
      exact List.mem_range.mp in_range
    rw [row_eq]
    apply Shaped.of_members
    apply madeFor_of_columns table_ran inside
    intro field member value is_value contents contents_ran
    exact ih field member value is_value contents_ran
  | foreign node => cases ran

theorem shaped_of_one {scheme : Scheme} {p : Place} {content : Json}
    (ran : one url scheme p = .ok content) :
    scheme.Shaped Reading.Gives Json.IsPageText content := by
  induction scheme generalizing p content with
  | string label path reading old =>
    obtain ⟨place, -, read⟩ := bind_eq_ok.mp ran
    obtain rfl := Except.ok.inj read
    exact .string (gives_readElement reading place)
  | list label path element old elements =>
    cases element with
    | none =>
      obtain ⟨place, -, read⟩ := bind_eq_ok.mp ran
      obtain rfl := Except.ok.inj read
      exact shaped_untypedItems label path old elements place
    | some element =>
      obtain ⟨place, -, read⟩ := bind_eq_ok.mp ran
      obtain ⟨items, items_ran, same⟩ := bind_eq_ok.mp read
      obtain rfl := Except.ok.inj same
      exact .list (shaped_of_many items_ran)
  | object label fields ih =>
    obtain ⟨found, found_ran, together⟩ := bind_eq_ok.mp ran
    obtain rfl := Except.ok.inj together
    apply Shaped.of_members
    apply madeFor_of_members found_ran
    intro field member value is_value content content_ran
    exact ih field member value is_value content_ran
  | foreign node => cases ran

theorem conforms_of_shaped {scheme : Scheme} {content : Json}
    (shaped : scheme.Shaped Reading.Gives Json.IsPageText content) : scheme.Conforms content := by
  have is_text : ∀ value, Json.IsPageText value → Json.IsText value := by
    rintro value ⟨s, rfl⟩
    exact ⟨_, rfl⟩
  apply shaped.imp _ is_text
  rintro reading value (page_text | missing)
  · exact .inl (is_text value page_text)
  · exact .inr missing

theorem conforms_of_many {scheme : Scheme} {p : Place} {contents : List Json}
    (ran : many url scheme p = .ok contents) : ∀ content ∈ contents, scheme.Conforms content :=
  fun content member => conforms_of_shaped (shaped_of_many ran content member)

theorem conforms_of_one {scheme : Scheme} {p : Place} {content : Json}
    (ran : one url scheme p = .ok content) : scheme.Conforms content :=
  conforms_of_shaped (shaped_of_one ran)

/-- Whatever a single run of a scheme gives conforms to it, and so does every value that a run for
every match gives. -/
theorem read_conforms (url : Text) (scheme : Scheme) (p : Place) :
    (∀ content, one url scheme p = .ok content → scheme.Conforms content) ∧
    ∀ contents, many url scheme p = .ok contents → ∀ content ∈ contents, scheme.Conforms content :=
  ⟨fun _ ran => conforms_of_one ran, fun _ ran => conforms_of_many ran⟩

def picture (path : String) (reading : Reading) : Option Scheme :=
  some (.string {} (some (Text.ofString path)) reading .null)

/-- Pictures, with a caption that the source takes the place of, and a note. -/
def gallery : Scheme :=
  .list {} none (some (.object {} [⟨Text.ofString "shown", picture "b" .innerHtml⟩,
    ⟨Text.ofString "note", none⟩, ⟨Text.ofString "shown", picture "img" .source⟩])) none none

/-- Two pictures, of which the second has no source. -/
def galleryPlace : Place :=
  ⟨.element "div" [] [.element "b" [] [.text "x"], .element "img" [⟨"src", some "x.png"⟩] [],
    .element "b" [] [.text "y"], .element "img" [] []], [], [], []⟩

def galleryRow (shown : Json) : Json :=
  .ofMembers [("shown", shown), ("note", .null)]

def galleryContent : Json := .array [galleryRow (.ofString "x.png"), galleryRow .null]

/-- The rows of the gallery have the source of the picture in the place of the caption, or null. -/
theorem galleryContent_conforms :
    (one [] gallery galleryPlace = .ok galleryContent ∧ gallery.Conforms galleryContent) ∧
      many [] gallery galleryPlace = .ok [galleryContent] ∧
        ∀ content ∈ [galleryContent], gallery.Conforms content := by
  have once : one [] gallery galleryPlace = .ok galleryContent := rfl
  have each : many [] gallery galleryPlace = .ok [galleryContent] := rfl
  obtain ⟨of_one, of_many⟩ := read_conforms [] gallery galleryPlace
  exact ⟨⟨once, of_one _ once⟩, each, of_many _ each⟩

end Extraction
end PageScheme
