import PageScheme.Proofs.Scheme.Valid
import PageScheme.Scheme.Populate

/-!
# Populating as a plain function

Populating can only fail at a foreign node, so on a valid scheme it is a plain function,
`populated`. It has one equation for each kind of node, and `Valid.populate_eq` says that it is what
the pass computes.
-/
namespace PageScheme.Scheme

mutual

/-- A scheme populated with content. -/
def populated (spread : Spread) : Scheme → Json → Scheme
  | string label path reading _, content => string label path reading content
  | list label path none _ _, content => list label path none (some content.items) none
  | list label path (some element) _ _, content =>
    let elements :=
      match spread with
      | .representative => none
      | .perElement => some (content.items.map (element.populated spread))
    list label path (some (element.populated spread (content.items.head?.getD .null)))
      (some content.items) elements
  | object label fields, content => object label (fieldsPopulated spread fields content)
  | foreign node, _ => foreign node
termination_by structural scheme => scheme

def fieldsPopulated (spread : Spread) : List (Field Scheme) → Json → List (Field Scheme)
  | [], _ => []
  | ⟨key, none⟩ :: rest, content => ⟨key, none⟩ :: fieldsPopulated spread rest content
  | ⟨key, some value⟩ :: rest, content =>
    let value :=
      match content.get? key with
      | some found => value.populated spread found
      | none => value
    ⟨key, some value⟩ :: fieldsPopulated spread rest content
termination_by structural fields => fields

end

/-- The copies of an element scheme, one for each item, where they are asked for. -/
def copies (spread : Spread) (element : Scheme) (items : List Json) : Option (List Scheme) :=
  match spread with
  | .representative => none
  | .perElement => some (items.map (element.populated spread))

/-- The value of a field populated with what the content holds for its key, if it holds anything. -/
def populatedFrom (spread : Spread) (content : Json) (key : Text) (value : Scheme) : Scheme :=
  match content.get? key with
  | some found => value.populated spread found
  | none => value

/-- A field populated with what the content holds for its key. -/
def fieldPopulated (spread : Spread) (content : Json) (field : Field Scheme) : Field Scheme :=
  field.map (populatedFrom spread content field.key)

theorem fieldsPopulated_eq_map (spread : Spread) (fields : List (Field Scheme)) (content : Json) :
    fieldsPopulated spread fields content = fields.map (fieldPopulated spread content) := by
  induction fields with
  | nil => rfl
  | cons field rest ih =>
    obtain ⟨key, value⟩ := field
    cases value <;> simp [fieldsPopulated, ih, fieldPopulated, populatedFrom, Field.map]

section Equations
variable (spread : Spread) (label : Label) (path : Option Text) (content : Json)

@[simp] theorem populated_string (reading : Reading) (old : Json) :
    (string label path reading old).populated spread content =
      string label path reading content := rfl

@[simp] theorem populated_untyped (old : Option (List Json)) (elements : Option (List Scheme)) :
    (list label path none old elements).populated spread content =
      list label path none (some content.items) none := rfl

@[simp] theorem populated_list (element : Scheme) (old : Option (List Json))
    (elements : Option (List Scheme)) :
    (list label path (some element) old elements).populated spread content =
      list label path (some (element.populated spread (content.items.head?.getD .null)))
        (some content.items) (copies spread element content.items) := by
  cases spread <;> rfl

@[simp] theorem populated_object (fields : List (Field Scheme)) :
    (object label fields).populated spread content =
      object label (fields.map (fieldPopulated spread content)) := by
  rw [populated, fieldsPopulated_eq_map]

end Equations

theorem mapM_populate_eq {spread : Spread} {element : Scheme} (items : List Json)
    (each : ∀ item, element.populate spread item = .ok (element.populated spread item)) :
    items.mapM (element.populate spread) = .ok (items.map (element.populated spread)) := by
  induction items with
  | nil => rfl
  | cons item rest ih =>
    rw [List.mapM_cons, each, ih]
    rfl

theorem populateFields_eq {spread : Spread} {fields : List (Field Scheme)} {content : Json}
    (each : ∀ field ∈ fields, ∀ scheme ∈ field.value, ∀ found,
      scheme.populate spread found = .ok (scheme.populated spread found)) :
    populateFields spread fields content = .ok (fields.map (fieldPopulated spread content)) := by
  induction fields with
  | nil => rfl
  | cons field rest ih =>
    have tail := ih fun other member => each other (List.mem_cons_of_mem _ member)
    obtain ⟨key, value⟩ := field
    cases value with
    | none => simp only [populateFields, tail]; rfl
    | some value =>
      have head := each ⟨key, some value⟩ List.mem_cons_self value rfl
      simp only [populateFields, tail, List.map_cons, fieldPopulated, populatedFrom, Field.map,
        Option.map_some]
      cases content.get? key with
      | none => rfl
      | some found => simp only [head]; rfl

/-- A valid scheme can be populated with any content. -/
theorem Valid.populate_eq {scheme : Scheme} (valid : scheme.Valid) (spread : Spread)
    (content : Json) : scheme.populate spread content = .ok (scheme.populated spread content) := by
  induction valid generalizing content with
  | string => rfl
  | @list label path element old elements _ _ element_ih _ =>
    cases element with
    | none => rfl
    | some element =>
      have first := element_ih element rfl
      simp only [populate, first, populated_list]
      -- Copies are made of the element scheme as it was, so its hypothesis serves for them too.
      cases spread with
      | representative => rfl
      | perElement => simp only [mapM_populate_eq _ first, copies]; rfl
  | object _ ih =>
    simp only [populate, populated_object]
    rw [populateFields_eq fun field member scheme is_value => ih field member scheme is_value]
    rfl

theorem Valid.populated {scheme : Scheme} (valid : scheme.Valid) (spread : Spread)
    (content : Json) : (scheme.populated spread content).Valid := by
  induction valid generalizing content with
  | string => exact .string
  | @list label path element old elements _ _ element_ih _ =>
    cases element with
    | none => exact .list (by simp) (by simp)
    | some element =>
      rw [populated_list]
      refine .list (by simpa using element_ih element rfl _) ?_
      intro schemes copied scheme member
      cases spread with
      | representative => simp [copies] at copied
      | perElement =>
        simp only [copies, Option.mem_def, Option.some.injEq] at copied
        subst copied
        obtain ⟨item, _, rfl⟩ := List.mem_map.mp member
        exact element_ih element rfl item
  | @object label fields fields_valid ih =>
    rw [populated_object]
    apply Valid.object
    intro field member scheme is_value
    obtain ⟨old, old_member, rfl⟩ := List.mem_map.mp member
    obtain ⟨value, value_eq, rfl⟩ := Option.map_eq_some_iff.mp is_value
    -- A field is populated, or stays as it was.
    simp only [populatedFrom]
    split
    · exact ih old old_member value value_eq _
    · exact fields_valid old old_member value value_eq

end PageScheme.Scheme
